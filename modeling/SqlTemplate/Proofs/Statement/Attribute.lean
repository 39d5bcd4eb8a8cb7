import SqlTemplate.Proofs.Placeholder.Language
import SqlTemplate.Proofs.Statement.Shrink

/-!
# Heads and attributes

The head of a placeholder and its attributes are entries of one table. The head comes first, under
one of two keys that are also names that an attribute can have.

**Theorem (`head_kept_iff`).** The first entry is always under the key of the head. It has the text
of the head, and there is no head of the other kind, exactly if no attribute is named like the other
kind and the last one that is named like the head repeats its text. A mapping refuses an attribute
for its name exactly if the name is none of the valid ones and none of the two keys of heads, and
nothing before it is refused.

Which entries are refused does not depend on what has been filled in before (`fill_eq_error_iff`),
so that the first one decides (`ofContent_eq_error_iff`).
-/

namespace SqlTemplate

/-! ## Entries that are refused -/

namespace Mapping

open Placeholder (propertyKey expressionKey typeKey)

variable {content key value : String} {m : Mapping} {e : Error}
  {schema : Option (Registry × String)} {ph : Placeholder}

/-- The error of an entry, if there is one: its name is unknown, or its value means nothing. -/
def fault? (content : String) (entry : String × String) : Option Error :=
  if entry.1 ∉ keys then some (.unknownAttribute entry.1 content)
  else if (entry.1 = "mode" ∧ Mode.ofText? entry.2 = none) ∨
      (entry.1 = "numericScale" ∧ scale? entry.2 = none) then
    some (.badAttribute entry.1 entry.2 content)
  else none

/-- Whether an entry is refused depends on the entry alone. -/
theorem fill_eq_error_iff :
    fill content m key value = .error e ↔ fault? content (key, value) = some e := by
  by_cases hkey : key ∈ keys
  · simp only [keys, List.mem_cons, List.not_mem_nil, or_false] at hkey
    rcases hkey with rfl | rfl | rfl | rfl | rfl | rfl | rfl | rfl | rfl
    case inr.inr.inr.inr.inr.inl =>
      cases hmode : Mode.ofText? value <;>
        simp [fill, fault?, keys, propertyKey, expressionKey, typeKey, hmode]
    case inr.inr.inr.inr.inr.inr.inl =>
      cases hscale : scale? value <;>
        simp [fill, fault?, keys, propertyKey, expressionKey, typeKey, hscale]
    all_goals simp [fill, fault?, keys, propertyKey, expressionKey, typeKey]
  · rw [fault?, if_pos hkey]
    simp only [keys, List.mem_cons, List.not_mem_nil, or_false, not_or] at hkey
    simp [fill, hkey]

theorem fault?_eq_none_iff {entry : String × String} :
    fault? content entry = none ↔ ∃ m, fill content {} entry.1 entry.2 = .ok m := by
  have herror (e : Error) : fill content {} entry.1 entry.2 = .error e ↔
      fault? content entry = some e := fill_eq_error_iff
  cases hfill : fill content {} entry.1 entry.2 with
  | ok m =>
    rw [hfill] at herror
    refine ⟨fun _ => ⟨m, rfl⟩, fun _ => Option.eq_none_iff_forall_ne_some.2 fun e he => ?_⟩
    cases (herror e).2 he
  | error e =>
    rw [(herror e).1 hfill]
    constructor
    · rintro ⟨⟩
    · rintro ⟨m, ⟨⟩⟩

/-- The names of entries are the valid names and the keys of heads. -/
theorem mem_keys_iff {name : String} :
    name ∈ keys ↔ name ∈ Error.attributeNames ∨ name = propertyKey ∨ name = expressionKey := by
  simp only [keys, Error.attributeNames, typeKey, List.mem_cons, List.not_mem_nil, or_false]
  grind

theorem fault?_eq_unknown_iff {name : String} {entry : String × String} :
    fault? content entry = some (.unknownAttribute name content) ↔
      entry.1 = name ∧ name ∉ Error.attributeNames ∧ name ≠ propertyKey ∧
        name ≠ expressionKey := by
  rw [← not_or, ← not_or, ← mem_keys_iff, fault?]
  split
  · next hkey => grind
  · next hkey => grind

/-- A content that parses is refused for its first entry that is. -/
theorem ofContent_eq_error_iff (hparse : Placeholder.parse content = .ok ph) :
    ofContent schema content = .error e ↔ ph.entries.findSome? (fault? content) = some e := by
  rw [← foldlM_eq_error_iff (f := fun m entry => fill content m entry.1 entry.2) (b := {})
    fun m entry e => fill_eq_error_iff, ofContent, hparse]
  dsimp only
  cases ph.entries.foldlM (fun m entry => fill content m entry.1 entry.2) {} with
  | error e' => exact Iff.rfl
  | ok filled =>
    constructor
    · rintro ⟨⟩
    · rintro ⟨⟩

end Mapping

namespace Placeholder

open Written (entry typeEntries)

/-! ## The entry of the head -/

/-- The key of the other kind of head. -/
def Head.otherKey : Head → String
  | .property _ => expressionKey
  | .expression _ => propertyKey

/-- A placeholder that has the head for its first entry, and no head of the other kind. -/
structure Keeps (head : Head) (ph : Placeholder) : Prop where
  first : ph.entries.head? = some (head.key, head.text)
  only : ph.get? head.otherKey = none

variable {text : String} {ph : Placeholder} {w : Written}

theorem Head.otherKey_ne_key (head : Head) : head.otherKey ≠ head.key := by
  cases head with
  | property path => exact (by decide : expressionKey ≠ propertyKey)
  | expression text => exact (by decide : propertyKey ≠ expressionKey)

theorem Head.otherKey_ne_typeKey (head : Head) : head.otherKey ≠ typeKey := by
  cases head with
  | property path => exact (by decide : expressionKey ≠ typeKey)
  | expression text => exact (by decide : propertyKey ≠ typeKey)

namespace TableOf

/-- A key has the text of the last attribute of this name, or else that of the head. -/
theorem get?_eq (h : TableOf w.entries ph.entries) {key : String} (hkey : key ≠ typeKey) :
    ph.get? key = ((w.attributes.map entry).reverse.lookup key).or
      (if key = w.head.key then some w.head.text else none) := by
  have htype : (typeEntries w.type).reverse.lookup key = none := by
    cases w.type with
    | none => rfl
    | some t => exact (lookup_cons_eq _ _ _ _).trans (if_neg hkey)
  rw [get?, h.last, Written.entries, List.reverse_cons, List.reverse_append, List.lookup_append,
    List.lookup_append, htype, Option.or_none, lookup_cons_eq, List.lookup_nil]

/-- The key of the head comes first. -/
theorem exists_head (h : TableOf w.entries ph.entries) :
    ∃ value, ph.entries.head? = some (w.head.key, value) ∧ ph.get? w.head.key = some value := by
  have hkeys := h.keys
  rw [Written.entries, List.map_cons, List.eraseDups_cons] at hkeys
  cases hentries : ph.entries with
  | nil => rw [hentries] at hkeys; cases hkeys
  | cons first rest =>
    obtain ⟨key, value⟩ := first
    rw [hentries] at hkeys
    obtain rfl : key = w.head.key := (List.cons.inj hkeys).1
    refine ⟨value, rfl, ?_⟩
    rw [get?, hentries, lookup_cons_eq, if_pos rfl]

theorem keeps_iff (h : TableOf w.entries ph.entries) :
    ph.Keeps w.head ↔
      (∀ a ∈ w.attributes, (entry a).1 ≠ w.head.otherKey) ∧
        ∀ value ∈ (w.attributes.map entry).reverse.lookup w.head.key, value = w.head.text := by
  obtain ⟨value, hfirst, hvalue⟩ := h.exists_head
  have hother := h.get?_eq w.head.otherKey_ne_typeKey
  rw [if_neg w.head.otherKey_ne_key, Option.or_none] at hother
  rw [h.get?_eq w.head.key_ne_typeKey, if_pos rfl] at hvalue
  have hfirst_iff : ph.entries.head? = some (w.head.key, w.head.text) ↔ value = w.head.text := by
    simp [hfirst]
  have hvalue_iff : (∀ v ∈ (w.attributes.map entry).reverse.lookup w.head.key, v = w.head.text) ↔
      value = w.head.text := by
    cases hlast : (w.attributes.map entry).reverse.lookup w.head.key with
    | none => rw [hlast] at hvalue; cases hvalue; exact ⟨fun _ => rfl, fun _ => nofun⟩
    | some v => rw [hlast] at hvalue; cases hvalue; simp
  have honly_iff : ph.get? w.head.otherKey = none ↔
      ∀ a ∈ w.attributes, (entry a).1 ≠ w.head.otherKey := by
    rw [hother, List.lookup_eq_none_iff]
    simp only [List.mem_reverse, List.forall_mem_map, bne_iff_ne, ne_comm]
  rw [hvalue_iff, ← hfirst_iff, ← honly_iff]
  exact ⟨fun hkeeps => ⟨hkeeps.only, hkeeps.first⟩, fun hkeeps => ⟨hkeeps.2, hkeeps.1⟩⟩

end TableOf

/-- **When a placeholder keeps its head.** The entries of a content that parses start with the key
of its head. The head has the text that is written, and there is no head of the other kind, exactly
if no attribute is named like the other kind, and the last attribute named like the head, if there
is one, repeats its text. The mapping of the content refuses an entry for its name exactly if it
refuses no entry before it, the name is not one of the valid ones, and it is not one of the two
keys of heads. -/
theorem head_kept_iff (hparse : parse text = .ok ph) :
    (∃ w : Written, w.WellFormed ∧ w.toChars = text.toList) ∧
      ∀ w : Written, w.WellFormed → w.toChars = text.toList →
        ph.entries.head?.map Prod.fst = some w.head.key ∧
        (ph.Keeps w.head ↔
          (∀ a ∈ w.attributes, (entry a).1 ≠ w.head.otherKey) ∧
            ∀ value ∈ (w.attributes.map entry).reverse.lookup w.head.key, value = w.head.text) ∧
        ∀ schema name,
          Mapping.ofContent schema text = .error (.unknownAttribute name text) ↔
            ∃ before value after, ph.entries = before ++ (name, value) :: after ∧
              (∀ e ∈ before, ∃ m, Mapping.fill text {} e.1 e.2 = .ok m) ∧
              name ∉ Error.attributeNames ∧ name ≠ propertyKey ∧ name ≠ expressionKey := by
  obtain ⟨hink, w, hw, hchars, -⟩ := parse_eq_ok_iff.1 hparse
  refine ⟨⟨w, hw, hchars⟩, fun w hw hchars => ?_⟩
  have hentries := hparse.symm.trans (parse_eq_ok_iff.2 ⟨hink, w, hw, hchars, rfl⟩)
  have htable : TableOf w.entries ph.entries := by
    rw [Except.ok.inj hentries]
    exact tableOf_putAll w.entries
  obtain ⟨value, hfirst, -⟩ := htable.exists_head
  refine ⟨by rw [hfirst]; rfl, htable.keeps_iff, fun schema name => ?_⟩
  rw [Mapping.ofContent_eq_error_iff hparse, List.findSome?_eq_some_iff]
  simp only [Mapping.fault?_eq_unknown_iff, Mapping.fault?_eq_none_iff]
  constructor
  · rintro ⟨before, ⟨_, value⟩, after, heq, ⟨rfl, hname⟩, hbefore⟩
    exact ⟨before, value, after, heq, hbefore, hname⟩
  · rintro ⟨before, value, after, heq, hbefore, hname⟩
    exact ⟨before, (name, value), after, heq, ⟨rfl, hname⟩, hbefore⟩

/-- Attributes after an expression: a property beside it, a direction, and a name that no mapping
knows. -/
theorem head_kept_by_expression :
    let text := "(é * 2) ,mode=OUT, expression =é * 2,x=1"
    let w : Written :=
      { head := .expression "é * 2".toList
        headPadding := ⟨[], [' '], nofun, List.all_eq_true.1 (by decide)⟩
        type := none
        attributes := [("mode".toList, "OUT".toList), (" expression ".toList, "é * 2".toList),
          ("x".toList, "1".toList)]
        trailing := none }
    let ph : Placeholder := ⟨[("expression", "é * 2"), ("mode", "OUT"), ("x", "1")]⟩
    parse text = .ok ph ∧ w.WellFormed ∧ w.toChars = text.toList ∧ ph.Keeps w.head ∧
      Mapping.ofContent none text = .error (.unknownAttribute "x" text) := by
  intro text w ph
  have hparse : parse text = .ok ph := by decide +kernel
  have hw : w.WellFormed := ⟨.inl (by decide), by decide, by decide, by decide⟩
  have hchars : w.toChars = text.toList := by decide
  obtain ⟨-, hpieces⟩ := head_kept_iff hparse
  obtain ⟨-, hkeeps, hunknown⟩ := hpieces w hw hchars
  have hbefore : ∀ e ∈ [("expression", "é * 2"), ("mode", "OUT")],
      Mapping.fault? text e = none := by decide +kernel
  refine ⟨hparse, hw, hchars, hkeeps.2 ⟨by decide, by decide⟩, (hunknown none "x").2 ?_⟩
  exact ⟨[("expression", "é * 2"), ("mode", "OUT")], "1", [], rfl,
    fun e he => Mapping.fault?_eq_none_iff.1 (hbefore e he), by decide, by decide, by decide⟩

/-- **An attribute in the place of the head.** A property gets another text, or an expression comes
beside it, and the mapping takes both. -/
theorem attribute_replaces_head :
    let w (name : String) : Written :=
      ⟨.property ['a'], .empty, none, [(name.toList, ['b'])], none⟩
    let replaced : Placeholder := ⟨[("property", "b")]⟩
    let doubled : Placeholder := ⟨[("property", "a"), ("expression", "b")]⟩
    (w "property").WellFormed ∧ (w "property").toChars = "a,property=b".toList ∧
      (w "expression").WellFormed ∧ (w "expression").toChars = "a,expression=b".toList ∧
      parse "a,property=b" = .ok replaced ∧ parse "a,expression=b" = .ok doubled ∧
      ¬ replaced.Keeps (.property ['a']) ∧ ¬ doubled.Keeps (.property ['a']) ∧
      "property" ∉ Error.attributeNames ∧ "expression" ∉ Error.attributeNames ∧
      Mapping.ofContent none "a,property=b" = .ok { property := some "b" } ∧
      Mapping.ofContent none "a,expression=b" =
        .ok { property := some "a", expression := some "b" } := by
  intro w replaced doubled
  refine ⟨⟨.inl (by decide), by decide, by decide, by decide⟩, by decide,
    ⟨.inl (by decide), by decide, by decide, by decide⟩, by decide, by decide +kernel,
    by decide +kernel, fun h => ?_, fun h => ?_, by decide, by decide, by decide +kernel,
    by decide +kernel⟩
  · exact absurd h.first (by decide)
  · exact absurd h.only (by decide)

end Placeholder

end SqlTemplate
