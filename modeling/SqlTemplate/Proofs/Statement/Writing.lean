import SqlTemplate.Proofs.Placeholder.Parts
import SqlTemplate.Proofs.Statement.Shrink

/-!
# Mappings that are written as placeholders

A mapping is written as its head with an attribute for each of its other fields, in any order. The
type may stand after a colon instead, and the direction of an input may be left out.

**Theorem (`Prepared.ofSql_written`).** The placeholder of a mapping gives a question mark and this
mapping, with the type that a schema declares if it has none. Where white space is shrunk, all texts
of the mapping have to be tidy.

The entries of the placeholder are those of the mapping in some order (`entries_written`). Each of
them fills the field that it was written for and leaves the others alone: after some entries a
mapping has the fields of their keys (`restricted`), whatever their order was (`fill_restricted`).
-/

namespace SqlTemplate

open Placeholder (Head Parts Attribute putAll)
open Text (trimBlanks isBlank isSpace Tidy)

namespace Mapping

variable {m : Mapping} {key value content : String} {ks : List String}

/-! ## Fields and their texts -/

/-- The text of the field with a key, if it has a value. -/
def text? (m : Mapping) (key : String) : Option String :=
  if key = Placeholder.propertyKey then m.property
  else if key = Placeholder.expressionKey then m.expression
  else if key = Placeholder.typeKey then m.jdbcType
  else if key = "javaType" then m.valueType
  else if key = "jdbcTypeName" then m.jdbcTypeName
  else if key = "mode" then some m.mode.toText
  else if key = "numericScale" then m.numericScale.map toString
  else if key = "typeHandler" then m.typeHandler
  else if key = "resultMap" then m.resultMap
  else none

/-- The entries of the fields with these keys. -/
def entriesOf (m : Mapping) (ks : List String) : List (String × String) :=
  ks.filterMap fun key => (m.text? key).map (key, ·)

/-- A mapping with the fields of these keys only. -/
def restricted (m : Mapping) (ks : List String) : Mapping where
  property := if Placeholder.propertyKey ∈ ks then m.property else none
  expression := if Placeholder.expressionKey ∈ ks then m.expression else none
  jdbcType := if Placeholder.typeKey ∈ ks then m.jdbcType else none
  valueType := if "javaType" ∈ ks then m.valueType else none
  jdbcTypeName := if "jdbcTypeName" ∈ ks then m.jdbcTypeName else none
  mode := if "mode" ∈ ks then m.mode else .input
  numericScale := if "numericScale" ∈ ks then m.numericScale else none
  typeHandler := if "typeHandler" ∈ ks then m.typeHandler else none
  resultMap := if "resultMap" ∈ ks then m.resultMap else none

theorem mem_entriesOf {entry : String × String} :
    entry ∈ m.entriesOf ks ↔ entry.1 ∈ ks ∧ m.text? entry.1 = some entry.2 := by
  simp only [entriesOf, List.mem_filterMap, Option.map_eq_some_iff]
  constructor
  · rintro ⟨key, hkey, value, hvalue, rfl⟩
    exact ⟨hkey, hvalue⟩
  · rintro ⟨hkey, hvalue⟩
    exact ⟨entry.1, hkey, entry.2, hvalue, rfl⟩

theorem map_fst_entriesOf (m : Mapping) (ks : List String) :
    ((m.entriesOf ks).map Prod.fst).Sublist ks := by
  induction ks with
  | nil => exact List.Sublist.refl []
  | cons key ks ih =>
    rw [entriesOf, List.filterMap_cons]
    cases m.text? key with
    | none => exact ih.cons key
    | some value => exact ih.cons_cons key

/-- The digits of a number are the scale that it is. -/
theorem scale?_toString {n : Nat} (hn : n ≤ 0xffffffff) : scale? (toString n) = some n := by
  have hdigit (c : Char) (hc : c ∈ Nat.toDigits 10 n) : c.isDigit :=
    Nat.isDigit_of_mem_toDigits (by decide) (by decide) hc
  have htext : (toString n).toList = Nat.toDigits 10 n := by simp
  have hnonempty : Nat.toDigits 10 n ≠ [] := Nat.toDigits_ne_nil
  rw [scale?, htext]
  split
  · next heq => exact absurd (hdigit '+' (heq ▸ List.mem_cons_self)) (by decide)
  · simp [hnonempty, hn, List.all_eq_true.2 hdigit, Nat.ofDigitChars_ten_toDigits]

/-- The keys of a head and of a type, as they are spelled. -/
theorem named_keys : Placeholder.propertyKey = "property" ∧
    Placeholder.expressionKey = "expression" ∧ Placeholder.typeKey = "jdbcType" :=
  ⟨rfl, rfl, rfl⟩

/-- **One entry.** It fills the field that it was written for, whatever is filled already. -/
theorem fill_restricted (h : m.text? key = some value)
    (hscale : ∀ n ∈ m.numericScale, n ≤ 0xffffffff) (content : String) (ks : List String) :
    fill content (m.restricted ks) key value = .ok (m.restricted (key :: ks)) := by
  by_cases hmode : key = "mode"
  · subst hmode
    simp [text?, named_keys] at h
    simp [fill, restricted, named_keys, ← h, Mode.ofText?_toText]
  · by_cases hdigits : key = "numericScale"
    · subst hdigits
      simp only [text?, named_keys, String.reduceEq, if_false, if_true] at h
      obtain ⟨n, hn, rfl⟩ := Option.map_eq_some_iff.1 h
      simp [fill, restricted, named_keys, hn, scale?_toString (hscale n hn), -Nat.toString_eq_repr]
    · -- Every other field is filled with the text as it is.
      unfold text? at h
      repeat' split at h
      all_goals first | contradiction | skip
      all_goals next hkey => subst hkey; simp [fill, restricted, named_keys, h]

theorem foldlM_restricted {entries : List (String × String)}
    (hentries : ∀ entry ∈ entries, m.text? entry.1 = some entry.2)
    (hscale : ∀ n ∈ m.numericScale, n ≤ 0xffffffff) (content : String) (ks : List String) :
    entries.foldlM (fun m entry => fill content m entry.1 entry.2) (m.restricted ks) =
      .ok (m.restricted ((entries.map Prod.fst).reverse ++ ks)) := by
  induction entries generalizing ks with
  | nil => rfl
  | cons entry rest ih =>
    obtain ⟨hentry, hrest⟩ := List.forall_mem_cons.1 hentries
    rw [List.foldlM_cons, fill_restricted hentry hscale, List.map_cons, List.reverse_cons,
      List.append_assoc]
    exact ih hrest (entry.1 :: ks)

/-- A field that can be without a value has none in a new mapping. -/
theorem text?_eq_none (h : m.text? key = none) : ({} : Mapping).text? key = none := by
  unfold text? at h ⊢
  repeat' split at h
  all_goals simp_all

/-- Fields that are left out have the values that a new mapping has. -/
theorem restricted_eq_self
    (h : ∀ key ∈ keys, key ∉ ks → m.text? key = ({} : Mapping).text? key) :
    m.restricted ks = m := by
  have hmode (hin : m.mode.toText = Mode.input.toText) : m.mode = .input :=
    Option.some.inj <| by rw [← Mode.ofText?_toText, hin, Mode.ofText?_toText]
  simp only [keys, List.forall_mem_cons, text?, named_keys, String.reduceEq, if_false, if_true,
    Option.map_none, Option.map_eq_none_iff, Option.some.injEq] at h
  obtain ⟨h₁, h₂, h₃, h₄, h₅, h₆, h₇, h₈, h₉, -⟩ := h
  cases m
  simp only [restricted, named_keys, mk.injEq, ite_eq_left_iff]
  exact ⟨fun hk => (h₁ hk).symm, fun hk => (h₂ hk).symm, fun hk => (h₄ hk).symm,
    fun hk => (h₃ hk).symm, fun hk => (h₅ hk).symm, fun hk => (hmode (h₆ hk)).symm,
    fun hk => (h₇ hk).symm, fun hk => (h₈ hk).symm, fun hk => (h₉ hk).symm⟩

/-- **The entries of a mapping, in any order.** They give the mapping, if the fields that are left
out have the values that a new mapping has. -/
theorem foldlM_of_perm {entries : List (String × String)} (hentries : entries.Perm (m.entriesOf ks))
    (hrest : ∀ key ∈ keys, key ∉ ks → m.text? key = ({} : Mapping).text? key)
    (hscale : ∀ n ∈ m.numericScale, n ≤ 0xffffffff) (content : String) :
    entries.foldlM (fun m entry => fill content m entry.1 entry.2) {} = .ok m := by
  have htexts : ∀ entry ∈ entries, m.text? entry.1 = some entry.2 := fun entry hentry =>
    (mem_entriesOf.1 (hentries.mem_iff.1 hentry)).2
  have hnone : m.restricted [] = {} := by simp [restricted]
  rw [← hnone, foldlM_restricted htexts hscale, List.append_nil]
  refine congrArg Except.ok (restricted_eq_self fun key hkey hmem => ?_)
  by_cases hks : key ∈ ks
  · cases htext : m.text? key with
    | none => exact (text?_eq_none htext).symm
    | some value =>
      have hentry : (key, value) ∈ entries := hentries.mem_iff.2 (mem_entriesOf.2 ⟨hks, htext⟩)
      exact absurd (List.mem_reverse.2 (List.mem_map_of_mem (f := Prod.fst) hentry)) hmem
  · exact hrest key hkey hks

/-! ## Writing -/

/-- How a mapping is written: with its type after a colon, and without the direction of an input. -/
structure Style where
  tagged : Bool
  silent : Bool

/-- The keys of the type that stands after a colon. -/
def Style.tagKeys (style : Style) : List String :=
  if style.tagged then [Placeholder.typeKey] else []

/-- The keys of the attributes. -/
def Style.attributeKeys (style : Style) : List String :=
  (if style.tagged then [] else [Placeholder.typeKey]) ++ (if style.silent then [] else ["mode"]) ++
    ["javaType", "jdbcTypeName", "numericScale", "typeHandler", "resultMap"]

/-- What a mapping takes its value from, if it is one of a property and an expression. -/
def head? (m : Mapping) : Option Head :=
  match m.property, m.expression with
  | some path, none => some (.property path.toList)
  | none, some text => some (.expression text.toList)
  | _, _ => none

/-- The type that stands after a colon. -/
def tag (m : Mapping) (style : Style) : Option String := if style.tagged then m.jdbcType else none

/-- The texts of a mapping without its head. -/
def attributeTexts (m : Mapping) : List String :=
  ({ m with property := none, expression := none } : Mapping).texts

/-- A mapping that can be written: its texts stay clear of what ends them, its scale has 32 bits, a
type after a colon is not empty, and only the direction of an input is left out. -/
structure Writable (m : Mapping) (style : Style) (head : Head) : Prop where
  headed : m.head? = some head
  plain : head.IsPlain
  closing : ∀ t ∈ m.texts, '\x7d' ∉ t.toList
  attributes : ∀ t ∈ m.attributeTexts, trimBlanks t.toList = t.toList ∧ ',' ∉ t.toList
  scale : ∀ n ∈ m.numericScale, n ≤ 0xffffffff
  tag : m.tag style ≠ some ""
  silent : style.silent → m.mode = .input

/-- The parts of the placeholder with these attributes. -/
def parts (m : Mapping) (style : Style) (head : Head) (attributes : List (String × String)) :
    Parts where
  head := head
  type := (m.tag style).map fun t => (t.toList, .empty)
  attributes := attributes.map fun a => { name := a.1.toList, value := a.2.toList }

/-- The content of the placeholder with these attributes. -/
def written (m : Mapping) (style : Style) (head : Head) (attributes : List (String × String)) :
    String :=
  String.ofList (m.parts style head attributes).toChars

variable {style : Style} {head : Head} {attributes : List (String × String)}

theorem text?_head (h : m.head? = some head) :
    m.text? head.key = some head.text ∧
      ∀ key ∈ [Placeholder.propertyKey, Placeholder.expressionKey], key ≠ head.key →
        m.text? key = none := by
  unfold head? at h
  split at h
  · next path hproperty hexpression =>
    cases h
    refine ⟨hproperty.trans (by rw [Head.text, String.ofList_toList]), ?_⟩
    rw [List.forall_mem_cons, List.forall_mem_singleton]
    exact ⟨fun hne => absurd rfl hne, fun _ => hexpression⟩
  · next text hproperty hexpression =>
    cases h
    refine ⟨hexpression.trans (by rw [Head.text, String.ofList_toList]), ?_⟩
    rw [List.forall_mem_cons, List.forall_mem_singleton]
    exact ⟨fun _ => hproperty, fun hne => absurd rfl hne⟩
  · cases h

theorem tailEntries_tag (m : Mapping) (style : Style) (attributes : List Attribute) :
    Parts.tailEntries ((m.tag style).map fun t => (t.toList, .empty)) attributes =
      m.entriesOf style.tagKeys ++ attributes.map Attribute.entry := by
  rw [tag, Style.tagKeys]
  cases style.tagged with
  | false => rfl
  | true =>
    have htype : m.text? Placeholder.typeKey = m.jdbcType := rfl
    rw [if_pos rfl, if_pos rfl, entriesOf, List.filterMap_cons, htype]
    cases m.jdbcType <;> simp [Parts.tailEntries]

/-- The entries of the placeholder are those of the mapping. -/
theorem entries_written (hhead : m.head? = some head)
    (hattributes : attributes.Perm (m.entriesOf style.attributeKeys)) :
    (m.parts style head attributes).entries.Perm
      (m.entriesOf (head.key :: (style.tagKeys ++ style.attributeKeys))) := by
  have hwritten : (m.parts style head attributes).entries =
      (head.key, head.text) :: (m.entriesOf style.tagKeys ++ attributes) := by
    rw [Parts.entries, parts, tailEntries_tag, List.map_map]
    simp [Function.comp_def, Attribute.entry]
  have hfields : m.entriesOf (head.key :: (style.tagKeys ++ style.attributeKeys)) =
      (head.key, head.text) ::
        (m.entriesOf style.tagKeys ++ m.entriesOf style.attributeKeys) := by
    rw [entriesOf, List.filterMap_cons, (text?_head hhead).1, List.filterMap_append]
    rfl
  rw [hwritten, hfields]
  exact (hattributes.append_left _).cons _

theorem key_eq (head : Head) :
    head.key = Placeholder.propertyKey ∨ head.key = Placeholder.expressionKey := by
  cases head with
  | property path => exact .inl rfl
  | expression text => exact .inr rfl

theorem nodup_keys (style : Style) (head : Head) :
    (head.key :: (style.tagKeys ++ style.attributeKeys)).Nodup := by
  obtain ⟨_ | _, _ | _⟩ := style <;> rcases key_eq head with hkey | hkey <;> rw [hkey] <;> decide

/-- Only a head and a direction can be missing among the keys of a placeholder. -/
theorem key_cases (style : Style) :
    ∀ key ∈ keys, key ∈ [Placeholder.propertyKey, Placeholder.expressionKey] ∨ key = "mode" ∨
      key ∈ style.tagKeys ∨ key ∈ style.attributeKeys := by
  obtain ⟨_ | _, _ | _⟩ := style <;> decide

theorem text?_of_not_mem (h : m.Writable style head) (hkey : key ∈ keys)
    (hmem : key ∉ head.key :: (style.tagKeys ++ style.attributeKeys)) :
    m.text? key = ({} : Mapping).text? key := by
  rw [List.mem_cons, List.mem_append, not_or, not_or] at hmem
  obtain ⟨hne, htag, hattribute⟩ := hmem
  by_cases hhead : key ∈ [Placeholder.propertyKey, Placeholder.expressionKey]
  · have hnone := (text?_head h.headed).2 key hhead hne
    rw [hnone, text?_eq_none hnone]
  · by_cases hmode : key = "mode"
    · subst hmode
      have hsilent : style.silent = true := by
        by_contra hsilent
        exact hattribute (by simp [Style.attributeKeys, hsilent])
      have hinput : m.mode.toText = ({} : Mapping).mode.toText := by rw [h.silent hsilent]
      exact congrArg some hinput
    · rcases key_cases style key hkey with h | h | h | h
      · exact absurd h hhead
      · exact absurd h hmode
      · exact absurd h htag
      · exact absurd h hattribute

/-- A text of an entry is one of the mapping, a word for a direction or a number. -/
theorem mem_texts_of_text? (h : m.text? key = some value) :
    value ∈ m.texts ∨ ∀ c ∈ value.toList, c.isAlphanum := by
  by_cases hmode : key = "mode"
  · subst hmode
    cases h
    refine .inr (List.all_eq_true.1 ?_)
    cases m.mode <;> decide
  · by_cases hdigits : key = "numericScale"
    · subst hdigits
      obtain ⟨n, -, rfl⟩ := Option.map_eq_some_iff.1 h
      have htext : (toString n).toList = Nat.toDigits 10 n := by simp
      refine .inr fun c hc => ?_
      rw [htext] at hc
      rw [Char.isAlphanum, Nat.isDigit_of_mem_toDigits (by decide) (by decide) hc, Bool.or_true]
    · refine .inl ?_
      unfold text? at h
      simp only [texts, List.mem_append, Option.mem_toList]
      repeat' split at h
      all_goals simp_all

/-- A text of an attribute has no blank ends and no comma. -/
theorem plain_of_text? (h : m.Writable style head)
    (hkey : key ∉ [Placeholder.propertyKey, Placeholder.expressionKey])
    (htext : m.text? key = some value) :
    trimBlanks value.toList = value.toList ∧ ',' ∉ value.toList := by
  have hrest : ({ m with property := none, expression := none } : Mapping).text? key =
      m.text? key := by
    rw [List.mem_cons, List.mem_singleton, not_or] at hkey
    rw [text?, text?, if_neg hkey.1, if_neg hkey.2, if_neg hkey.1, if_neg hkey.2]
  rcases mem_texts_of_text? (hrest.trans htext) with hmem | hword
  · exact h.attributes value hmem
  · exact ⟨Text.trimBlanks_of_isAlphanum hword, fun hcomma => absurd (hword ',' hcomma) (by decide)⟩

theorem wellFormed_parts (h : m.Writable style head)
    (hattributes : attributes.Perm (m.entriesOf style.attributeKeys)) :
    (m.parts style head attributes).WellFormed := by
  have hkeys : ∀ style : Style, ∀ key ∈ style.attributeKeys,
      key ∉ [Placeholder.propertyKey, Placeholder.expressionKey] ∧
        trimBlanks key.toList = key.toList ∧ '=' ∉ key.toList := by
    rintro ⟨_ | _, _ | _⟩ <;> decide
  refine ⟨h.plain, ?_, ?_⟩
  · intro t ht
    obtain ⟨type, htype, rfl⟩ := Option.map_eq_some_iff.1 ht
    have hfield : m.text? Placeholder.typeKey = some type := by
      rw [tag] at htype
      split at htype
      · exact htype
      · cases htype
    refine ⟨fun hempty => ?_, plain_of_text? h (by decide) hfield⟩
    rw [String.toList_eq_nil_iff] at hempty
    exact h.tag (htype.trans (congrArg some hempty))
  · intro a ha
    obtain ⟨entry, hentry, rfl⟩ := List.mem_map.1 ha
    obtain ⟨hkey, htext⟩ := mem_entriesOf.1 (hattributes.mem_iff.1 hentry)
    obtain ⟨hother, hname⟩ := hkeys style entry.1 hkey
    exact ⟨hname, plain_of_text? h hother htext⟩

theorem parse_written (h : m.Writable style head)
    (hattributes : attributes.Perm (m.entriesOf style.attributeKeys)) :
    Placeholder.parse (m.written style head attributes) =
      .ok ⟨(m.parts style head attributes).entries⟩ := by
  have hkeys := ((entries_written h.headed hattributes).map Prod.fst).nodup_iff.2
    ((map_fst_entriesOf m _).nodup (nodup_keys style head))
  rw [written, Placeholder.parse_toChars (wellFormed_parts h hattributes),
    Placeholder.putAll_of_nodup hkeys, List.nil_append]

/-- **The content of a mapping** gives the mapping, whatever the order of its attributes is. -/
theorem ofContent_written (h : m.Writable style head)
    (hattributes : attributes.Perm (m.entriesOf style.attributeKeys))
    (schema : Option (Registry × String)) :
    ofContent schema (m.written style head attributes) = .ok (m.declared schema) :=
  ofContent_eq_ok_iff.2 ⟨_, m, parse_written h hattributes,
    foldlM_of_perm (entries_written h.headed hattributes) (fun _ => text?_of_not_mem h) h.scale _,
    rfl⟩

/-! ## The text of a placeholder -/

theorem keys_subset (style : Style) (head : Head) :
    ∀ key ∈ head.key :: (style.tagKeys ++ style.attributeKeys), key ∈ keys := by
  obtain ⟨_ | _, _ | _⟩ := style <;> rcases key_eq head with hkey | hkey <;> rw [hkey] <;> decide

/-- A character of a content is a blank, stands between two parts or in a key, or is in a text of
the mapping. -/
theorem mem_written {c : Char} (hhead : m.head? = some head)
    (hattributes : attributes.Perm (m.entriesOf style.attributeKeys))
    (hc : c ∈ (m.written style head attributes).toList) :
    isBlank c ∨ c ∈ ['(', ')', ':', ',', '='] ∨ c.isAlphanum ∨ ∃ t ∈ m.texts, c ∈ t.toList := by
  have hkeys : ∀ key ∈ keys, key.toList.all Char.isAlphanum := by decide
  rw [written, String.toList_ofList] at hc
  rcases Parts.mem_toChars hc with hblank | hmark | ⟨entry, hentry, hc⟩
  · exact .inl hblank
  · exact .inr (.inl hmark)
  · obtain ⟨hkey, htext⟩ := mem_entriesOf.1 ((entries_written hhead hattributes).mem_iff.1 hentry)
    rcases hc with hc | hc
    · have hword := hkeys entry.1 (keys_subset style head _ hkey)
      exact .inr (.inr (.inl (List.all_eq_true.1 hword c hc)))
    · rcases mem_texts_of_text? htext with hmem | hword
      · exact .inr (.inr (.inr ⟨entry.2, hmem, hc⟩))
      · exact .inr (.inr (.inl (hword c hc)))

theorem not_mem_written (h : m.Writable style head)
    (hattributes : attributes.Perm (m.entriesOf style.attributeKeys)) :
    '\x7d' ∉ (m.written style head attributes).toList := by
  intro hmem
  rcases mem_written h.headed hattributes hmem with hc | hc | hc | ⟨t, ht, hc⟩
  · exact absurd hc (by decide)
  · exact absurd hc (by decide)
  · exact absurd hc (by decide)
  · exact h.closing t ht hc

theorem tidyContent_written (h : m.Writable style head)
    (hattributes : attributes.Perm (m.entriesOf style.attributeKeys))
    (htidy : ∀ t ∈ m.texts, Tidy t.toList) : TidyContent (m.written style head attributes) := by
  constructor
  · intro c hmem hspace
    rcases mem_written h.headed hattributes hmem with hc | hc | hc | ⟨t, ht, hc⟩
    · exact hc
    · have hmarks : ['(', ')', ':', ',', '='].all (!isSpace ·) := by decide
      have hmark := List.all_eq_true.1 hmarks c hc
      rw [hspace] at hmark
      cases hmark
    · exact absurd hspace (by rw [Text.isSpace_of_isAlphanum hc]; decide)
    · rw [(htidy t ht).only c hc hspace]
      decide
  · intro entry hentry
    rw [Placeholder.entriesOf, parse_written h hattributes] at hentry
    obtain ⟨-, htext⟩ := mem_entriesOf.1 ((entries_written h.headed hattributes).mem_iff.1 hentry)
    rcases mem_texts_of_text? htext with hmem | hword
    · exact htidy _ hmem
    · refine ⟨fun c hc hspace => ?_, fun htwo => ?_⟩
      · exact absurd hspace (by rw [Text.isSpace_of_isAlphanum (hword c hc)]; decide)
      · exact absurd (hword ' ' (htwo.mem List.mem_cons_self)) (by decide)

end Mapping

/-! ## Placeholders -/

/-- A content without closing braces and without a backslash at its end is the only one between its
markers. -/
theorem split_enclose {content : String} (hclosing : '\x7d' ∉ content.toList)
    (hend : content.toList.getLast? ≠ some '\\') :
    Markers.placeholder.split (Markers.placeholder.enclose content) =
      ⟨[⟨[], content.toList⟩], some []⟩ := by
  have htext : (Markers.placeholder.enclose content).toList =
      Split.toChars (.braced '#') ⟨[⟨[], content.toList⟩], some []⟩ := by
    simp [Markers.enclose, Split.toChars, Markers.placeholder, Markers.braced]
  have htail : ¬ ['#', '\x7b'] <:+: [] := by decide
  rw [Markers.split, htext]
  exact Split.ofChars_toChars (by decide)
    ⟨by simp, by simpa using hclosing, Split.ofChars_of_literal htail⟩
    ⟨by simp, by simpa using hend, rfl⟩

namespace Prepared

variable {m : Mapping} {style : Mapping.Style} {head : Head}
  {attributes : List (String × String)}

/-- **A mapping is recovered from its placeholder**, whatever the order of its attributes is and
wherever its type stands. A schema adds the type that it declares, if the mapping has none. Where
white space is shrunk, this holds for tidy texts; and only for those, a type that the schema
declares aside. -/
theorem ofSql_written (h : m.Writable style head)
    (hattributes : attributes.Perm (m.entriesOf style.attributeKeys))
    (hend : (m.written style head attributes).toList.getLast? ≠ some '\\')
    (schema : Option (Registry × String)) :
    let sql := Markers.placeholder.enclose (m.written style head attributes)
    ofSql schema false sql = .ok ⟨"?", [m.declared schema]⟩ ∧
      ((∀ t ∈ m.texts, Tidy t.toList) → ofSql schema true sql = .ok ⟨"?", [m.declared schema]⟩) ∧
      (ofSql schema true sql = .ok ⟨"?", [m.declared schema]⟩ →
        ∀ t ∈ (m.declared schema).writtenTexts schema, Tidy t.toList) := by
  intro sql
  have hsplit : Markers.placeholder.split sql =
      ⟨[⟨[], (m.written style head attributes).toList⟩], some []⟩ :=
    split_enclose (Mapping.not_mem_written h hattributes) hend
  have hcontents : (Markers.placeholder.split sql).contents =
      [m.written style head attributes] := by
    rw [hsplit, Split.contents, List.map_singleton, String.ofList_toList]
  have hjoin : ((Markers.placeholder.split sql).join fun _ => "?") = "?" := by
    rw [hsplit, ← String.toList_inj]
    simp [Split.join]
  have hmark : String.ofList (Text.collapse "?".toList) = "?" := by decide
  have hmapping := Mapping.ofContent_written h hattributes schema
  refine ⟨?_, fun htidy => ?_, fun hshrunk t ht => ?_⟩
  · rw [ofSql, if_neg Bool.false_ne_true, hcontents]
    simp only [List.mapM_cons, List.mapM_nil, hmapping, hjoin]
    rfl
  · refine ofSql_shrunk_eq_ok_iff.2 ⟨?_, ?_⟩
    · rw [Markers.replace, hjoin, hmark]
    · rw [hcontents]
      exact .cons (Mapping.ofContent_squeezed hmapping
        (Mapping.tidyContent_written h hattributes htidy)) .nil
  · have hsqueezed := (ofSql_shrunk_eq_ok_iff.1 hshrunk).2
    rw [hcontents] at hsqueezed
    exact Mapping.tidy_of_ofContent_squeezed (List.forall₂_cons.1 hsqueezed).1 t ht

/-- A property with its type after a colon and its attributes not in their order; a schema adds the
type of its value. -/
theorem ofSql_written_out :
    let m : Mapping :=
      { property := some "t.id", jdbcType := some "NUMERIC", mode := .both, numericScale := some 2,
        typeHandler := some "a=b", resultMap := some "" }
    let style : Mapping.Style := { tagged := true, silent := false }
    let attributes := [("numericScale", "2"), ("typeHandler", "a=b"), ("mode", "INOUT"),
      ("resultMap", "")]
    let schema := some (Registry.empty.register ⟨"R", [("t", .map (.list .int))]⟩, "R")
    m.Writable style (.property "t.id".toList) ∧
      attributes.Perm (m.entriesOf style.attributeKeys) ∧
      ofSql schema true
          "#\x7bt.id:NUMERIC,numericScale=2,typeHandler=a=b,mode=INOUT,resultMap=\x7d" =
        .ok ⟨"?", [{ m with valueType := some "list<int>" }]⟩ := by
  intro m style attributes schema
  have h : m.Writable style (.property "t.id".toList) :=
    ⟨rfl, by decide, by decide, by decide, by decide, by decide, by decide⟩
  have hattributes : attributes.Perm (m.entriesOf style.attributeKeys) := by decide
  have htidy : ∀ t ∈ m.texts, Tidy t.toList := by decide
  have hend : (m.written style (.property "t.id".toList) attributes).toList.getLast? ≠
      some '\\' := by
    decide +kernel
  have hwritten : Markers.placeholder.enclose
      (m.written style (.property "t.id".toList) attributes) =
        "#\x7bt.id:NUMERIC,numericScale=2,typeHandler=a=b,mode=INOUT,resultMap=\x7d" := by
    decide +kernel
  have hdeclared : m.declared schema = { m with valueType := some "list<int>" } := by
    decide +kernel
  refine ⟨h, hattributes, ?_⟩
  rw [← hwritten, ← hdeclared]
  exact (ofSql_written h hattributes hend schema).2.1 htidy

/-- **A text that is not tidy.** Where white space is shrunk, the two spaces in a property become
one. -/
theorem shrunk_property :
    let m : Mapping := { property := some "a  b" }
    let style : Mapping.Style := { tagged := false, silent := true }
    m.Writable style (.property "a  b".toList) ∧ m.entriesOf style.attributeKeys = [] ∧
      m.written style (.property "a  b".toList) [] = "a  b" ∧
      ofSql none false "#\x7ba  b\x7d" = .ok ⟨"?", [m]⟩ ∧
      ofSql none true "#\x7ba  b\x7d" = .ok ⟨"?", [{ property := some "a b" }]⟩ := by
  intro m style
  refine ⟨⟨rfl, by decide, by decide, by decide, by decide, by decide, by decide⟩, by decide,
    by decide, by decide +kernel, by decide +kernel⟩

end Prepared

end SqlTemplate
