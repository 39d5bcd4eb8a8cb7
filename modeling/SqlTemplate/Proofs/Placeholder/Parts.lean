import Mathlib.Data.List.Infix
import SqlTemplate.Proofs.Placeholder.Entries

/-!
# Contents put together from their parts

A content can be put together from a head, a type and attributes, with any blanks around each of
them. Every part has to stay clear of the character that ends it: a property of commas and colons, a
type and a value of commas, a name of equals signs. An expression only has to close its own
parentheses.

**Theorem (`parse_of_parts`).** Such a content parses, and its entries are the table of its parts
put one after another. An expression is kept as it is, whatever parentheses it has.

Each step of the parser finds one part. The blanks around it are taken away when it is trimmed, or
before the next part is looked for (`trimmed_around`, `attributes?_of_parts`, `parseTail_of_parts`).
-/

namespace SqlTemplate.Placeholder

open Text

/-! ## Parts -/

/-- Blanks before and after a part. -/
structure Padding where
  before : List Char
  after : List Char
  blank_before : ∀ c ∈ before, isBlank c
  blank_after : ∀ c ∈ after, isBlank c

/-- A part with blanks around it. -/
def Padding.around (p : Padding) (part : List Char) : List Char := p.before ++ (part ++ p.after)

/-- No blanks. -/
def Padding.empty : Padding := ⟨[], [], nofun, nofun⟩

/-- A text that closes its own parentheses and `depth` more, and none before it is open. -/
structure Closes (depth : Nat) (text : List Char) : Prop where
  count : text.count ')' = text.count '(' + depth
  before : ∀ before, before <+: text → before.count ')' ≤ before.count '(' + depth

instance (depth : Nat) (text : List Char) : Decidable (Closes depth text) :=
  decidable_of_iff (text.count ')' = text.count '(' + depth ∧
      ∀ before ∈ text.inits, before.count ')' ≤ before.count '(' + depth)
    ⟨fun h => ⟨h.1, fun before hbefore => h.2 before ((List.mem_inits _ _).2 hbefore)⟩,
      fun h => ⟨h.count, fun before hbefore => h.before before ((List.mem_inits _ _).1 hbefore)⟩⟩

/-- What a placeholder takes its value from. -/
inductive Head where
  | property (path : List Char)
  | expression (text : List Char)

namespace Head

/-- The key of a head. -/
def key : Head → String
  | property _ => propertyKey
  | expression _ => expressionKey

theorem key_ne_typeKey (head : Head) : head.key ≠ typeKey := by
  cases head with
  | property path => exact (by decide : propertyKey ≠ typeKey)
  | expression text => exact (by decide : expressionKey ≠ typeKey)

/-- The text of a head, without the parentheses of an expression. -/
def text : Head → String
  | property path => String.ofList path
  | expression text => String.ofList text

/-- A head as it is written. -/
def toChars : Head → List Char
  | property path => path
  | expression text => '(' :: (text ++ [')'])

/-- A property without blank ends, commas and colons that does not look like an expression, or an
expression that closes its own parentheses. -/
def IsPlain : Head → Prop
  | property path => path ≠ [] ∧ trimBlanks path = path ∧ (',' ∉ path ∧ ':' ∉ path) ∧
      path.head? ≠ some '('
  | expression text => Closes 0 text

instance (head : Head) : Decidable head.IsPlain := by
  cases head with
  | property path => exact instDecidableAnd
  | expression text => exact inferInstanceAs (Decidable (Closes 0 text))

end Head

/-- An attribute with the blanks around its name and its value. -/
structure Attribute where
  name : List Char
  value : List Char
  namePadding : Padding := .empty
  valuePadding : Padding := .empty

namespace Attribute

/-- An attribute as it is written. -/
def toChars (a : Attribute) : List Char :=
  a.namePadding.around a.name ++ '=' :: a.valuePadding.around a.value

/-- The entry of an attribute. -/
def entry (a : Attribute) : String × String := (String.ofList a.name, String.ofList a.value)

/-- A name without equals signs and a value without commas, both without blank ends. -/
structure IsPlain (a : Attribute) : Prop where
  name : trimBlanks a.name = a.name ∧ '=' ∉ a.name
  value : trimBlanks a.value = a.value ∧ ',' ∉ a.value

instance (a : Attribute) : Decidable a.IsPlain :=
  decidable_of_iff ((trimBlanks a.name = a.name ∧ '=' ∉ a.name) ∧
      trimBlanks a.value = a.value ∧ ',' ∉ a.value)
    ⟨fun h => ⟨h.1, h.2⟩, fun h => ⟨h.name, h.value⟩⟩

/-- Attributes as they are written, each after a comma. -/
def listChars (attributes : List Attribute) : List Char :=
  attributes.flatMap fun a => ',' :: a.toChars

end Attribute

/-- The parts of a content, with the blanks around them. -/
structure Parts where
  head : Head
  headPadding : Padding := .empty
  type : Option (List Char × Padding)
  attributes : List Attribute

namespace Parts

/-- A type as it is written, after a colon. -/
def typeChars (type : Option (List Char × Padding)) : List Char :=
  type.elim [] fun t => ':' :: t.2.around t.1

/-- The parts put together. -/
def toChars (p : Parts) : List Char :=
  p.headPadding.around p.head.toChars ++ (typeChars p.type ++ Attribute.listChars p.attributes)

/-- The entries of the parts after the head. -/
def tailEntries (type : Option (List Char × Padding)) (attributes : List Attribute) :
    List (String × String) :=
  (type.toList.map fun t => (typeKey, String.ofList t.1)) ++ attributes.map Attribute.entry

/-- The entries of the parts, in their order. -/
def entries (p : Parts) : List (String × String) :=
  (p.head.key, p.head.text) :: tailEntries p.type p.attributes

/-- Parts that stay clear of the characters that end them. -/
structure WellFormed (p : Parts) : Prop where
  head : p.head.IsPlain
  type : ∀ t ∈ p.type, t.1 ≠ [] ∧ trimBlanks t.1 = t.1 ∧ ',' ∉ t.1
  attributes : ∀ a ∈ p.attributes, a.IsPlain

end Parts

/-! ## Characters of a content -/

section characters

variable {c : Char}

theorem Padding.mem_around {padding : Padding} {part : List Char} (h : c ∈ padding.around part) :
    isBlank c ∨ c ∈ part := by
  rw [Padding.around, List.mem_append, List.mem_append] at h
  rcases h with h | h | h
  · exact .inl (padding.blank_before c h)
  · exact .inr h
  · exact .inl (padding.blank_after c h)

theorem Head.mem_toChars {head : Head} (h : c ∈ head.toChars) :
    c ∈ ['(', ')'] ∨ c ∈ head.text.toList := by
  cases head with
  | property path => exact .inr (by rwa [text, String.toList_ofList])
  | expression text =>
    rw [toChars, List.mem_cons, List.mem_append, List.mem_singleton] at h
    rw [Head.text, String.toList_ofList]
    rcases h with rfl | h | rfl
    · exact .inl List.mem_cons_self
    · exact .inr h
    · exact .inl (List.mem_cons_of_mem _ List.mem_cons_self)

theorem Attribute.mem_toChars {a : Attribute} (h : c ∈ a.toChars) :
    isBlank c ∨ c = '=' ∨ c ∈ a.entry.1.toList ∨ c ∈ a.entry.2.toList := by
  rw [toChars, List.mem_append, List.mem_cons] at h
  rw [entry, String.toList_ofList, String.toList_ofList]
  rcases h with h | h | h
  · exact (Padding.mem_around h).imp_right fun h => .inr (.inl h)
  · exact .inr (.inl h)
  · exact (Padding.mem_around h).imp_right fun h => .inr (.inr h)

/-- A character of a content is a blank, stands between two parts, or is in the text of one. -/
theorem Parts.mem_toChars {p : Parts} (h : c ∈ p.toChars) :
    isBlank c ∨ c ∈ ['(', ')', ':', ',', '='] ∨
      ∃ entry ∈ p.entries, c ∈ entry.1.toList ∨ c ∈ entry.2.toList := by
  rw [toChars, List.mem_append, List.mem_append] at h
  rcases h with h | h | h
  · rcases Padding.mem_around h with hblank | h
    · exact .inl hblank
    · rcases Head.mem_toChars h with h | h
      · exact .inr (.inl (List.mem_append_left [':', ',', '='] h))
      · exact .inr (.inr ⟨_, List.mem_cons_self, .inr h⟩)
  · obtain ⟨t, ht⟩ : ∃ t, p.type = some t := by
      cases htype : p.type with
      | none => rw [htype] at h; cases h
      | some t => exact ⟨t, rfl⟩
    rw [ht, typeChars, Option.elim_some, List.mem_cons] at h
    rcases h with rfl | h
    · exact .inr (.inl (by decide))
    · rcases Padding.mem_around h with hblank | h
      · exact .inl hblank
      · refine .inr (.inr ⟨(typeKey, String.ofList t.1), ?_, .inr (by rwa [String.toList_ofList])⟩)
        simp [entries, tailEntries, ht]
  · obtain ⟨a, ha, h⟩ := List.mem_flatMap.1 h
    have hentry : a.entry ∈ p.entries :=
      List.mem_cons_of_mem _ (List.mem_append_right _ (List.mem_map_of_mem ha))
    rcases List.mem_cons.1 h with rfl | h
    · exact .inr (.inl (by decide))
    · rcases Attribute.mem_toChars h with hblank | rfl | h
      · exact .inl hblank
      · exact .inr (.inl (by decide))
      · exact .inr (.inr ⟨a.entry, hentry, h⟩)

end characters

/-! ## Blanks around a part -/

section padding

variable {padding : Padding} {part : List Char}

theorem trimmed_around (h : trimBlanks part = part) :
    trimmed (padding.around part) = String.ofList part := by
  rw [trimmed, Padding.around, trimBlanks_padded padding.blank_before padding.blank_after, h]

theorem trimmed_dropWhile (text : List Char) : trimmed (text.dropWhile isBlank) = trimmed text := by
  rw [trimmed, trimBlanks_dropWhile, trimmed]

/-- Blanks bring no character that is not blank. -/
theorem not_mem_around {d : Char} (hd : isBlank d = false) (h : d ∉ part) :
    ∀ c ∈ padding.around part, (c == d) = false := by
  intro c hc
  rw [beq_eq_false_iff_ne]
  rintro rfl
  rcases Padding.mem_around hc with hblank | hc
  · rw [hblank] at hd
    cases hd
  · exact h hc

/-- Before a part that starts with no blank, the blanks are dropped. -/
theorem dropWhile_around (rest : List Char) (hne : part ≠ [])
    (h : ∀ c ∈ part.head?, isBlank c = false) :
    (padding.around part ++ rest).dropWhile isBlank = part ++ (padding.after ++ rest) := by
  rw [Padding.around, List.append_assoc, List.append_assoc,
    List.dropWhile_append_of_pos padding.blank_before]
  cases part with
  | nil => exact absurd rfl hne
  | cons c part => rw [List.cons_append, List.dropWhile_cons, h c rfl]; rfl

end padding

/-! ## Attributes -/

theorem attributes?_of_cut {text name after rest : List Char} {value : Option (List Char)}
    (hname : cut (· == '=') (text.dropWhile isBlank) = (name, some after))
    (hvalue : cut (· == ',') after = (rest, value)) :
    attributes? text =
      value.elim (some [(trimmed name, trimmed rest)]) fun after' =>
        (attributes? after').map ((trimmed name, trimmed rest) :: ·) := by
  rw [attributes?_eq]
  cases hbody : text.dropWhile isBlank with
  | nil => rw [hbody, cut] at hname; cases hname
  | cons c more =>
    rw [hbody] at hname
    dsimp only
    rw [hname]
    dsimp only
    rw [hvalue]
    cases value <;> rfl

/-- A name goes up to its equals sign. -/
theorem cut_name {a : Attribute} (ha : a.IsPlain) (rest : List Char) :
    cut (· == '=') ((a.toChars ++ rest).dropWhile isBlank) =
      ((a.namePadding.around a.name).dropWhile isBlank,
        some (a.valuePadding.around a.value ++ rest)) := by
  rw [Attribute.toChars, List.append_assoc, List.cons_append,
    dropWhile_append_of_head (by rintro c ⟨⟩; decide)]
  exact cut_append (fun c hc => not_mem_around (by decide) ha.name.2 c
    ((List.dropWhile_suffix _).mem hc)) rfl

/-- **Reading attributes.** Each name goes up to its equals sign, each value to the next comma. -/
theorem attributes?_of_parts {a : Attribute} {rest : List Attribute} (ha : a.IsPlain)
    (hrest : ∀ b ∈ rest, b.IsPlain) :
    attributes? (a.toChars ++ Attribute.listChars rest) =
      some ((a :: rest).map Attribute.entry) := by
  have hvalue : ∀ c ∈ a.valuePadding.around a.value, (c == ',') = false :=
    not_mem_around (by decide) ha.value.2
  induction rest generalizing a with
  | nil =>
    have hlast := cut_of_none hvalue
    rw [← List.append_nil (a.valuePadding.around a.value)] at hlast
    rw [Attribute.listChars, List.flatMap_nil, attributes?_of_cut (cut_name ha []) hlast,
      List.append_nil, trimmed_dropWhile, trimmed_around ha.name.1, trimmed_around ha.value.1]
    rfl
  | cons b rest ih =>
    obtain ⟨hb, hrest⟩ := List.forall_mem_cons.1 hrest
    rw [Attribute.listChars, List.flatMap_cons, List.cons_append,
      attributes?_of_cut (cut_name ha _) (cut_append hvalue rfl),
      trimmed_dropWhile, trimmed_around ha.name.1, trimmed_around ha.value.1]
    have hmore := ih hb hrest (not_mem_around (by decide) hb.value.2)
    rw [Attribute.listChars] at hmore
    rw [Option.elim_some, hmore]
    rfl

/-! ## Heads -/

namespace Closes

variable {depth : Nat} {c : Char} {text : List Char}

theorem before_cons (h : Closes depth (c :: text)) {before : List Char} (hstart : before <+: text) :
    (c :: before).count ')' ≤ (c :: before).count '(' + depth :=
  h.before _ (List.cons_prefix_cons.2 ⟨rfl, hstart⟩)

/-- A closing parenthesis closes one that is open, so there is one. -/
theorem of_close (h : Closes depth (')' :: text)) : ∃ n, depth = n + 1 ∧ Closes n text := by
  have hfirst := h.before_cons List.nil_prefix
  have hcount := h.count
  simp at hfirst hcount
  obtain ⟨n, rfl⟩ : ∃ n, depth = n + 1 := Nat.exists_eq_succ_of_ne_zero (by omega)
  refine ⟨n, rfl, by omega, fun before hstart => ?_⟩
  have hbefore := h.before_cons hstart
  simp at hbefore
  omega

theorem of_open (h : Closes depth ('(' :: text)) : Closes (depth + 1) text := by
  have hcount := h.count
  simp at hcount
  refine ⟨by omega, fun before hstart => ?_⟩
  have hbefore := h.before_cons hstart
  simp at hbefore
  omega

theorem of_other (h : Closes depth (c :: text)) (hclose : c ≠ ')') (hopen : c ≠ '(') :
    Closes depth text := by
  have hcount := h.count
  rw [List.count_cons_of_ne hclose, List.count_cons_of_ne hopen] at hcount
  refine ⟨hcount, fun before hstart => ?_⟩
  have hbefore := h.before_cons hstart
  rwa [List.count_cons_of_ne hclose, List.count_cons_of_ne hopen] at hbefore

end Closes

/-- An expression goes up to the parenthesis that closes it, whatever it holds. -/
theorem untilClosed_of_closes {depth : Nat} {text : List Char} (h : Closes depth text)
    (rest : List Char) : untilClosed depth (text ++ ')' :: rest) = some (text, rest) := by
  induction text generalizing depth with
  | nil =>
    have hdepth := h.count
    simp only [List.count_nil, Nat.zero_add] at hdepth
    subst hdepth
    rfl
  | cons c text ih =>
    by_cases hclose : c = ')'
    · subst hclose
      obtain ⟨n, rfl, hrest⟩ := h.of_close
      rw [List.cons_append, untilClosed, ih hrest]
      rfl
    · by_cases hopen : c = '('
      · subst hopen
        rw [List.cons_append, untilClosed, ih h.of_open]
        rfl
      · rw [List.cons_append, untilClosed_other hclose hopen, ih (h.of_other hclose hopen)]
        rfl

/-! ## Contents -/

open Parts (typeChars tailEntries)

variable {text after : List Char} {entries : List (String × String)}
  {type : Option (List Char × Padding)} {attributes : List Attribute}

/-- Attributes after a comma are put after the entries so far. -/
theorem parseAttributes_of_parts {a : Attribute} {rest : List Attribute} (text : List Char)
    (entries : List (String × String)) (h : ∀ b ∈ a :: rest, b.IsPlain) :
    parseAttributes text entries (a.toChars ++ Attribute.listChars rest) =
      .ok ⟨putAll entries ((a :: rest).map Attribute.entry)⟩ := by
  obtain ⟨ha, hrest⟩ := List.forall_mem_cons.1 h
  exact parseAttributes_eq_ok_iff.2 ⟨_, attributes?_of_parts ha hrest, rfl⟩

/-- A type after a colon is put after the head, and the attributes after it. -/
theorem parseType_of_parts {t : List Char × Padding} (text : List Char)
    (entries : List (String × String)) (ht : t.1 ≠ [] ∧ trimBlanks t.1 = t.1 ∧ ',' ∉ t.1)
    (hattributes : ∀ a ∈ attributes, a.IsPlain) :
    parseType text entries (t.2.around t.1 ++ Attribute.listChars attributes) =
      .ok ⟨putAll entries (tailEntries (some t) attributes)⟩ := by
  obtain ⟨hne, htrim, hcomma⟩ := ht
  have htype : ∀ c ∈ t.1 ++ t.2.after, (c == ',') = false := by
    intro c hc
    have haround : c ∈ t.2.around t.1 := List.mem_append_right _ hc
    exact not_mem_around (by decide) hcomma c haround
  have htrimmed : trimmed (t.1 ++ t.2.after) = String.ofList t.1 := by
    rw [trimmed, trimBlanks_append t.2.blank_after, htrim]
  have hnonempty : (t.1 ++ t.2.after).isEmpty = false := by simp [hne]
  rw [parseType_eq, dropWhile_around _ hne (isBlank_head_of_trimBlanks htrim), ← List.append_assoc]
  cases attributes with
  | nil =>
    rw [Attribute.listChars, List.flatMap_nil, List.append_nil, cut_of_none htype]
    dsimp only
    rw [hnonempty, htrimmed, Option.getD_none]
    exact parseAttributes_eq_ok_iff.2 ⟨[], by rw [attributes?_eq]; rfl, rfl⟩
  | cons a rest =>
    rw [Attribute.listChars, List.flatMap_cons, List.cons_append, cut_append htype rfl]
    dsimp only
    rw [hnonempty, htrimmed, Option.getD_some]
    exact parseAttributes_of_parts text _ hattributes

/-- **What follows a head.** -/
theorem parseTail_of_parts (text : List Char) (entries : List (String × String))
    (hafter : ∀ c ∈ after, isBlank c)
    (htype : ∀ t ∈ type, t.1 ≠ [] ∧ trimBlanks t.1 = t.1 ∧ ',' ∉ t.1)
    (hattributes : ∀ a ∈ attributes, a.IsPlain) :
    parseTail text entries (after ++ (typeChars type ++ Attribute.listChars attributes)) =
      .ok ⟨putAll entries (tailEntries type attributes)⟩ := by
  rw [parseTail, List.dropWhile_append_of_pos hafter]
  cases type with
  | some t => exact parseType_of_parts text entries (htype t rfl) hattributes
  | none =>
    cases attributes with
    | nil => rfl
    | cons a rest => exact parseAttributes_of_parts text entries hattributes

theorem endsProperty_of_isBlank {c : Char} (h : isBlank c) : endsProperty c = false := by
  rw [← Bool.not_eq_true, endsProperty, Bool.or_eq_true, beq_iff_eq, beq_iff_eq]
  rintro (rfl | rfl)
  · exact absurd h (by decide)
  · exact absurd h (by decide)

/-- A head in its padding, and what follows it. -/
theorem parseChars_of_head {head : Head} (hhead : head.IsPlain) (padding : Padding)
    {rest : List Char} (hrest : ∀ c ∈ rest.head?, endsProperty c) :
    ∃ after, (∀ c ∈ after, isBlank c) ∧
      parseChars (padding.around head.toChars ++ rest) =
        parseTail (padding.around head.toChars ++ rest) [(head.key, head.text)]
          (after ++ rest) := by
  cases head with
  | expression text =>
    refine ⟨padding.after, padding.blank_after, parseChars_of_expression ?_
      (untilClosed_of_closes hhead _)⟩
    rw [dropWhile_around _ (by simp [Head.toChars]) (by rintro c ⟨⟩; decide)]
    simp [Head.toChars]
  | property path =>
    obtain ⟨hne, htrim, hends, hopen⟩ := hhead
    have hbody : (padding.around path ++ rest).dropWhile isBlank =
        path ++ (padding.after ++ rest) :=
      dropWhile_around rest hne (isBlank_head_of_trimBlanks htrim)
    have hbefore : ∀ c ∈ path ++ padding.after, !endsProperty c := by
      intro c hc
      rw [List.mem_append] at hc
      rcases hc with hc | hc
      · rw [Bool.not_eq_true', endsProperty, Bool.or_eq_false_iff, beq_eq_false_iff_ne,
          beq_eq_false_iff_ne]
        exact ⟨fun h => hends.1 (h ▸ hc), fun h => hends.2 (h ▸ hc)⟩
      · rw [endsProperty_of_isBlank (padding.blank_after c hc), Bool.not_false]
    have htake : (rest.takeWhile (!endsProperty ·)) = [] ∧
        rest.dropWhile (!endsProperty ·) = rest := by
      cases rest with
      | nil => exact ⟨rfl, rfl⟩
      | cons c rest => simp [hrest c rfl]
    refine ⟨[], nofun, ?_⟩
    obtain ⟨c, more, rfl⟩ := List.exists_cons_of_ne_nil hne
    rw [Head.toChars, parseChars_of_property hbody (by simpa using hopen), hbody,
      ← List.append_assoc, List.takeWhile_append_of_pos hbefore,
      List.dropWhile_append_of_pos hbefore, htake.1, htake.2, List.append_nil, trimmed,
      trimBlanks_append padding.blank_after, htrim]
    rfl

/-- What follows a head starts with a colon or a comma. -/
theorem endsProperty_head_of_parts (type : Option (List Char × Padding))
    (attributes : List Attribute) :
    ∀ c ∈ (typeChars type ++ Attribute.listChars attributes).head?, endsProperty c := by
  cases type with
  | some t => rintro c ⟨⟩; rfl
  | none =>
    cases attributes with
    | nil => exact nofun
    | cons a rest => rintro c ⟨⟩; rfl

/-- The entries of a content are its parts, put one after another. -/
theorem parse_toChars {p : Parts} (hp : p.WellFormed) :
    parse (String.ofList p.toChars) = .ok ⟨putAll [] p.entries⟩ := by
  obtain ⟨after, hafter, hparse⟩ := parseChars_of_head hp.head p.headPadding
    (endsProperty_head_of_parts p.type p.attributes)
  rw [parse, String.toList_ofList, Parts.toChars, hparse,
    parseTail_of_parts _ _ hafter hp.type hp.attributes]
  rfl

/-- A head keeps its text unless an attribute is named like it. -/
theorem TableOf.get?_head {p : Parts} {ph : Placeholder} (h : TableOf p.entries ph.entries)
    (hattributes : ∀ a ∈ p.attributes, String.ofList a.name ≠ p.head.key) :
    ph.get? p.head.key = some p.head.text := by
  have htail : (tailEntries p.type p.attributes).reverse.lookup p.head.key = none := by
    rw [List.lookup_eq_none_iff]
    intro entry hentry
    rw [bne_iff_ne]
    rw [List.mem_reverse, tailEntries, List.mem_append] at hentry
    rcases hentry with hentry | hentry
    · obtain ⟨t, -, rfl⟩ := List.mem_map.1 hentry
      exact p.head.key_ne_typeKey
    · obtain ⟨a, ha, rfl⟩ := List.mem_map.1 hentry
      exact (hattributes a ha).symm
  rw [get?, h.last, Parts.entries, List.reverse_cons, List.lookup_append, htail, Option.none_or,
    lookup_cons_eq, if_pos rfl]

/-- **Parsing undoes writing.** A content put together from well-formed parts, with any blanks
around them, parses. Its entries are the table of the parts put one after another: each key once,
where it came first, with the text that came last. So a property or an expression has the text that
was written, unless an attribute is named like it. -/
theorem parse_of_parts {p : Parts} (hp : p.WellFormed) :
    ∃ ph, parse (String.ofList p.toChars) = .ok ph ∧ TableOf p.entries ph.entries ∧
      ((∀ a ∈ p.attributes, String.ofList a.name ≠ p.head.key) →
        ph.get? p.head.key = some p.head.text) :=
  have htable := tableOf_putAll p.entries
  ⟨⟨putAll [] p.entries⟩, parse_toChars hp, htable, fun hattributes => htable.get?_head hattributes⟩

/-- An expression with nested parentheses and blanks at its ends, a name that comes twice, and an
attribute that takes the place of the type, with padding of tabs and line breaks. -/
theorem parse_of_nested_parts :
    let padding : Padding := ⟨"\t ".toList, "\n".toList, List.all_eq_true.1 (by decide),
      List.all_eq_true.1 (by decide)⟩
    let p : Parts :=
      { head := .expression " (é * (b))(), ".toList
        headPadding := padding
        type := some ("a:b".toList, padding)
        attributes :=
          [{ name := "mode".toList, value := "IN".toList, valuePadding := padding },
            { name := "jdbcType".toList, value := "c=d".toList, namePadding := padding },
            { name := "mode".toList, value := [] }] }
    p.WellFormed ∧
      String.ofList p.toChars =
        "\t ( (é * (b))(), )\n:\t a:b\n,mode=\t IN\n,\t jdbcType\n=c=d,mode=" ∧
      ∃ ph, parse (String.ofList p.toChars) = .ok ph ∧ TableOf p.entries ph.entries ∧
        ph.entries = [("expression", " (é * (b))(), "), ("jdbcType", "c=d"), ("mode", "")] ∧
        ph.expression? = some " (é * (b))(), " := by
  intro padding p
  have hp : p.WellFormed := ⟨by decide, by decide, by decide⟩
  obtain ⟨ph, hparse, htable, hhead⟩ := parse_of_parts hp
  have hentries : parse (String.ofList p.toChars) =
      .ok ⟨[("expression", " (é * (b))(), "), ("jdbcType", "c=d"), ("mode", "")]⟩ := by
    decide +kernel
  refine ⟨hp, by decide, ph, hparse, htable, ?_, hhead (by decide)⟩
  rw [hparse] at hentries
  cases hentries
  rfl

end SqlTemplate.Placeholder
