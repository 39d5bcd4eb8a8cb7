import SqlTemplate.Proofs.Placeholder.Parts

/-!
# Contents as they are written

A content is written as a head, perhaps a type after a colon, attributes after commas, and perhaps
one more comma with nothing but blanks behind it. `Written` holds these pieces as they stand in the
text, each up to the character that ends it.

**Theorem (`parse_written`).** A content that is written in this way parses, unless it is blank. Its
entries are put one after another, each without the blanks around it.

What is read up to the last comma does not depend on what follows it (`parseChars_pieces`).
-/

namespace SqlTemplate.Placeholder

open Text

/-! ## The grammar -/

/-- A head as it can stand in a content: a plain one, or a property without a text. -/
def Head.IsWritten (head : Head) : Prop := head.IsPlain ∨ head = .property []

/-- The pieces of a content, as they stand in it. -/
structure Written where
  head : Head
  headPadding : Padding
  /-- What stands between the colon after the head and the next comma. -/
  type : Option (List Char)
  /-- The names and values of the attributes. -/
  attributes : List (List Char × List Char)
  /-- What follows a last comma without an attribute. -/
  trailing : Option (List Char)

namespace Written

/-- A type as it is written, after a colon. -/
def typeChars (type : Option (List Char)) : List Char := type.elim [] (':' :: ·)

/-- Attributes as they are written, each after a comma, and what follows a last comma. -/
def tailChars (attributes : List (List Char × List Char)) (trailing : Option (List Char)) :
    List Char :=
  (attributes.flatMap fun a => ',' :: (a.1 ++ '=' :: a.2)) ++ trailing.elim [] (',' :: ·)

/-- The pieces put together. -/
def toChars (w : Written) : List Char :=
  w.headPadding.around w.head.toChars ++ (typeChars w.type ++ tailChars w.attributes w.trailing)

/-- Pieces that end where the next one starts: a type that is not blank and has no comma, names
without equals signs, values without commas, and blanks after the last comma. -/
structure WellFormed (w : Written) : Prop where
  head : w.head.IsWritten
  type : ∀ t ∈ w.type, ',' ∉ t ∧ ∃ c ∈ t, isBlank c = false
  attributes : ∀ a ∈ w.attributes, '=' ∉ a.1 ∧ ',' ∉ a.2
  trailing : ∀ t ∈ w.trailing, ∀ c ∈ t, isBlank c

/-- The entry of a type. -/
def typeEntries (type : Option (List Char)) : List (String × String) :=
  type.toList.map fun t => (typeKey, trimmed t)

/-- The entry of an attribute. -/
def entry (a : List Char × List Char) : String × String := (trimmed a.1, trimmed a.2)

/-- The entries of the pieces, in their order. -/
def entries (w : Written) : List (String × String) :=
  (w.head.key, w.head.text) :: (typeEntries w.type ++ w.attributes.map entry)

end Written

open Written (typeChars tailChars typeEntries entry)

/-! ## Parsing pieces -/

theorem putAll_append (entries more last : List (String × String)) :
    putAll entries (more ++ last) = putAll (putAll entries more) last := List.foldl_append

section pieces

variable {text rest : List Char} {attributes : List (List Char × List Char)}
  {trailing type : Option (List Char)}

theorem attributes?_of_blank (h : ∀ c ∈ text, isBlank c) : attributes? text = some [] := by
  rw [attributes?_eq, List.dropWhile_eq_nil_iff.2 h]

theorem attributes?_of_no_equals (hblank : ∃ c ∈ text, isBlank c = false) (hequals : '=' ∉ text) :
    attributes? text = none := by
  rw [attributes?_eq]
  cases hbody : text.dropWhile isBlank with
  | nil =>
    obtain ⟨c, hc, hink⟩ := hblank
    rw [List.dropWhile_eq_nil_iff.1 hbody c hc] at hink
    cases hink
  | cons c more =>
    have hmore : ∀ d ∈ c :: more, (d == '=') = false := by
      intro d hd
      rw [beq_eq_false_iff_ne]
      rintro rfl
      exact hequals ((List.dropWhile_suffix isBlank).mem (hbody ▸ hd))
    dsimp only
    rw [cut_of_none hmore]

/-- Attributes start with a comma. -/
theorem tailChars_cases (attributes : List (List Char × List Char))
    (trailing : Option (List Char)) :
    (attributes = [] ∧ trailing = none ∧ tailChars attributes trailing = []) ∨
      ∃ rest, tailChars attributes trailing = ',' :: rest := by
  cases attributes with
  | cons a more => exact .inr ⟨_, rfl⟩
  | nil =>
    cases trailing with
    | none => exact .inl ⟨rfl, rfl, rfl⟩
    | some t => exact .inr ⟨t, rfl⟩

/-- A piece without commas goes up to the attributes. -/
theorem cut_tailChars {piece : List Char} (h : ',' ∉ piece)
    (attributes : List (List Char × List Char)) (trailing : Option (List Char)) :
    cut (· == ',') (piece ++ tailChars attributes trailing) =
      (piece, (tailChars attributes trailing).tail?) := by
  have hpiece : ∀ c ∈ piece, (c == ',') = false := by
    intro c hc
    rw [beq_eq_false_iff_ne]
    rintro rfl
    exact h hc
  rcases tailChars_cases attributes trailing with ⟨-, -, htail⟩ | ⟨rest, htail⟩
  · rw [htail, List.append_nil, cut_of_none hpiece]
    rfl
  · rw [htail, cut_append hpiece rfl]
    rfl

/-- **Reading attributes** up to what follows the last comma. -/
theorem attributes?_tailChars (h : ∀ a ∈ attributes, '=' ∉ a.1 ∧ ',' ∉ a.2)
    (trailing : Option (List Char)) :
    attributes? (tailChars attributes trailing).tail =
      (trailing.elim (some []) attributes?).map (attributes.map entry ++ ·) := by
  induction attributes with
  | nil =>
    cases trailing with
    | none => exact attributes?_of_blank nofun
    | some t => exact (Option.map_id' (x := attributes? t)).symm
  | cons a more ih =>
    obtain ⟨⟨hname, hvalue⟩, hmore⟩ := List.forall_mem_cons.1 h
    have htail : (tailChars (a :: more) trailing).tail =
        a.1 ++ '=' :: (a.2 ++ tailChars more trailing) := by
      simp [tailChars]
    have hcut : cut (· == '=')
        ((a.1 ++ '=' :: (a.2 ++ tailChars more trailing)).dropWhile isBlank) =
        (a.1.dropWhile isBlank, some (a.2 ++ tailChars more trailing)) := by
      rw [dropWhile_append_of_head (by rintro c ⟨⟩; decide)]
      refine cut_append (fun c hc => ?_) rfl
      rw [beq_eq_false_iff_ne]
      rintro rfl
      exact hname ((List.dropWhile_suffix isBlank).mem hc)
    rw [htail, attributes?_of_cut hcut (cut_tailChars hvalue more trailing), trimmed_dropWhile]
    rcases tailChars_cases more trailing with ⟨rfl, rfl, hnil⟩ | ⟨rest, hcons⟩
    · rw [hnil]
      rfl
    · have hrest := ih hmore
      rw [hcons, List.tail_cons] at hrest
      rw [hcons, List.tail?_cons, Option.elim_some, hrest, Option.map_map]
      rfl

/-- **What follows a head** is a type and attributes. -/
theorem parseTail_written (text : List Char) (entries : List (String × String))
    {after : List Char} (hafter : ∀ c ∈ after, isBlank c)
    (htype : ∀ t ∈ type, ',' ∉ t ∧ ∃ c ∈ t, isBlank c = false) :
    parseTail text entries (after ++ (typeChars type ++ tailChars attributes trailing)) =
      parseAttributes text (putAll entries (typeEntries type))
        (tailChars attributes trailing).tail := by
  rw [parseTail, List.dropWhile_append_of_pos hafter]
  cases type with
  | none =>
    rcases tailChars_cases attributes trailing with ⟨-, -, htail⟩ | ⟨rest, htail⟩
    · have hnone := attributes?_of_blank (List.forall_mem_nil (isBlank · = true))
      rw [htail, List.tail_nil]
      exact (parseAttributes_eq_ok_iff.2 ⟨[], hnone, rfl⟩).symm
    · rw [htail]
      rfl
  | some t =>
    obtain ⟨hcomma, c, hc, hink⟩ := htype t rfl
    have hdrop : (t ++ tailChars attributes trailing).dropWhile isBlank =
        t.dropWhile isBlank ++ tailChars attributes trailing := by
      refine dropWhile_append_of_head fun d hd => ?_
      rcases tailChars_cases attributes trailing with ⟨-, -, htail⟩ | ⟨rest, htail⟩
      · rw [htail] at hd; cases hd
      · rw [htail] at hd; cases hd; decide
    have hcomma' : ',' ∉ t.dropWhile isBlank :=
      fun hmem => hcomma ((List.dropWhile_suffix isBlank).mem hmem)
    have hcut := cut_tailChars hcomma' attributes trailing
    have hnonempty : (t.dropWhile isBlank).isEmpty = false := by
      rw [List.isEmpty_eq_false_iff]
      intro hnil
      rw [List.dropWhile_eq_nil_iff.1 hnil c hc] at hink
      cases hink
    change parseType text entries (t ++ tailChars attributes trailing) = _
    rw [parseType_eq, hdrop, hcut]
    dsimp only
    rw [hnonempty, trimmed_dropWhile]
    rcases tailChars_cases attributes trailing with ⟨-, -, htail⟩ | ⟨rest, htail⟩
    · rw [htail]; rfl
    · rw [htail]; rfl

/-- An expression in its padding, and what follows it. -/
theorem parseChars_expression {expression : List Char} (h : Closes 0 expression)
    (padding : Padding) (rest : List Char) :
    parseChars (padding.around (Head.expression expression).toChars ++ rest) =
      parseTail (padding.around (Head.expression expression).toChars ++ rest)
        [(expressionKey, String.ofList expression)] (padding.after ++ rest) := by
  refine parseChars_of_expression ?_ (untilClosed_of_closes h _)
  rw [dropWhile_around _ (by simp [Head.toChars]) (by rintro c ⟨⟩; decide)]
  simp [Head.toChars]

/-- A head in its padding, and what follows it. -/
theorem parseChars_head {head : Head} (hhead : head.IsWritten) (padding : Padding)
    (hrest : ∀ c ∈ rest.head?, endsProperty c)
    (hblank : ∃ c ∈ padding.around head.toChars ++ rest, isBlank c = false) :
    ∃ after, (∀ c ∈ after, isBlank c) ∧
      parseChars (padding.around head.toChars ++ rest) =
        parseTail (padding.around head.toChars ++ rest) [(head.key, head.text)]
          (after ++ rest) := by
  rcases hhead with hplain | rfl
  · exact parseChars_of_head hplain padding hrest
  · have hpadding : ∀ c ∈ padding.around (Head.property []).toChars, isBlank c :=
      fun c hc => (Padding.mem_around hc).resolve_right List.not_mem_nil
    cases rest with
    | nil =>
      obtain ⟨c, hc, hink⟩ := hblank
      rw [List.append_nil] at hc
      rw [hpadding c hc] at hink
      cases hink
    | cons c rest =>
      have hc : endsProperty c := hrest c rfl
      have hink : isBlank c = false := by
        rw [← Bool.not_eq_true]
        intro hcblank
        rw [endsProperty_of_isBlank hcblank] at hc
        cases hc
      have hbody : (padding.around (Head.property []).toChars ++ c :: rest).dropWhile isBlank =
          c :: rest := by
        rw [List.dropWhile_append_of_pos hpadding, List.dropWhile_cons, hink]
        rfl
      have hopen : c ≠ '(' := by
        rintro rfl
        exact absurd hc (by decide)
      refine ⟨[], List.forall_mem_nil _, ?_⟩
      rw [parseChars_of_property hbody hopen, hbody, List.takeWhile_cons, List.dropWhile_cons, hc]
      rfl

end pieces

/-- What follows a head starts with a colon or a comma. -/
theorem endsProperty_head_written (w : Written) :
    ∀ c ∈ (typeChars w.type ++ tailChars w.attributes w.trailing).head?, endsProperty c := by
  cases w.type with
  | some t => rintro c ⟨⟩; rfl
  | none =>
    rcases tailChars_cases w.attributes w.trailing with ⟨-, -, htail⟩ | ⟨rest, htail⟩
    · rw [htail]; exact nofun
    · rw [htail]; rintro c ⟨⟩; rfl

/-- The pieces of a text up to what follows a last comma. -/
theorem parseChars_pieces {w : Written} (hhead : w.head.IsWritten)
    (htype : ∀ t ∈ w.type, ',' ∉ t ∧ ∃ c ∈ t, isBlank c = false)
    (hattributes : ∀ a ∈ w.attributes, '=' ∉ a.1 ∧ ',' ∉ a.2)
    (hblank : ∃ c ∈ w.toChars, isBlank c = false) :
    parseChars w.toChars =
      match w.trailing.elim (some []) attributes? with
      | none => .error (byteLength w.toChars)
      | some more => .ok ⟨putAll [] (w.entries ++ more)⟩ := by
  obtain ⟨after, hafter, hparse⟩ :=
    parseChars_head hhead w.headPadding (endsProperty_head_written w) hblank
  change parseChars w.toChars = parseTail w.toChars _ _ at hparse
  rw [hparse, parseTail_written w.toChars _ hafter htype, parseAttributes,
    attributes?_tailChars hattributes]
  cases w.trailing.elim (some []) attributes? with
  | none => rfl
  | some more =>
    dsimp only [Option.map_some]
    have hentries : w.entries ++ more =
        [(w.head.key, w.head.text)] ++
          (typeEntries w.type ++ (w.attributes.map entry ++ more)) := by
      simp [Written.entries]
    rw [hentries, putAll_append, putAll_append]
    rfl

/-- **Contents that are written as they should be parse**, and their entries are put one after
another. -/
theorem parse_written {w : Written} (hw : w.WellFormed)
    (hblank : ∃ c ∈ w.toChars, isBlank c = false) :
    parseChars w.toChars = .ok ⟨putAll [] w.entries⟩ := by
  have htrailing : w.trailing.elim (some []) attributes? = some [] := by
    cases ht : w.trailing with
    | none => rfl
    | some t => exact attributes?_of_blank (hw.trailing t ht)
  rw [parseChars_pieces hw.head hw.type hw.attributes hblank, htrailing]
  dsimp only
  rw [List.append_nil]

end SqlTemplate.Placeholder
