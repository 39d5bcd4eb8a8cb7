import SqlTemplate.Placeholder
import SqlTemplate.Proofs.Text.Cut

/-!
# The pieces of a placeholder

A content that parses has one of two heads: an expression in parentheses or a property. What follows
the head is a type and attributes, each cut off at the next comma (`parseChars_of_expression`,
`parseChars_of_property`, `parseType_eq`, `attributes?_eq`).

**Theorem (`piecesOf_parse`).** Every text of a placeholder is a piece of its content: nothing is
unescaped, decoded or put together.
-/

namespace SqlTemplate

namespace Placeholder

open Text

variable {text rest whole : List Char} {entries more : List (String × String)}
  {key value : String} {ph : Placeholder}

/-! ## What the parser went through -/

theorem attributes?_eq (text : List Char) :
    attributes? text =
      match text.dropWhile isBlank with
      | [] => some []
      | c :: rest =>
        match cut (· == '=') (c :: rest) with
        | (_, none) => none
        | (name, some after) =>
          match cut (· == ',') after with
          | (value, none) => some [(trimmed name, trimmed value)]
          | (value, some after') =>
            (attributes? after').map ((trimmed name, trimmed value) :: ·) := by
  rw [attributes?]
  split
  · next h => rw [h]
  · next c rest h =>
    rw [h]
    dsimp only
    split
    · next h' => rw [h']
    · next h' =>
      rw [h']
      dsimp only
      split
      · next h'' => rw [h'']
      · next h'' => rw [h'']

theorem untilClosed_other {c : Char} (hclose : c ≠ ')') (hopen : c ≠ '(') (depth : Nat)
    (rest : List Char) : untilClosed depth (c :: rest) =
      (untilClosed depth rest).map fun found => (c :: found.1, found.2) := by
  rw [untilClosed]
  · exact hclose
  · exact hopen

theorem eq_append_of_untilClosed {depth : Nat} {text expression after : List Char}
    (h : untilClosed depth text = some (expression, after)) :
    text = expression ++ ')' :: after := by
  fun_induction untilClosed depth text generalizing expression with
  | case1 => cases h
  | case2 => cases h; rfl
  | case3 _ _ ih | case4 _ _ ih | case5 _ _ _ _ _ ih =>
    obtain ⟨found, hfound, heq⟩ := Option.map_eq_some_iff.1 h
    cases heq
    rw [ih hfound]
    rfl

/-- Entries with more entries put after one another. -/
def putAll (entries more : List (String × String)) : List (String × String) :=
  more.foldl (fun entries entry => put entry.1 entry.2 entries) entries

theorem parseAttributes_eq_ok_iff :
    parseAttributes text entries rest = .ok ph ↔
      ∃ more, attributes? rest = some more ∧ ph = ⟨putAll entries more⟩ := by
  rw [parseAttributes]
  cases attributes? rest with
  | none => simp
  | some more => simp [putAll, eq_comm]

theorem parseType_eq (text : List Char) (entries : List (String × String)) (rest : List Char) :
    parseType text entries rest =
      let found := cut (· == ',') (rest.dropWhile isBlank)
      if found.1.isEmpty then .error (faultBefore text rest)
      else parseAttributes text (put typeKey (trimmed found.1) entries) (found.2.getD []) := rfl

theorem parseChars_of_expression {expression after : List Char}
    (hbody : text.dropWhile isBlank = '(' :: rest)
    (hclosed : untilClosed 0 rest = some (expression, after)) :
    parseChars text = parseTail text [(expressionKey, String.ofList expression)] after := by
  simp only [parseChars, hbody, hclosed]

theorem parseChars_of_property {c : Char} (hbody : text.dropWhile isBlank = c :: rest)
    (hc : c ≠ '(') :
    parseChars text =
      parseTail text [(propertyKey, trimmed ((text.dropWhile isBlank).takeWhile (!endsProperty ·)))]
        ((text.dropWhile isBlank).dropWhile (!endsProperty ·)) := by
  rw [parseChars]
  split
  · next h => rw [hbody] at h; cases h
  · next h => rw [hbody] at h; cases h; exact absurd rfl hc
  · rfl

/-- A content has a head of one of two kinds. -/
theorem head_of_parseChars (hparse : parseChars text = .ok ph) :
    (∃ rest expression after, text.dropWhile isBlank = '(' :: rest ∧
        untilClosed 0 rest = some (expression, after)) ∨
      ∃ c rest, text.dropWhile isBlank = c :: rest ∧ c ≠ '(' := by
  rw [parseChars] at hparse
  split at hparse
  · cases hparse
  · next rest hbody =>
    split at hparse
    · cases hparse
    · next expression after hclosed => exact .inl ⟨rest, expression, after, hbody, hclosed⟩
  · next hne hopen =>
    cases hbody : text.dropWhile isBlank with
    | nil => exact absurd hbody hne
    | cons c rest =>
      refine .inr ⟨c, rest, rfl, ?_⟩
      rintro rfl
      exact hopen rest hbody

/-! ## The texts are pieces of the content -/

/-- A name, a value and a rest are pieces of the text. -/
theorem infix_of_cut {c : Char} {name after value : List Char} {after' : Option (List Char)}
    (hbody : text.dropWhile isBlank = c :: rest)
    (hcut : cut (· == '=') (c :: rest) = (name, some after))
    (hcut' : cut (· == ',') after = (value, after')) :
    name <:+: text ∧ value <:+: text ∧ ∀ more ∈ after', more <:+: text := by
  have hbodyText : c :: rest <:+: text := hbody ▸ (List.dropWhile_suffix isBlank).isInfix
  have hname := prefix_of_cut (· == '=') (c :: rest)
  have hafter := (suffix_of_cut (congrArg Prod.snd hcut)).isInfix.trans hbodyText
  have hvalue := prefix_of_cut (· == ',') after
  rw [hcut] at hname
  rw [hcut'] at hvalue
  refine ⟨hname.isInfix.trans hbodyText, hvalue.isInfix.trans hafter, fun more hmore => ?_⟩
  exact (suffix_of_cut ((congrArg Prod.snd hcut').trans hmore)).isInfix.trans hafter

theorem mem_put {entry : String × String} (h : entry ∈ put key value entries) :
    entry = (key, value) ∨ entry ∈ entries := by
  induction entries with
  | nil => exact .inl (List.mem_singleton.1 h)
  | cons first rest ih =>
    rw [put] at h
    split at h
    · next hkey =>
      rcases List.mem_cons.1 h with rfl | h
      · exact .inl (congrArg (·, value) hkey)
      · exact .inr (List.mem_cons_of_mem _ h)
    · rcases List.mem_cons.1 h with rfl | h
      · exact .inr List.mem_cons_self
      · exact (ih h).imp_right (List.mem_cons_of_mem _)

/-- Entries whose texts are pieces of a text. -/
def PiecesOf (whole : List Char) (entries : List (String × String)) : Prop :=
  ∀ entry ∈ entries, entry.2.toList <:+: whole

theorem trimmed_isInfix (h : text <:+: whole) : (trimmed text).toList <:+: whole := by
  rw [trimmed, String.toList_ofList]
  exact (trimBlanks_isInfix text).trans h

theorem PiecesOf.put (h : PiecesOf whole entries) (hvalue : value.toList <:+: whole)
    (key : String) : PiecesOf whole (put key value entries) := by
  intro entry hentry
  rcases mem_put hentry with rfl | hentry
  · exact hvalue
  · exact h entry hentry

theorem PiecesOf.putAll (h : PiecesOf whole entries) (hmore : PiecesOf whole more) :
    PiecesOf whole (putAll entries more) := by
  induction more generalizing entries with
  | nil => exact h
  | cons entry rest ih =>
    obtain ⟨hfirst, hrest⟩ := List.forall_mem_cons.1 hmore
    exact ih (h.put hfirst entry.1) hrest

theorem piecesOf_attributes? (h : attributes? text = some more) : PiecesOf text more := by
  fun_induction attributes? text generalizing more with
  | case1 => cases h; exact nofun
  | case2 => cases h
  | case3 text c rest hbody name after hcut entry value =>
    rename_i hcut'
    cases h
    obtain ⟨-, hvalue, -⟩ := infix_of_cut hbody hcut hcut'
    exact List.forall_mem_singleton.2 (trimmed_isInfix hvalue)
  | case4 text c rest hbody name after hcut entry value after' hcut' =>
    rename_i ih
    obtain ⟨-, hvalue, hafter⟩ := infix_of_cut hbody hcut hcut'
    obtain ⟨rest, hrest, rfl⟩ := Option.map_eq_some_iff.1 h
    refine List.forall_mem_cons.2 ⟨trimmed_isInfix hvalue, fun entry hentry => ?_⟩
    exact (ih hrest entry hentry).trans (hafter after' rfl)

theorem piecesOf_parseAttributes (h : PiecesOf whole entries) (hrest : rest <:+: whole)
    (hparse : parseAttributes text entries rest = .ok ph) : PiecesOf whole ph.entries := by
  obtain ⟨more, hmore, rfl⟩ := parseAttributes_eq_ok_iff.1 hparse
  exact h.putAll fun entry hentry => (piecesOf_attributes? hmore entry hentry).trans hrest

theorem piecesOf_parseTail (h : PiecesOf whole entries) (hrest : rest <:+: whole)
    (hparse : parseTail text entries rest = .ok ph) : PiecesOf whole ph.entries := by
  have hbody := (List.dropWhile_suffix (l := rest) isBlank).isInfix.trans hrest
  rw [parseTail] at hparse
  split at hparse
  · cases hparse
    exact h
  · next after hafter =>
    rw [hafter] at hbody
    have hafterBody := (List.suffix_cons ':' after).isInfix.trans hbody
    have hdropped := (List.dropWhile_suffix (l := after) isBlank).isInfix.trans hafterBody
    rw [parseType_eq] at hparse
    dsimp only at hparse
    split at hparse
    · cases hparse
    · have htype := (prefix_of_cut (· == ',') (after.dropWhile isBlank)).isInfix.trans hdropped
      refine piecesOf_parseAttributes (h.put (trimmed_isInfix htype) typeKey) ?_ hparse
      cases hmore : (cut (· == ',') (after.dropWhile isBlank)).2 with
      | none => exact List.nil_infix
      | some more => exact (suffix_of_cut hmore).isInfix.trans hdropped
  · next after hafter =>
    rw [hafter] at hbody
    exact piecesOf_parseAttributes h ((List.suffix_cons ',' after).isInfix.trans hbody) hparse
  · cases hparse

/-- **The texts of a placeholder are pieces of its content.** -/
theorem piecesOf_parse {content : String} (hparse : parse content = .ok ph) :
    PiecesOf content.toList ph.entries := by
  rw [parse] at hparse
  have hbodyText := (List.dropWhile_suffix (l := content.toList) isBlank).isInfix
  rcases head_of_parseChars hparse with ⟨rest, expression, after, hbody, hclosed⟩ |
    ⟨c, rest, hbody, hc⟩
  · rw [parseChars_of_expression hbody hclosed] at hparse
    have hrest : rest <:+: content.toList :=
      (List.suffix_cons '(' rest).isInfix.trans (hbody ▸ hbodyText)
    have hpieces := eq_append_of_untilClosed hclosed
    refine piecesOf_parseTail (List.forall_mem_singleton.2 ?_) ?_ hparse
    · rw [String.toList_ofList]
      exact (hpieces ▸ (List.prefix_append _ _).isInfix).trans hrest
    · have hafter : after <:+ rest :=
        hpieces ▸ (List.suffix_cons ')' after).trans (List.suffix_append _ _)
      exact hafter.isInfix.trans hrest
  · rw [parseChars_of_property hbody hc] at hparse
    have hproperty := (List.takeWhile_prefix (l := content.toList.dropWhile isBlank)
      (!endsProperty ·)).isInfix.trans hbodyText
    have htail := (List.dropWhile_suffix (l := content.toList.dropWhile isBlank)
      (!endsProperty ·)).isInfix.trans hbodyText
    refine piecesOf_parseTail (fun entry hentry => ?_) htail hparse
    rw [List.mem_singleton.1 hentry]
    exact trimmed_isInfix hproperty

end Placeholder

end SqlTemplate
