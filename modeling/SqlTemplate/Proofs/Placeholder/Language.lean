import SqlTemplate.Proofs.Placeholder.Closing
import SqlTemplate.Proofs.Placeholder.Written
import SqlTemplate.Proofs.Text.Bytes
import SqlTemplate.Statement.Mapping

/-!
# The language of placeholders

A content that is not written as it should be has one of five faults, each at a place of its own
(`FaultAt`).

**Theorem (`parse_exact`).** A text parses exactly if it is `Written` and not blank. The parser
reports a place exactly if a fault is there; the place is not beyond the end of the text and not
inside of a character, and the error of the mapping has the text itself.

What the parser does at each fault is computed (`parse_of_faultAt`). The converse needs nothing of
the parser: every text is written as it should be or has a fault (`written_or_fault`), and the
parser has only one answer.
-/

namespace SqlTemplate.Placeholder

open Text
open Written (typeChars tailChars)

/-! ## Faults -/

/-- The faults of a text, each with its place, counted in bytes. -/
inductive FaultAt : List Char → Nat → Prop
  /-- Nothing but blanks: at the end. -/
  | blank {text : List Char} (h : ∀ c ∈ text, isBlank c) : FaultAt text (byteLength text)
  /-- An expression that is not closed: at its parenthesis. -/
  | unclosed {before rest : List Char} (hbefore : ∀ c ∈ before, isBlank c)
      (hrest : ∀ expression after, Closes 0 expression → rest ≠ expression ++ ')' :: after) :
      FaultAt (before ++ '(' :: rest) (byteLength before)
  /-- A character that cannot follow an expression: at the character. -/
  | stray {padding : Padding} {expression : List Char} {c : Char} {rest : List Char}
      (hexpression : Closes 0 expression) (hblank : isBlank c = false)
      (hends : endsProperty c = false) :
      FaultAt (padding.around (Head.expression expression).toChars ++ c :: rest)
        (byteLength (padding.around (Head.expression expression).toChars))
  /-- A blank type: right after its colon. -/
  | noType {head : Head} {padding : Padding} {blanks rest : List Char} (hhead : head.IsWritten)
      (hblanks : ∀ c ∈ blanks, isBlank c) (hrest : ∀ c ∈ rest.head?, c = ',') :
      FaultAt (padding.around head.toChars ++ ':' :: (blanks ++ rest))
        (byteLength (padding.around head.toChars ++ [':']))
  /-- An attribute without an equals sign: at the end. -/
  | noEquals {w : Written} {rest : List Char} (hw : w.WellFormed)
      (hblank : ∃ c ∈ rest, isBlank c = false) (hequals : '=' ∉ rest) :
      FaultAt { w with trailing := some rest }.toChars
        (byteLength { w with trailing := some rest }.toChars)

/-! ## Places -/

section places

variable {text before left : List Char}

/-- What is left starts where the text before it ends. -/
theorem faultBefore_append (before left : List Char) :
    faultBefore (before ++ left) left = byteLength before := by
  rw [faultBefore, byteLength_append, Nat.add_sub_cancel]

/-- A fault is between two characters. -/
theorem FaultAt.exists_append {n : Nat} (h : FaultAt text n) :
    ∃ before left, text = before ++ left ∧ n = byteLength before := by
  cases h with
  | blank => exact ⟨text, [], (List.append_nil text).symm, rfl⟩
  | unclosed => exact ⟨_, _, rfl, rfl⟩
  | stray => exact ⟨_, _, rfl, rfl⟩
  | noType => exact ⟨_, _, by rw [List.append_assoc]; rfl, rfl⟩
  | noEquals => exact ⟨_, [], (List.append_nil _).symm, rfl⟩

theorem FaultAt.isValid {text : String} {n : Nat} (h : FaultAt text.toList n) :
    (⟨n⟩ : String.Pos.Raw).IsValid text := by
  obtain ⟨before, left, htext, rfl⟩ := h.exists_append
  refine String.Pos.Raw.isValid_iff_exists_append.2
    ⟨String.ofList before, String.ofList left, ?_, ?_⟩
  · rw [← String.ofList_append, ← htext, String.ofList_toList]
  · rw [String.rawEndPos, utf8ByteSize_ofList]

end places

/-! ## Parsing faults -/

/-- **The parser reports each fault** at its place. -/
theorem parse_of_faultAt {text : List Char} {n : Nat} (h : FaultAt text n) :
    parseChars text = .error n := by
  cases h with
  | blank hblank => rw [parseChars, List.dropWhile_eq_nil_iff.2 hblank]
  | @unclosed before rest hbefore hrest =>
    have hbody : (before ++ '(' :: rest).dropWhile isBlank = '(' :: rest := by
      rw [List.dropWhile_append_of_pos hbefore]
      rfl
    simp only [parseChars, hbody, untilClosed_eq_none_iff.2 hrest, faultBefore_append]
  | @stray padding expression c rest hexpression hblank hends =>
    have hstop : (padding.after ++ c :: rest).dropWhile isBlank = c :: rest := by
      rw [List.dropWhile_append_of_pos padding.blank_after, List.dropWhile_cons, hblank]
      rfl
    rw [parseChars_expression hexpression, parseTail, hstop]
    split
    · next heq => cases heq
    · next heq => cases heq; cases hends
    · next heq => cases heq; cases hends
    · rw [faultBefore_append]
  | @noType head padding blanks rest hhead hblanks hrest =>
    have hcolon : ∀ c ∈ (':' :: (blanks ++ rest)).head?, endsProperty c := by rintro c ⟨⟩; rfl
    obtain ⟨after, hafter, hparse⟩ := parseChars_head hhead padding hcolon
      ⟨':', List.mem_append_right _ List.mem_cons_self, by decide⟩
    have htype : (cut (· == ',') ((blanks ++ rest).dropWhile isBlank)).1 = [] := by
      rw [List.dropWhile_append_of_pos hblanks]
      cases rest with
      | nil => rfl
      | cons c rest => cases hrest c rfl; rfl
    have hplace : padding.around head.toChars ++ ':' :: (blanks ++ rest) =
        (padding.around head.toChars ++ [':']) ++ (blanks ++ rest) := by
      simp
    rw [hparse, parseTail, List.dropWhile_append_of_pos hafter]
    change parseType _ _ (blanks ++ rest) = _
    rw [parseType_eq]
    dsimp only
    rw [htype, hplace, faultBefore_append]
    rfl
  | @noEquals w rest hw hblank hequals =>
    obtain ⟨c, hc, hink⟩ := hblank
    have hmem : c ∈ Written.toChars { w with trailing := some rest } := by
      simp [Written.toChars, tailChars, hc]
    rw [parseChars_pieces (w := { w with trailing := some rest }) hw.head hw.type hw.attributes
      ⟨c, hmem, hink⟩]
    dsimp only [Option.elim_some]
    rw [attributes?_of_no_equals ⟨c, hc, hink⟩ hequals]

/-! ## Every text is written as it should be or has a fault -/

/-- A text is what trimming leaves of it, with blanks around. -/
theorem exists_padding (text : List Char) :
    ∃ padding : Padding, text = padding.around (trimBlanks text) := by
  have hstart : ∀ c ∈ text.takeWhile isBlank, isBlank c := fun c hc => List.mem_takeWhile_imp hc
  have hend : ∀ c ∈ ((text.dropWhile isBlank).reverse.takeWhile isBlank).reverse, isBlank c :=
    fun c hc => List.mem_takeWhile_imp (List.mem_reverse.1 hc)
  refine ⟨⟨_, _, hstart, hend⟩, ?_⟩
  rw [Padding.around, trimBlanks, ← List.reverse_append, List.takeWhile_append_dropWhile,
    List.reverse_reverse, List.takeWhile_append_dropWhile]

theorem mem_of_not_all_blank {text : List Char} (h : ¬ ∀ c ∈ text, isBlank c) :
    ∃ c ∈ text, isBlank c = false := by
  simpa using h

theorem comma_head_dropWhile (text : List Char) :
    ∀ c ∈ (text.dropWhile (· != ',')).head?, c = ',' := by
  intro c hc
  have hhead := List.head?_dropWhile_not (· != ',') text
  rw [hc] at hhead
  simpa using hhead

theorem comma_not_mem_takeWhile (text : List Char) : ',' ∉ text.takeWhile (· != ',') :=
  fun hmem => absurd (List.mem_takeWhile_imp hmem) (by decide)

/-- After a comma stand attributes, and perhaps a text that is none. -/
theorem exists_tailChars (tail : List Char) (htail : ∀ c ∈ tail.head?, c = ',') :
    ∃ attributes trailing, tail = tailChars attributes trailing ∧
      (∀ a ∈ attributes, '=' ∉ a.1 ∧ ',' ∉ a.2) ∧
      ∀ t ∈ trailing, (∀ c ∈ t, isBlank c) ∨ (∃ c ∈ t, isBlank c = false) ∧ '=' ∉ t := by
  induction hn : tail.length using Nat.strongRecOn generalizing tail with
  | ind n ih =>
    cases tail with
    | nil => exact ⟨[], none, rfl, nofun, nofun⟩
    | cons c rest =>
      cases htail c rfl
      by_cases hequals : '=' ∈ rest
      · obtain ⟨name, after, rfl, hname⟩ := List.eq_append_cons_of_mem hequals
        have hshorter : (after.dropWhile (· != ',')).length < n := by
          have hle := length_dropWhile_le (· != ',') after
          simp at hn
          omega
        obtain ⟨attributes, trailing, hafter, hattributes, htrailing⟩ :=
          ih _ hshorter _ (comma_head_dropWhile after) rfl
        refine ⟨(name, after.takeWhile (· != ',')) :: attributes, trailing, ?_, ?_, htrailing⟩
        · have hvalue := List.takeWhile_append_dropWhile (p := (· != ',')) (l := after)
          rw [hafter] at hvalue
          conv_lhs => rw [← hvalue]
          simp [tailChars]
        · exact List.forall_mem_cons.2 ⟨⟨hname, comma_not_mem_takeWhile after⟩, hattributes⟩
      · refine ⟨[], some rest, rfl, nofun, ?_⟩
        rintro t ⟨⟩
        by_cases hblank : ∀ c ∈ rest, isBlank c
        · exact .inl hblank
        · exact .inr ⟨mem_of_not_all_blank hblank, hequals⟩

section decomposition

variable {head : Head} {type : Option (List Char)} {tail : List Char}

/-- After a head and a type. -/
theorem written_or_fault_of_type (hhead : head.IsWritten) (padding : Padding)
    (htype : ∀ t ∈ type, ',' ∉ t ∧ ∃ c ∈ t, isBlank c = false)
    (htail : ∀ c ∈ tail.head?, c = ',') :
    (∃ w : Written, w.WellFormed ∧
        w.toChars = padding.around head.toChars ++ (typeChars type ++ tail)) ∨
      ∃ n, FaultAt (padding.around head.toChars ++ (typeChars type ++ tail)) n := by
  obtain ⟨attributes, trailing, rfl, hattributes, htrailing⟩ := exists_tailChars tail htail
  by_cases hblank : ∀ t ∈ trailing, ∀ c ∈ t, isBlank c
  · exact .inl ⟨⟨head, padding, type, attributes, trailing⟩,
      ⟨hhead, htype, hattributes, hblank⟩, rfl⟩
  · cases trailing with
    | none => exact absurd (by rintro t ⟨⟩) hblank
    | some t =>
      obtain hall | ⟨hink, hequals⟩ := htrailing t rfl
      · refine absurd ?_ hblank
        rintro t ⟨⟩
        exact hall
      · have hw : Written.WellFormed ⟨head, padding, type, attributes, none⟩ :=
          ⟨hhead, htype, hattributes, nofun⟩
        exact .inr ⟨_, .noEquals hw hink hequals⟩

/-- After a head. -/
theorem written_or_fault_of_head (hhead : head.IsWritten) (padding : Padding)
    (htail : ∀ c ∈ tail.head?, endsProperty c) :
    (∃ w : Written, w.WellFormed ∧ w.toChars = padding.around head.toChars ++ tail) ∨
      ∃ n, FaultAt (padding.around head.toChars ++ tail) n := by
  by_cases hcolon : tail.head? = some ':'
  · obtain ⟨rest, rfl⟩ := List.head?_eq_some_iff.1 hcolon
    have hrest := List.takeWhile_append_dropWhile (p := (· != ',')) (l := rest)
    by_cases hblank : ∀ c ∈ rest.takeWhile (· != ','), isBlank c
    · rw [← hrest]
      exact .inr ⟨_, .noType hhead hblank (comma_head_dropWhile rest)⟩
    · have htype : ∀ t ∈ some (rest.takeWhile (· != ',')),
          ',' ∉ t ∧ ∃ c ∈ t, isBlank c = false := by
        rintro t ⟨⟩
        exact ⟨comma_not_mem_takeWhile rest, mem_of_not_all_blank hblank⟩
      have hwritten := written_or_fault_of_type hhead padding htype (comma_head_dropWhile rest)
      rwa [typeChars, Option.elim_some, List.cons_append, hrest] at hwritten
  · have htype : ∀ t ∈ (none : Option (List Char)), ',' ∉ t ∧ ∃ c ∈ t, isBlank c = false := nofun
    refine written_or_fault_of_type hhead padding htype fun c hc => ?_
    have hends := htail c hc
    rw [endsProperty, Bool.or_eq_true, beq_iff_eq, beq_iff_eq] at hends
    refine hends.resolve_right ?_
    rintro rfl
    exact hcolon hc

/-- After an opening parenthesis. -/
theorem written_or_fault_of_open {before rest : List Char} (hbefore : ∀ c ∈ before, isBlank c) :
    (∃ w : Written, w.WellFormed ∧ w.toChars = before ++ '(' :: rest) ∨
      ∃ n, FaultAt (before ++ '(' :: rest) n := by
  cases hfound : untilClosed 0 rest with
  | none => exact .inr ⟨_, .unclosed hbefore (untilClosed_eq_none_iff.1 hfound)⟩
  | some found =>
    obtain ⟨expression, after⟩ := found
    have hcloses : Closes 0 expression := closes_of_untilClosed hfound
    let padding : Padding := ⟨before, after.takeWhile isBlank, hbefore,
      fun c hc => List.mem_takeWhile_imp hc⟩
    have htext : before ++ '(' :: rest = padding.around (Head.expression expression).toChars ++
        after.dropWhile isBlank := by
      have hafter := List.takeWhile_append_dropWhile (p := isBlank) (l := after)
      rw [eq_append_of_untilClosed hfound]
      conv_lhs => rw [← hafter]
      simp [padding, Padding.around, Head.toChars]
    rw [htext]
    by_cases hends : ∀ c ∈ (after.dropWhile isBlank).head?, endsProperty c
    · have hhead : (Head.expression expression).IsWritten := .inl hcloses
      exact written_or_fault_of_head hhead padding hends
    · cases hstop : after.dropWhile isBlank with
      | nil => rw [hstop] at hends; exact absurd (by rintro c ⟨⟩) hends
      | cons c more =>
        have hhead := List.head?_dropWhile_not isBlank after
        rw [hstop] at hends hhead
        simp at hends hhead
        exact .inr ⟨_, .stray hcloses hhead hends⟩

/-- What stands before the first comma or colon is a property in its padding, maybe without a
text. -/
theorem exists_property {c : Char} (hink : isBlank c = false) (hopen : c ≠ '(')
    (rest : List Char) :
    ∃ path padding, (Head.property path).IsWritten ∧
      Padding.around padding path = (c :: rest).takeWhile (!endsProperty ·) := by
  obtain ⟨padding, hpadding⟩ := exists_padding ((c :: rest).takeWhile (!endsProperty ·))
  generalize hpath : trimBlanks ((c :: rest).takeWhile (!endsProperty ·)) = path at hpadding
  refine ⟨path, padding, ?_, hpadding.symm⟩
  by_cases hne : path = []
  · exact .inr (congrArg Head.property hne)
  · have htrim : trimBlanks path = path := by
      rw [hpadding, Padding.around, trimBlanks_padded padding.blank_before padding.blank_after]
        at hpath
      exact hpath
    have hends : ∀ d ∈ path, endsProperty d = false := by
      intro d hd
      have hmem : d ∈ (c :: rest).takeWhile (!endsProperty ·) := by
        rw [hpadding]
        exact List.mem_append_right _ (List.mem_append_left _ hd)
      simpa using List.mem_takeWhile_imp hmem
    have hhead : path.head? = some c := by
      have hdrop : (padding.around path ++ []).dropWhile isBlank = path ++ (padding.after ++ []) :=
        dropWhile_around [] hne (isBlank_head_of_trimBlanks htrim)
      rw [List.append_nil, ← hpadding, List.takeWhile_cons] at hdrop
      split at hdrop
      · rw [List.dropWhile_cons, hink] at hdrop
        cases path with
        | nil => exact absurd rfl hne
        | cons d path => exact congrArg some (List.cons.inj hdrop).1.symm
      · exact absurd (List.append_eq_nil_iff.1 hdrop.symm).1 hne
    refine .inl ⟨hne, htrim, ⟨fun hmem => ?_, fun hmem => ?_⟩, ?_⟩
    · exact absurd (hends _ hmem) (by decide)
    · exact absurd (hends _ hmem) (by decide)
    · rw [hhead, ne_eq, Option.some.injEq]
      exact hopen

end decomposition

/-- **Every text is written as it should be or has a fault.** -/
theorem written_or_fault (text : List Char) :
    ((∃ c ∈ text, isBlank c = false) ∧ ∃ w : Written, w.WellFormed ∧ w.toChars = text) ∨
      ∃ n, FaultAt text n := by
  by_cases hblank : ∀ c ∈ text, isBlank c
  · exact .inr ⟨_, .blank hblank⟩
  · have hink := mem_of_not_all_blank hblank
    suffices h : (∃ w : Written, w.WellFormed ∧ w.toChars = text) ∨ ∃ n, FaultAt text n from
      h.imp_left fun hw => ⟨hink, hw⟩
    have hbefore : ∀ c ∈ text.takeWhile isBlank, isBlank c := fun c hc => List.mem_takeWhile_imp hc
    have htext := List.takeWhile_append_dropWhile (p := isBlank) (l := text)
    have hhead := List.head?_dropWhile_not isBlank text
    cases hbody : text.dropWhile isBlank with
    | nil => exact absurd (List.dropWhile_eq_nil_iff.1 hbody) hblank
    | cons c rest =>
      rw [hbody] at htext hhead
      rw [← htext]
      by_cases hopen : c = '('
      · subst hopen
        exact written_or_fault_of_open hbefore
      · have hink' : isBlank c = false := by simpa using hhead
        obtain ⟨path, padding, hwritten, hpath⟩ := exists_property hink' hopen rest
        let around : Padding := ⟨text.takeWhile isBlank ++ padding.before, padding.after,
          fun d hd => (List.mem_append.1 hd).elim (hbefore d) (padding.blank_before d),
          padding.blank_after⟩
        have hbody : text.takeWhile isBlank ++ c :: rest =
            around.around (Head.property path).toChars ++
              (c :: rest).dropWhile (!endsProperty ·) := by
          have hcut := List.takeWhile_append_dropWhile (p := (!endsProperty ·)) (l := c :: rest)
          conv_lhs => rw [← hcut]
          rw [← hpath]
          simp [around, Padding.around, Head.toChars]
        rw [hbody]
        refine written_or_fault_of_head hwritten around fun d hd => ?_
        have hstop := List.head?_dropWhile_not (!endsProperty ·) (c :: rest)
        rw [hd] at hstop
        simpa using hstop

/-! ## What parses, and what does not -/

/-- **What parses** is what is written as it should be and not blank; its entries are put one after
another. -/
theorem parse_eq_ok_iff {text : String} {ph : Placeholder} :
    parse text = .ok ph ↔ (∃ c ∈ text.toList, isBlank c = false) ∧
      ∃ w : Written, w.WellFormed ∧ w.toChars = text.toList ∧ ph = ⟨putAll [] w.entries⟩ := by
  constructor
  · intro hparse
    rcases written_or_fault text.toList with ⟨hink, w, hw, hchars⟩ | ⟨n, hfault⟩
    · refine ⟨hink, w, hw, hchars, ?_⟩
      rw [parse, ← hchars, parse_written hw (hchars ▸ hink)] at hparse
      exact (Except.ok.inj hparse).symm
    · rw [parse, parse_of_faultAt hfault] at hparse
      cases hparse
  · rintro ⟨hink, w, hw, hchars, rfl⟩
    rw [parse, ← hchars]
    exact parse_written hw (hchars ▸ hink)

/-- **What does not parse** has a fault, at the place that is reported. -/
theorem parse_eq_error_iff {text : String} {n : Nat} :
    parse text = .error n ↔ FaultAt text.toList n := by
  constructor
  · intro hparse
    rcases written_or_fault text.toList with ⟨hink, w, hw, hchars⟩ | ⟨n', hfault⟩
    · rw [parse, ← hchars, parse_written hw (hchars ▸ hink)] at hparse
      cases hparse
    · rw [parse, parse_of_faultAt hfault] at hparse
      cases hparse
      exact hfault
  · exact parse_of_faultAt

/-- **The language of placeholders is its grammar.** A text parses exactly if it is not blank and
written as a head, perhaps a type, attributes, and perhaps a last comma with blanks behind it.
Otherwise it has one fault, and the place of this fault is reported: the end of a blank text or of
one with an attribute without an equals sign, the parenthesis of an expression that is not closed,
the first character that cannot follow an expression, or the place after the colon of a blank type.
The place is not beyond the end of the text and not inside of a character, and the error of a
mapping has the text itself. -/
theorem parse_exact (text : String) :
    ((∃ ph, parse text = .ok ph) ↔
      (∃ c ∈ text.toList, isBlank c = false) ∧
        ∃ w : Written, w.WellFormed ∧ w.toChars = text.toList) ∧
      ∀ n, (parse text = .error n ↔ FaultAt text.toList n) ∧
        (FaultAt text.toList n → (⟨n⟩ : String.Pos.Raw).IsValid text ∧ n ≤ text.utf8ByteSize ∧
          ∀ schema, Mapping.ofContent schema text = .error (.malformedPlaceholder text n)) := by
  refine ⟨⟨?_, ?_⟩, fun n => ⟨parse_eq_error_iff, fun hfault => ⟨hfault.isValid, ?_, ?_⟩⟩⟩
  · rintro ⟨ph, hparse⟩
    obtain ⟨hink, w, hw, hchars, -⟩ := parse_eq_ok_iff.1 hparse
    exact ⟨hink, w, hw, hchars⟩
  · rintro ⟨hink, w, hw, hchars⟩
    exact ⟨_, parse_eq_ok_iff.2 ⟨hink, w, hw, hchars, rfl⟩⟩
  · exact hfault.isValid.le_rawEndPos
  · intro schema
    rw [Mapping.ofContent, parse_eq_error_iff.2 hfault]

-- Places are counted in bytes: the letter has two.
example : parse "(é) x" = .error 5 := by decide +kernel

end SqlTemplate.Placeholder
