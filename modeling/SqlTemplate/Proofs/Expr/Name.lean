import SqlTemplate.Expr.Lexer

/-!
# Identifiers as tokens

An identifier starts like a name and goes on like one. Before a character that cannot continue a
name it is one token, whatever stands around it (`ofCharsFrom_identifier`).
-/

namespace SqlTemplate.Token

open Text

/-- Whether a text is one word for the lexer. -/
def isIdentifier : List Char → Bool
  | [] => false
  | c :: rest => startsName c && rest.all continuesName

/-! ## Characters of names -/

/-- What is checked for some code points holds for their characters. -/
theorem eq_of_toNat_mem {p : Char → Bool} {b : Bool} {codes : List Nat} {c : Char}
    (hall : ∀ n ∈ codes, p (Char.ofNat n) = b) (hc : c.toNat ∈ codes) : p c = b := by
  rw [← Char.ofNat_toNat c]
  exact hall c.toNat hc

theorem continuesName_of_startsName {c : Char} (h : startsName c) : continuesName c := by
  simp only [startsName, continuesName, Bool.or_eq_true] at h ⊢
  rcases h with (h | h) | h
  · exact .inl (.inl (.inl h))
  · exact .inl (.inr h)
  · exact .inr h

theorem continuesName_of_mem {c : Char} {w : List Char} (hw : isIdentifier w) (hc : c ∈ w) :
    continuesName c := by
  cases w with
  | nil => cases hc
  | cons d rest =>
    rw [isIdentifier, Bool.and_eq_true, List.all_eq_true] at hw
    rcases List.mem_cons.1 hc with rfl | hc
    · exact continuesName_of_startsName hw.1
    · exact hw.2 c hc

theorem continuesName_of_isDigit {c : Char} (h : c.isDigit) : continuesName c := by
  have hascii : c.toNat < 0x80 := by
    have := (Char.isDigit_iff_toNat.1 h).2
    simp at this
    omega
  rw [continuesName, isNumeral_of_ascii hascii, h, Bool.or_true]
  rfl

/-- The white space characters. -/
def spaces : List Nat :=
  [9, 10, 11, 12, 13, 0x20, 0x85, 0xa0, 0x1680, 0x2000, 0x2001, 0x2002, 0x2003, 0x2004, 0x2005,
    0x2006, 0x2007, 0x2008, 0x2009, 0x200a, 0x2028, 0x2029, 0x202f, 0x205f, 0x3000]

theorem toNat_mem_spaces {c : Char} (h : isSpace c) : c.toNat ∈ spaces := by
  simp [isSpace, spaces] at h ⊢
  omega

/-- No name has a space in it. -/
theorem continuesName_of_isSpace {c : Char} (h : isSpace c) : continuesName c = false := by
  have hall : ∀ n ∈ spaces, continuesName (Char.ofNat n) = false := by decide +kernel
  exact eq_of_toNat_mem hall (toNat_mem_spaces h)

theorem isSpace_of_continuesName {c : Char} (h : continuesName c) : isSpace c = false := by
  rw [← Bool.not_eq_true]
  intro hspace
  have := continuesName_of_isSpace hspace
  rw [h] at this
  cases this

theorem isSpace_of_startsName {c : Char} (h : startsName c) : isSpace c = false :=
  isSpace_of_continuesName (continuesName_of_startsName h)

theorem isDigit_of_startsName {c : Char} (h : startsName c) : c.isDigit = false := by
  rw [← Bool.not_eq_true]
  intro hdigit
  obtain ⟨hlow, hhigh⟩ := Char.isDigit_iff_toNat.1 hdigit
  have hall : ∀ n ∈ List.range' 48 10, startsName (Char.ofNat n) = false := by decide +kernel
  have hmem : c.toNat ∈ List.range' 48 10 := by
    simp at hlow hhigh ⊢
    omega
  have hfalse : startsName c = false := eq_of_toNat_mem hall hmem
  rw [hfalse] at h
  cases h

/-! ## Taking an identifier -/

theorem ofCharsFrom_nil (total : Nat) : ofCharsFrom total [] = .ok [] := by
  rw [ofCharsFrom.eq_def]

theorem ofCharsFrom_of_space {c : Char} {rest : List Char} (total : Nat) (hspace : isSpace c) :
    ofCharsFrom total (c :: rest) = ofCharsFrom total rest := by
  rw [ofCharsFrom.eq_def]
  exact if_pos hspace

/-- A token at the front of a text. -/
theorem ofCharsFrom_of_take {c : Char} {rest after : List Char} {token : Token} (total : Nat)
    (hspace : isSpace c = false) (htake : take c rest = .ok (token, after)) :
    ofCharsFrom total (c :: rest) = (ofCharsFrom total after).map (token :: ·) := by
  rw [ofCharsFrom.eq_def]
  dsimp only
  rw [hspace]
  split
  · cases ‹false = true›
  · split
    · next h => rw [htake] at h; cases h
    · next h => rw [htake] at h; cases h
    · next h => rw [htake] at h; cases h; rfl

/-- The characters that are tokens of their own or start one that no name or number starts. -/
def marks : List Char :=
  ['.', '-', '[', ']', '(', ')', '=', '!', '<', '>', '&', '|', '\'', '"']

/-- Any other character starts a number, a name or nothing. -/
theorem take_of_not_mark {c : Char} (h : c ∉ marks) (rest : List Char) :
    take c rest =
      if c.isDigit then
        .ok (ofDigits (c :: rest.takeWhile Char.isDigit)
            (takeFraction (rest.dropWhile Char.isDigit)).1,
          (takeFraction (rest.dropWhile Char.isDigit)).2)
      else if startsName c then
        .ok (ofWord (String.ofList (c :: rest.takeWhile continuesName)),
          rest.dropWhile continuesName)
      else .error .stray := by
  unfold take
  split
  iterate 12 exact absurd (by decide) h
  have hquote : (c == '\'' || c == '"') = false := by
    rw [← Bool.not_eq_true, Bool.or_eq_true, beq_iff_eq, beq_iff_eq]
    rintro (rfl | rfl)
    · exact absurd (by decide) h
    · exact absurd (by decide) h
  rw [hquote]
  rfl

theorem not_mark_of_continuesName {c : Char} (h : continuesName c) : c ∉ marks := by
  intro hmem
  have hmarks : marks.all (!continuesName ·) := by decide +kernel
  have hc := List.all_eq_true.1 hmarks c hmem
  rw [h] at hc
  cases hc

theorem take_of_startsName {c : Char} (h : startsName c) (rest : List Char) :
    take c rest = .ok (ofWord (String.ofList (c :: rest.takeWhile continuesName)),
      rest.dropWhile continuesName) := by
  rw [take_of_not_mark (not_mark_of_continuesName (continuesName_of_startsName h)),
    isDigit_of_startsName h, if_neg Bool.false_ne_true, if_pos h]

theorem take_of_isDigit {c : Char} (h : c.isDigit) (rest : List Char) :
    take c rest =
      .ok (ofDigits (c :: rest.takeWhile Char.isDigit)
          (takeFraction (rest.dropWhile Char.isDigit)).1,
        (takeFraction (rest.dropWhile Char.isDigit)).2) := by
  rw [take_of_not_mark (not_mark_of_continuesName (continuesName_of_isDigit h)), if_pos h]

variable {w rest : List Char}

/-- Where nothing continues a name, the name is what stands before. -/
theorem takeWhile_identifier (hw : ∀ c ∈ w, continuesName c)
    (hrest : ∀ c ∈ rest.head?, continuesName c = false) :
    (w ++ rest).takeWhile continuesName = w ∧ (w ++ rest).dropWhile continuesName = rest := by
  rw [List.takeWhile_append_of_pos hw, List.dropWhile_append_of_pos hw]
  cases rest with
  | nil => simp
  | cons c rest => simp [hrest c rfl]

/-- **An identifier is one token.** -/
theorem ofCharsFrom_identifier (total : Nat) (hw : isIdentifier w)
    (hrest : ∀ c ∈ rest.head?, continuesName c = false) :
    ofCharsFrom total (w ++ rest) =
      (ofCharsFrom total rest).map (ofWord (String.ofList w) :: ·) := by
  cases w with
  | nil => cases hw
  | cons c w =>
    have hstart : startsName c := (Bool.and_eq_true _ _ ▸ hw).1
    have hcontinue : ∀ d ∈ w, continuesName d :=
      fun d hd => continuesName_of_mem hw (List.mem_cons_of_mem c hd)
    obtain ⟨hword, hafter⟩ := takeWhile_identifier hcontinue hrest
    have htake := take_of_startsName hstart (w ++ rest)
    rw [hword, hafter] at htake
    exact ofCharsFrom_of_take total (isSpace_of_startsName hstart) htake

/-- Spaces before a token are skipped. -/
theorem ofCharsFrom_spaces (total : Nat) (hw : ∀ c ∈ w, isSpace c) :
    ofCharsFrom total (w ++ rest) = ofCharsFrom total rest := by
  induction w with
  | nil => rfl
  | cons c w ih =>
    rw [List.forall_mem_cons] at hw
    rw [List.cons_append, ofCharsFrom_of_space total hw.1, ih hw.2]

/-- Where an expression stands only shows in its faults. -/
theorem ofCharsFrom_of_ok {total : Nat} {text : List Char} {tokens : List Token}
    (h : ofCharsFrom total text = .ok tokens) (total' : Nat) :
    ofCharsFrom total' text = .ok tokens := by
  fun_induction ofCharsFrom total text generalizing tokens with
  | case1 => rw [ofCharsFrom_nil]; exact h
  | case2 c rest hspace ih =>
    rw [ofCharsFrom_of_space total' hspace]
    exact ih h
  | case3 => cases h
  | case4 => cases h
  | case5 c rest hspace token after htake ih =>
    rw [ofCharsFrom_of_take total' (Bool.not_eq_true _ ▸ hspace) htake]
    cases hafter : ofCharsFrom total after with
    | error e => rw [hafter] at h; cases h
    | ok more =>
      rw [hafter] at h
      rw [ih hafter]
      exact h

end SqlTemplate.Token
