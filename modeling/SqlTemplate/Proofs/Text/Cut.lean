import Mathlib.Data.List.DropRight
import SqlTemplate.Text.Blank
import SqlTemplate.Text.Cut

/-!
# Cutting and trimming texts

`cut` gives what stands before the first character that passes a test, and what follows it
(`cut_eq`, `cut_append`); both are pieces of the text. A text may be taken apart at any of its
separators: its pieces are those before and those after it (`pieces_append_separator`). Trimming
takes the blanks away from the ends of a text, whatever blanks are put around it
(`trimBlanks_padded`).
-/

namespace SqlTemplate.Text

variable {stop : Char → Bool} {c : Char} {text before after rest : List Char}

/-! ## Cutting -/

theorem cut_eq (p : Char → Bool) (text : List Char) :
    cut p text = (text.takeWhile (!p ·), (text.dropWhile (!p ·)).tail?) := by
  induction text with
  | nil => rfl
  | cons c rest ih =>
    rw [cut, ih, List.takeWhile_cons, List.dropWhile_cons]
    cases p c <;> rfl

theorem cut_of_none (htext : ∀ c ∈ text, stop c = false) : cut stop text = (text, none) := by
  induction text with
  | nil => rfl
  | cons c rest ih =>
    obtain ⟨hc, hrest⟩ := List.forall_mem_cons.1 htext
    rw [cut, hc, ih hrest]
    rfl

theorem cut_append (hbefore : ∀ c ∈ before, stop c = false) (hc : stop c) :
    cut stop (before ++ c :: rest) = (before, some rest) := by
  induction before with
  | nil => rw [List.nil_append, cut, hc]; rfl
  | cons d before ih =>
    obtain ⟨hd, hbefore⟩ := List.forall_mem_cons.1 hbefore
    rw [List.cons_append, cut, hd, ih hbefore]
    rfl

theorem prefix_of_cut (p : Char → Bool) (text : List Char) : (cut p text).1 <+: text := by
  rw [cut_eq]
  exact List.takeWhile_prefix _

theorem suffix_of_cut {p : Char → Bool} {text after : List Char}
    (h : (cut p text).2 = some after) : after <:+ text := by
  rw [cut_eq] at h
  have hdropped := List.dropWhile_suffix (!p ·) (l := text)
  cases hdrop : text.dropWhile (!p ·) with
  | nil => rw [hdrop] at h; cases h
  | cons c rest =>
    rw [hdrop] at h hdropped
    cases h
    exact (List.suffix_cons c after).trans hdropped

/-! ## Pieces between separators -/

section pieces

variable {separator : Char} {w : List Char}

theorem pieces_ne_nil (separator : Char) (text : List Char) : pieces separator text ≠ [] := by
  fun_cases pieces separator text <;> simp_all

/-- **The pieces before a separator and the pieces after it.** -/
theorem pieces_append_separator (separator : Char) (before after : List Char) :
    pieces separator (before ++ separator :: after) =
      pieces separator before ++ pieces separator after := by
  induction before with
  | nil => simp [pieces]
  | cons c before ih =>
    rw [List.cons_append, pieces, pieces, ih]
    split
    · rfl
    · cases hpieces : pieces separator before with
      | nil => exact absurd hpieces (pieces_ne_nil separator before)
      | cons piece more => rfl

theorem pieces_of_not_mem (hw : separator ∉ w) : pieces separator w = [w] := by
  induction w with
  | nil => rfl
  | cons c w ih =>
    rw [List.mem_cons, not_or] at hw
    rw [pieces, if_neg (Ne.symm hw.1), ih hw.2]

theorem pieces_append (hw : separator ∉ w) :
    pieces separator (w ++ separator :: rest) = w :: pieces separator rest := by
  rw [pieces_append_separator, pieces_of_not_mem hw, List.singleton_append]

/-- There is one piece more than separators. -/
theorem length_pieces (separator : Char) (text : List Char) :
    (pieces separator text).length = text.count separator + 1 := by
  induction text with
  | nil => rfl
  | cons c text ih =>
    rw [pieces]
    split
    · next hc => rw [hc, List.count_cons_self, List.length_cons, ih]
    · next hc =>
      rw [List.count_cons_of_ne hc, ← ih]
      cases hpieces : pieces separator text with
      | nil => exact absurd hpieces (pieces_ne_nil separator text)
      | cons piece more => rfl

/-- The pieces hold all characters but the separators. -/
theorem flatten_pieces (separator : Char) (text : List Char) :
    (pieces separator text).flatten = text.filter (· != separator) := by
  induction text with
  | nil => rfl
  | cons c text ih =>
    rw [pieces, List.filter_cons, ← ih]
    split
    · next hc => simp [hc]
    · next hc =>
      cases pieces separator text <;> simp [hc]

theorem mem_pieces_iff :
    (∃ piece ∈ pieces separator text, c ∈ piece) ↔ c ∈ text ∧ c ≠ separator := by
  rw [← List.mem_flatten, flatten_pieces, List.mem_filter, bne_iff_ne]

/-- **Pieces that are put together come apart again.** -/
theorem pieces_intercalate {words : List (List Char)} (hne : words ≠ [])
    (hwords : ∀ w ∈ words, separator ∉ w) :
    pieces separator ([separator].intercalate words) = words := by
  induction words with
  | nil => exact absurd rfl hne
  | cons first rest ih =>
    obtain ⟨hfirst, hrest⟩ := List.forall_mem_cons.1 hwords
    cases rest with
    | nil => rw [List.intercalate_singleton, pieces_of_not_mem hfirst]
    | cons second more =>
      rw [List.intercalate_cons_cons, List.append_assoc, List.singleton_append,
        pieces_append hfirst, ih (List.cons_ne_nil second more) hrest]

/-- A text whose characters are replaced is cut at the same places, where separators stay what they
are and nothing becomes one. -/
theorem pieces_map {f : Char → Char} (hf : ∀ c, f c = separator ↔ c = separator)
    (text : List Char) :
    pieces separator (text.map f) = (pieces separator text).map (List.map f) := by
  induction text with
  | nil => rfl
  | cons c text ih =>
    rw [List.map_cons, pieces, pieces, ih]
    simp only [hf]
    split
    · rfl
    · cases pieces separator text <;> rfl

end pieces

/-! ## Trimming -/

theorem trimBlanks_isInfix (text : List Char) : trimBlanks text <:+: text := by
  have hback := (List.dropWhile_suffix (l := (text.dropWhile isBlank).reverse) isBlank)
  have hprefix := List.reverse_prefix.2 hback
  rw [List.reverse_reverse] at hprefix
  exact hprefix.isInfix.trans (List.dropWhile_suffix isBlank).isInfix

/-- What is dropped ends where the text before a character ends that is not dropped. -/
theorem dropWhile_append_of_head {p : Char → Bool} {xs ys : List Char}
    (h : ∀ c ∈ ys.head?, p c = false) : (xs ++ ys).dropWhile p = xs.dropWhile p ++ ys := by
  induction xs with
  | nil =>
    cases ys with
    | nil => rfl
    | cons c ys => simp [h c rfl]
  | cons c xs ih =>
    rw [List.cons_append, List.dropWhile_cons, List.dropWhile_cons]
    split
    · exact ih
    · rfl

/-- What is taken ends there too. -/
theorem takeWhile_append_of_head {p : Char → Bool} {xs ys : List Char}
    (h : ∀ c ∈ ys.head?, p c = false) : (xs ++ ys).takeWhile p = xs.takeWhile p := by
  induction xs with
  | nil =>
    cases ys with
    | nil => rfl
    | cons c ys => simp [h c rfl]
  | cons c xs ih => rw [List.cons_append, List.takeWhile_cons, List.takeWhile_cons, ih]

/-- Blanks at the end go, where there is anything before them or not. -/
theorem trimBlanks_append (hafter : ∀ c ∈ after, isBlank c) :
    trimBlanks (text ++ after) = trimBlanks text := by
  have hreverse : ∀ c ∈ after.reverse, isBlank c := fun c hc => hafter c (List.mem_reverse.1 hc)
  rw [trimBlanks, trimBlanks, List.dropWhile_append]
  split
  · next hempty =>
    rw [List.isEmpty_iff] at hempty
    rw [hempty, List.dropWhile_eq_nil_iff.2 hafter]
  · rw [List.reverse_append, List.dropWhile_append_of_pos hreverse]

/-- **Trimming takes padding away.** -/
theorem trimBlanks_padded (hbefore : ∀ c ∈ before, isBlank c) (hafter : ∀ c ∈ after, isBlank c) :
    trimBlanks (before ++ (text ++ after)) = trimBlanks text := by
  rw [trimBlanks, List.dropWhile_append_of_pos hbefore]
  exact trimBlanks_append hafter

/-- Dropping the blanks at the start first changes nothing. -/
theorem trimBlanks_dropWhile (text : List Char) :
    trimBlanks (text.dropWhile isBlank) = trimBlanks text := by
  rw [trimBlanks, List.dropWhile_idempotent]
  rfl

/-- A text that trimming keeps does not start with a blank. -/
theorem isBlank_head_of_trimBlanks (h : trimBlanks text = text) :
    ∀ c ∈ text.head?, isBlank c = false := by
  have hdrop : text.dropWhile isBlank = text := by
    refine (List.dropWhile_suffix isBlank).eq_of_length_le ?_
    have hlength := (trimBlanks_isInfix (text.dropWhile isBlank)).length_le
    rwa [trimBlanks_dropWhile, h] at hlength
  intro c hc
  have hhead := List.head?_dropWhile_not isBlank text
  rw [hdrop, hc] at hhead
  simpa using hhead

/-! ## Letters and digits -/

theorem toNat_of_isAlphanum (h : c.isAlphanum) : 0x30 ≤ c.toNat ∧ c.toNat ≤ 0x7a := by
  delta Char.isAlphanum Char.isAlpha Char.isUpper Char.isLower Char.isDigit at h
  simp [UInt32.le_iff_toNat_le] at h
  omega

theorem isBlank_of_isAlphanum (h : c.isAlphanum) : isBlank c = false := by
  have := (toNat_of_isAlphanum h).1
  rw [isBlank, decide_eq_false_iff_not]
  omega

theorem isSpace_of_isAlphanum (h : c.isAlphanum) : isSpace c = false := by
  obtain ⟨hlow, hhigh⟩ := toNat_of_isAlphanum h
  rw [← Bool.not_eq_true]
  intro hspace
  simp [isSpace] at hspace
  omega

/-- A text of letters and digits has nothing to trim. -/
theorem trimBlanks_of_isAlphanum (h : ∀ c ∈ text, c.isAlphanum) : trimBlanks text = text := by
  have hkeep {rest : List Char} (hrest : ∀ c ∈ rest, c.isAlphanum) :
      rest.dropWhile isBlank = rest := by
    cases rest with
    | nil => rfl
    | cons c rest =>
      rw [List.dropWhile_cons, isBlank_of_isAlphanum (hrest c List.mem_cons_self)]
      rfl
  rw [trimBlanks, hkeep h, hkeep fun c hc => h c (List.mem_reverse.1 hc), List.reverse_reverse]

end SqlTemplate.Text
