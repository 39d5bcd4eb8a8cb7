import Mathlib.Data.List.Infix
import SqlTemplate.Text.Blank

/-!
# Squeezing white space

`squeeze` goes through a text from left to right and leaves one U+0020 of each run of white space.
All that it remembers is whether it is inside of such a run, so it can be taken piece by piece
(`squeeze_append`).

**Theorem (`collapse_eq_stripEnd`).** Collapsing a text is squeezing it as if it followed white
space, and taking away the space at its end, if there is one.

**Theorem (`squeeze_eq_self_iff`).** Squeezing leaves a text as it is exactly if its only white
space is U+0020, and never twice in a row. Such a text is `Tidy`.

**Theorem (`collapse_collapse`).** A collapsed text is collapsed already.

Texts are often kept in reverse while they are read; `squeezeBack` is for them.
-/

namespace SqlTemplate.Text

/-- The runs of white space of a text as single spaces, none at the start if there is a gap. -/
def squeeze (gap : Bool) : List Char → List Char
  | [] => []
  | c :: rest =>
    if isSpace c then if gap then squeeze true rest else ' ' :: squeeze true rest
    else c :: squeeze false rest

/-- Whether there is a gap after a text, where there is one before it or not. -/
def gapAfter (gap : Bool) : List Char → Bool
  | [] => gap
  | c :: rest => gapAfter (isSpace c) rest

variable {gap : Bool} {c : Char} {text rest : List Char}

/-! ## Piece by piece -/

theorem squeeze_space (h : isSpace c) :
    squeeze gap (c :: rest) = if gap then squeeze true rest else ' ' :: squeeze true rest := by
  rw [squeeze, if_pos h]

theorem squeeze_ink (h : isSpace c = false) :
    squeeze gap (c :: rest) = c :: squeeze false rest := by
  rw [squeeze, if_neg (by simp [h])]

theorem gapAfter_append (gap : Bool) (before after : List Char) :
    gapAfter gap (before ++ after) = gapAfter (gapAfter gap before) after := by
  induction before generalizing gap with
  | nil => rfl
  | cons c rest ih => exact ih _

theorem squeeze_append (gap : Bool) (before after : List Char) :
    squeeze gap (before ++ after) = squeeze gap before ++ squeeze (gapAfter gap before) after := by
  induction before generalizing gap with
  | nil => rfl
  | cons c rest ih =>
    rw [List.cons_append]
    cases hc : isSpace c with
    | true =>
      rw [squeeze_space hc, squeeze_space hc, ih, gapAfter, hc]
      split <;> rfl
    | false => rw [squeeze_ink hc, squeeze_ink hc, ih, gapAfter, hc, List.cons_append]

/-- One character of a squeezed text. -/
theorem squeeze_cons (gap : Bool) (c : Char) (rest : List Char) :
    squeeze gap (c :: rest) = squeeze gap [c] ++ squeeze (isSpace c) rest :=
  squeeze_append gap [c] rest

theorem squeeze_singleton (gap : Bool) (c : Char) :
    squeeze gap [c] = [] ∨ squeeze gap [c] = [' '] ∨ squeeze gap [c] = [c] ∧ isSpace c = false := by
  cases hc : isSpace c with
  | false => exact .inr (.inr ⟨squeeze_ink hc, rfl⟩)
  | true =>
    cases gap with
    | false => exact .inr (.inl (squeeze_space hc))
    | true => exact .inl (squeeze_space hc)

theorem squeeze_of_ink (h : ∀ c ∈ text, isSpace c = false) : squeeze gap text = text := by
  induction text generalizing gap with
  | nil => rfl
  | cons c rest ih =>
    rw [squeeze_ink (h c List.mem_cons_self), ih fun d hd => h d (List.mem_cons_of_mem c hd)]

theorem gapAfter_of_ink (hne : text ≠ []) (h : ∀ c ∈ text, isSpace c = false) :
    gapAfter gap text = false := by
  induction text generalizing gap with
  | nil => exact absurd rfl hne
  | cons c rest ih =>
    rw [gapAfter, h c List.mem_cons_self]
    cases rest with
    | nil => rfl
    | cons d rest => exact ih nofun fun e he => h e (List.mem_cons_of_mem c he)

theorem gapAfter_concat (gap : Bool) (text : List Char) (c : Char) :
    gapAfter gap (text ++ [c]) = isSpace c := gapAfter_append gap text [c]

/-- The first character of a squeezed text, if it is no space, is the first one of the text. -/
theorem head?_of_squeeze (hc : isSpace c = false) (h : (squeeze false text).head? = some c) :
    text.head? = some c := by
  cases text with
  | nil => cases h
  | cons d rest =>
    cases hd : isSpace d with
    | false => rwa [squeeze_ink hd] at h
    | true =>
      rw [squeeze_space hd] at h
      cases h
      exact absurd hc (by decide)

/-! ## In reverse -/

/-- `squeeze`, for a text in reverse. -/
def squeezeBack (gap : Bool) (text : List Char) : List Char := (squeeze gap text.reverse).reverse

@[simp] theorem reverse_squeezeBack (gap : Bool) (text : List Char) :
    (squeezeBack gap text).reverse = squeeze gap text.reverse := List.reverse_reverse _

theorem squeezeBack_append (gap : Bool) (after before : List Char) :
    squeezeBack gap (after ++ before) =
      squeezeBack (gapAfter gap before.reverse) after ++ squeezeBack gap before := by
  rw [squeezeBack, List.reverse_append, squeeze_append, List.reverse_append]
  rfl

theorem squeezeBack_cons (gap : Bool) (c : Char) (text : List Char) :
    squeezeBack gap (c :: text) =
      (squeeze (gapAfter gap text.reverse) [c]).reverse ++ squeezeBack gap text :=
  squeezeBack_append gap [c] text

theorem squeezeBack_ink (h : isSpace c = false) :
    squeezeBack gap (c :: text) = c :: squeezeBack gap text := by
  rw [squeezeBack_cons, squeeze_ink h]
  rfl

/-- The last character of a squeezed text, if it is no space, is the last one of the text. -/
theorem head?_of_squeezeBack (hc : isSpace c = false) (h : (squeezeBack gap text).head? = some c) :
    text.head? = some c := by
  induction text with
  | nil => cases h
  | cons d rest ih =>
    cases hd : isSpace d with
    | false => rwa [squeezeBack_ink hd] at h
    | true =>
      rw [squeezeBack_cons, squeeze_space hd] at h
      cases hgap : gapAfter gap rest.reverse with
      | false =>
        rw [hgap] at h
        cases h
        exact absurd hc (by decide)
      | true =>
        rw [hgap] at h
        -- A gap before means that what is squeezed ends in a space already.
        cases rest with
        | nil => cases h
        | cons e rest =>
          have he := Option.some.inj (ih h)
          rw [List.reverse_cons, gapAfter_concat, he, hc] at hgap
          cases hgap

/-! ## Collapsing -/

/-- A text without the space at its end, if there is one. -/
def stripEnd (text : List Char) : List Char :=
  if text.getLast? = some ' ' then text.dropLast else text

theorem stripEnd_concat (text : List Char) : stripEnd (text ++ [' ']) = text := by
  rw [stripEnd, if_pos (List.getLast?_concat ..), List.dropLast_concat]

theorem stripEnd_of_getLast? (h : text.getLast? ≠ some ' ') : stripEnd text = text := if_neg h

theorem stripEnd_append (before : List Char) (hne : text ≠ []) :
    stripEnd (before ++ text) = before ++ stripEnd text := by
  rw [stripEnd, stripEnd, List.getLast?_append_of_ne_nil _ hne]
  split
  · exact List.dropLast_append_of_ne_nil hne
  · rfl

theorem wordsFrom_ne_nil {word : List Char} (h : word ≠ []) (text : List Char) :
    wordsFrom word text ≠ [] := by
  have hempty : word.isEmpty = false := by simpa using h
  induction text generalizing word with
  | nil => simp [wordsFrom, hempty]
  | cons c rest ih =>
    rw [wordsFrom]
    split
    · simp [hempty]
    · exact ih nofun rfl

/-- Only white space has no words. -/
theorem words_eq_nil_iff : words text = [] ↔ squeeze true text = [] := by
  induction text with
  | nil => exact ⟨fun _ => rfl, fun _ => rfl⟩
  | cons c rest ih =>
    rw [words, wordsFrom]
    cases hc : isSpace c with
    | true => rw [squeeze_space hc]; exact ih
    | false => simpa [squeeze_ink hc] using wordsFrom_ne_nil (List.cons_ne_nil c []) rest

/-- The words so far, with the one that is being read. -/
theorem intercalate_wordsFrom (word text : List Char) (hword : ∀ c ∈ word, isSpace c = false) :
    [' '].intercalate (wordsFrom word text) =
      stripEnd (word.reverse ++ squeeze word.isEmpty text) := by
  induction text generalizing word with
  | nil =>
    cases word with
    | nil => rfl
    | cons d word =>
      have hlast : (d :: word).reverse.getLast? ≠ some ' ' := by
        rw [List.getLast?_reverse]
        rintro ⟨⟩
        exact absurd (hword ' ' List.mem_cons_self) (by decide)
      rw [squeeze, List.append_nil, stripEnd_of_getLast? hlast]
      simp [wordsFrom, List.intercalate]
  | cons c rest ih =>
    rw [wordsFrom]
    cases hc : isSpace c with
    | false =>
      rw [if_neg (by simp), ih (c :: word) (List.forall_mem_cons.2 ⟨hc, hword⟩), squeeze_ink hc]
      simp
    | true =>
      rw [if_pos rfl, squeeze_space hc]
      cases word with
      | nil => exact ih [] nofun
      | cons d word =>
        have hrest := ih [] nofun
        rw [List.reverse_nil, List.nil_append] at hrest
        change [' '].intercalate ((d :: word).reverse :: wordsFrom [] rest) =
          stripEnd ((d :: word).reverse ++ ' ' :: squeeze true rest)
        cases hwords : wordsFrom [] rest with
        | nil =>
          rw [words_eq_nil_iff.1 hwords, stripEnd_concat]
          simp [List.intercalate]
        | cons first more =>
          have hne : squeeze true rest ≠ [] := fun h => by
            rw [← words_eq_nil_iff, words, hwords] at h
            cases h
          have hstrip : stripEnd ((d :: word).reverse ++ ' ' :: squeeze true rest) =
              (d :: word).reverse ++ [' '] ++ stripEnd (squeeze true rest) := by
            rw [← stripEnd_append _ hne, List.append_assoc]
            rfl
          change _ = stripEnd (squeeze true rest) at hrest
          rw [hstrip, ← hrest, hwords]
          simp [List.intercalate]

/-- **Collapsing is squeezing.** -/
theorem collapse_eq_stripEnd (text : List Char) : collapse text = stripEnd (squeeze true text) :=
  intercalate_wordsFrom [] text nofun

/-- Squeezing leaves at most a space at the end that collapsing takes away. -/
theorem squeeze_eq_collapse (text : List Char) :
    (squeeze true text = collapse text ∧ (collapse text).getLast? ≠ some ' ') ∨
      squeeze true text = collapse text ++ [' '] := by
  rw [collapse_eq_stripEnd]
  by_cases hlast : (squeeze true text).getLast? = some ' '
  · obtain ⟨before, hbefore⟩ := List.getLast?_eq_some_iff.1 hlast
    exact .inr (by rw [hbefore, stripEnd_concat])
  · rw [stripEnd_of_getLast? hlast]
    exact .inl ⟨rfl, hlast⟩

/-! ## Tidy texts -/

/-- A text with no white space but U+0020, and never two of these in a row. -/
structure Tidy (text : List Char) : Prop where
  only : ∀ c ∈ text, isSpace c → c = ' '
  single : ¬ [' ', ' '] <:+: text

theorem Tidy.of_isInfix (h : Tidy text) (hpart : rest <:+: text) : Tidy rest :=
  ⟨fun c hc => h.only c (hpart.subset hc), fun htwo => h.single (htwo.trans hpart)⟩

theorem eq_space_of_mem_squeeze (hc : c ∈ squeeze gap text) (hspace : isSpace c) : c = ' ' := by
  induction text generalizing gap with
  | nil => cases hc
  | cons d rest ih =>
    cases hd : isSpace d with
    | false =>
      rw [squeeze_ink hd] at hc
      rcases List.mem_cons.1 hc with rfl | hc
      · rw [hd] at hspace
        cases hspace
      · exact ih hc
    | true =>
      rw [squeeze_space hd] at hc
      split at hc
      · exact ih hc
      · exact (List.mem_cons.1 hc).elim id ih

/-- After a gap, squeezed text does not start with white space. -/
theorem isSpace_of_head?_squeeze (h : (squeeze true text).head? = some c) : isSpace c = false := by
  induction text with
  | nil => cases h
  | cons d rest ih =>
    cases hd : isSpace d with
    | false => rw [squeeze_ink hd] at h; cases h; exact hd
    | true => rw [squeeze_space hd] at h; exact ih h

theorem tidy_squeeze (gap : Bool) (text : List Char) : Tidy (squeeze gap text) := by
  refine ⟨fun c => eq_space_of_mem_squeeze, ?_⟩
  induction text generalizing gap with
  | nil => exact (by decide : ¬ [' ', ' '] <:+: [])
  | cons c rest ih =>
    cases hc : isSpace c with
    | false =>
      rw [squeeze_ink hc, List.infix_cons_iff]
      rintro (hstart | hrest)
      · rw [← (List.cons_prefix_cons.1 hstart).1] at hc
        exact absurd hc (by decide)
      · exact ih false hrest
    | true =>
      rw [squeeze_space hc]
      split
      · exact ih true
      · rw [List.infix_cons_iff]
        rintro (hstart | hrest)
        · obtain ⟨more, hmore⟩ := (List.cons_prefix_cons.1 hstart).2
          have hspace := isSpace_of_head?_squeeze (congrArg List.head? hmore.symm)
          exact absurd hspace (by decide)
        · exact ih true hrest

theorem Tidy.squeeze_eq (h : Tidy text)
    (hgap : gap = true → ∀ c ∈ text.head?, isSpace c = false) : squeeze gap text = text := by
  induction text generalizing gap with
  | nil => rfl
  | cons c rest ih =>
    have hrest := h.of_isInfix (List.suffix_cons c rest).isInfix
    cases hc : isSpace c with
    | false => rw [squeeze_ink hc, ih hrest fun h => by cases h]
    | true =>
      have hspace := h.only c List.mem_cons_self hc
      cases gap with
      | true => exact absurd hc (by rw [hgap rfl c rfl]; decide)
      | false =>
        rw [squeeze_space hc, if_neg nofun, hspace, ih hrest]
        intro _ d hd
        rw [← Bool.not_eq_true]
        intro hd'
        cases rest with
        | nil => cases hd
        | cons e rest =>
          have hnext := h.only d (List.mem_cons_of_mem c (List.mem_of_mem_head? hd)) hd'
          cases hd
          exact h.single ⟨[], rest, by rw [hspace, hnext]; rfl⟩

/-- **Squeezing changes a text unless it is tidy.** -/
theorem squeeze_eq_self_iff : squeeze false text = text ↔ Tidy text :=
  ⟨fun h => h ▸ tidy_squeeze false text, fun h => h.squeeze_eq nofun⟩

instance (text : List Char) : Decidable (Tidy text) :=
  decidable_of_iff (squeeze false text = text) squeeze_eq_self_iff

/-! ## Collapsing twice -/

theorem squeeze_squeeze (gap : Bool) (text : List Char) :
    squeeze gap (squeeze gap text) = squeeze gap text := by
  refine (tidy_squeeze gap text).squeeze_eq fun hgap c hc => ?_
  subst hgap
  exact isSpace_of_head?_squeeze hc

/-- White space at the end ends no more than the last word. -/
theorem wordsFrom_concat (hc : isSpace c) (word text : List Char) :
    wordsFrom word (text ++ [c]) = wordsFrom word text := by
  induction text generalizing word with
  | nil => simp [wordsFrom, hc]
  | cons d rest ih => rw [List.cons_append, wordsFrom, wordsFrom, ih, ih]

/-- **A collapsed text is collapsed already.** -/
theorem collapse_collapse (text : List Char) : collapse (collapse text) = collapse text := by
  have hsqueezed : collapse (squeeze true text) = collapse text := by
    rw [collapse_eq_stripEnd, squeeze_squeeze, ← collapse_eq_stripEnd]
  rcases squeeze_eq_collapse text with ⟨h, -⟩ | h
  · rwa [h] at hsqueezed
  · rw [h] at hsqueezed
    refine Eq.trans ?_ hsqueezed
    exact congrArg [' '].intercalate (wordsFrom_concat (by decide) [] (collapse text)).symm

end SqlTemplate.Text
