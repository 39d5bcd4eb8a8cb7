import SqlTemplate.Proofs.Placeholder.Entries
import SqlTemplate.Proofs.Placeholder.Head
import SqlTemplate.Proofs.Text.Squeeze

/-!
# Placeholders with their white space squeezed

The parser of placeholders looks for commas, colons, equals signs and parentheses, and takes away
the blanks around what it finds between them. White space is none of these characters, so it finds
the same pieces in a squeezed content, each of them squeezed.

**Theorem (`parse_squeezed`).** If all white space of a content is blank, and the names of its
entries are tidy, the squeezed content has the same entries with squeezed texts.

White space that is not blank, such as U+00A0, is part of a piece where it is written, but after
squeezing it is a blank, which may be trimmed.
-/

namespace SqlTemplate

namespace Text

/-- A text whose white space is blank. -/
def SpacesBlank (text : List Char) : Prop := ∀ c ∈ text, isSpace c → isBlank c

instance (text : List Char) : Decidable (SpacesBlank text) :=
  List.decidableBAll (fun c => isSpace c → isBlank c) text

variable {gap : Bool} {c : Char} {text rest : List Char}

theorem SpacesBlank.of_isInfix (h : SpacesBlank text) (hrest : rest <:+: text) : SpacesBlank rest :=
  fun c hc => h c (hrest.mem hc)

theorem SpacesBlank.ink (h : SpacesBlank (c :: rest)) (hc : isBlank c = false) :
    isSpace c = false := by
  rw [← Bool.not_eq_true]
  intro hspace
  rw [h c List.mem_cons_self hspace] at hc
  cases hc

/-! ## Blanks around a text -/

theorem isBlank_of_mem_squeeze_singleton {d : Char} (hc : isBlank c) (hd : d ∈ squeeze gap [c]) :
    isBlank d := by
  rcases squeeze_singleton gap c with h | h | ⟨h, -⟩
  · rw [h] at hd
    cases hd
  · rw [h, List.mem_singleton] at hd
    rw [hd]
    decide
  · rw [h, List.mem_singleton] at hd
    rwa [hd]

theorem dropWhile_isBlank_squeeze (h : SpacesBlank text) (gap : Bool) :
    (squeeze gap text).dropWhile isBlank = squeeze false (text.dropWhile isBlank) := by
  induction text generalizing gap with
  | nil => rfl
  | cons c rest ih =>
    cases hc : isBlank c with
    | true =>
      rw [squeeze_cons, List.dropWhile_append_of_pos fun d => isBlank_of_mem_squeeze_singleton hc,
        ih (h.of_isInfix (List.suffix_cons c rest).isInfix), List.dropWhile_cons, if_pos hc]
    | false =>
      rw [squeeze_ink (h.ink hc), List.dropWhile_cons, List.dropWhile_cons, hc]
      exact (squeeze_ink (h.ink hc)).symm

theorem dropWhile_isBlank_squeezeBack (h : SpacesBlank text) (gap : Bool) :
    (squeezeBack gap text).dropWhile isBlank = squeezeBack gap (text.dropWhile isBlank) := by
  induction text with
  | nil => rfl
  | cons c rest ih =>
    cases hc : isBlank c with
    | true =>
      have hfirst (d : Char) (hd : d ∈ (squeeze (gapAfter gap rest.reverse) [c]).reverse) :
          isBlank d := isBlank_of_mem_squeeze_singleton hc (List.mem_reverse.1 hd)
      rw [squeezeBack_cons, List.dropWhile_append_of_pos hfirst,
        ih (h.of_isInfix (List.suffix_cons c rest).isInfix), List.dropWhile_cons, if_pos hc]
    | false =>
      rw [squeezeBack_ink (h.ink hc), List.dropWhile_cons, List.dropWhile_cons, hc]
      exact (squeezeBack_ink (h.ink hc)).symm

theorem trimBlanks_squeeze (h : SpacesBlank text) (gap : Bool) :
    trimBlanks (squeeze gap text) = squeeze false (trimBlanks text) := by
  have hdropped := h.of_isInfix (List.dropWhile_suffix isBlank).isInfix
  have hback : (squeeze false (text.dropWhile isBlank)).reverse =
      squeezeBack false (text.dropWhile isBlank).reverse := by
    rw [squeezeBack, List.reverse_reverse]
  rw [trimBlanks, dropWhile_isBlank_squeeze h, hback,
    dropWhile_isBlank_squeezeBack fun c hc => hdropped c (List.mem_reverse.1 hc),
    reverse_squeezeBack]
  rfl

/-! ## Cutting a text -/

theorem isSpace_ne {d : Char} (hd : isSpace d = false) (c : Char) (hc : isSpace c) :
    (c == d) = false := by
  rw [beq_eq_false_iff_ne]
  rintro rfl
  rw [hd] at hc
  cases hc

section pieces

variable {p : Char → Bool} (hp : ∀ c, isSpace c → p c = false)

include hp

theorem takeWhile_squeeze (gap : Bool) (text : List Char) :
    (squeeze gap text).takeWhile (!p ·) = squeeze gap (text.takeWhile (!p ·)) := by
  induction text generalizing gap with
  | nil => rfl
  | cons c rest ih =>
    cases hc : isSpace c with
    | true =>
      have hspace : p ' ' = false := hp ' ' (by decide)
      cases gap <;> simp [squeeze_space hc, hp c hc, hspace, ih]
    | false =>
      rw [squeeze_ink hc, List.takeWhile_cons, List.takeWhile_cons]
      split
      · rw [ih, squeeze_ink hc]
      · rfl

theorem dropWhile_squeeze (gap : Bool) (text : List Char) :
    (squeeze gap text).dropWhile (!p ·) = squeeze false (text.dropWhile (!p ·)) := by
  induction text generalizing gap with
  | nil => rfl
  | cons c rest ih =>
    cases hc : isSpace c with
    | true =>
      have hspace : p ' ' = false := hp ' ' (by decide)
      cases gap <;> simp [squeeze_space hc, hp c hc, hspace, ih]
    | false =>
      rw [squeeze_ink hc, List.dropWhile_cons, List.dropWhile_cons]
      split
      · exact ih false
      · exact (squeeze_ink hc).symm

/-- Where a text is cut, if not at white space, a squeezed text is cut as well. -/
theorem cut_squeeze (gap : Bool) (text : List Char) :
    cut p (squeeze gap text) =
      (squeeze gap (cut p text).1, (cut p text).2.map (squeeze false)) := by
  rw [cut_eq, cut_eq, takeWhile_squeeze hp, dropWhile_squeeze hp]
  cases hdrop : text.dropWhile (!p ·) with
  | nil => rfl
  | cons c rest =>
    have hstop : p c = true := by simpa [hdrop] using List.head?_dropWhile_not (!p ·) text
    have hink : isSpace c = false := by
      rw [← Bool.not_eq_true]
      intro hspace
      rw [hp c hspace] at hstop
      cases hstop
    rw [squeeze_ink hink]
    rfl

end pieces

end Text

namespace Placeholder

open Text

theorem untilClosed_squeeze (depth : Nat) (gap : Bool) (text : List Char) :
    untilClosed depth (squeeze gap text) =
      (untilClosed depth text).map fun found => (squeeze gap found.1, squeeze false found.2) := by
  induction text generalizing depth gap with
  | nil => rfl
  | cons c rest ih =>
    cases hc : isSpace c with
    | true =>
      have hclose : c ≠ ')' := by rintro rfl; exact absurd hc (by decide)
      have hopen : c ≠ '(' := by rintro rfl; exact absurd hc (by decide)
      rw [squeeze_space hc, untilClosed_other hclose hopen, Option.map_map]
      cases gap with
      | true =>
        rw [if_pos rfl, ih]
        simp only [Function.comp_def, squeeze_space hc, if_pos]
      | false =>
        rw [if_neg nofun, untilClosed_other (by decide) (by decide), ih, Option.map_map]
        simp only [Function.comp_def, squeeze_space hc, Bool.false_eq_true, if_false]
    | false =>
      rw [squeeze_ink hc]
      by_cases hclose : c = ')'
      · subst hclose
        cases depth with
        | zero => rfl
        | succ depth =>
          rw [untilClosed, untilClosed, ih, Option.map_map, Option.map_map]
          simp only [Function.comp_def, squeeze_ink hc]
      · by_cases hopen : c = '('
        · subst hopen
          rw [untilClosed, untilClosed, ih, Option.map_map, Option.map_map]
          simp only [Function.comp_def, squeeze_ink hc]
        · rw [untilClosed_other hclose hopen, untilClosed_other hclose hopen, ih, Option.map_map,
            Option.map_map]
          simp only [Function.comp_def, squeeze_ink hc]

/-! ## The squeezed entries -/

/-- A text with its white space squeezed. -/
def squeezedText (text : String) : String := String.ofList (squeeze false text.toList)

variable {gap : Bool} {text rest : List Char}

theorem trimmed_squeeze (h : SpacesBlank text) (gap : Bool) :
    trimmed (squeeze gap text) = squeezedText (trimmed text) := by
  rw [trimmed, trimBlanks_squeeze h, squeezedText, trimmed, String.toList_ofList]

/-- A squeezed text is cut into a name, a value and a rest at the same places. -/
theorem attributes?_squeeze_of_body {c : Char} (h : SpacesBlank text) (gap : Bool)
    (hbody : text.dropWhile isBlank = c :: rest) :
    attributes? (squeeze gap text) =
      match cut (· == '=') (c :: rest) with
      | (_, none) => none
      | (name, some after) =>
        match cut (· == ',') after with
        | (value, none) => some [(trimmed (squeeze false name), trimmed (squeeze false value))]
        | (value, some after') =>
          (attributes? (squeeze false after')).map
            ((trimmed (squeeze false name), trimmed (squeeze false value)) :: ·) := by
  have hblank : isBlank c = false := by simpa [hbody] using List.head?_dropWhile_not isBlank text
  have hbodyBlank : SpacesBlank (c :: rest) :=
    hbody ▸ h.of_isInfix (List.dropWhile_suffix isBlank).isInfix
  have hink : squeeze false (c :: rest) = c :: squeeze false rest :=
    squeeze_ink (hbodyBlank.ink hblank)
  rw [attributes?_eq, dropWhile_isBlank_squeeze h, hbody, hink]
  dsimp only
  rw [← hink, cut_squeeze (isSpace_ne (by decide))]
  cases cut (· == '=') (c :: rest) with
  | mk name after =>
    cases after with
    | none => rfl
    | some after =>
      dsimp only [Option.map_some]
      rw [cut_squeeze (isSpace_ne (by decide))]
      cases cut (· == ',') after with
      | mk value after' => cases after' <;> rfl

/-- **The attributes of a squeezed text** are the squeezed attributes. -/
theorem attributes?_squeeze (h : SpacesBlank text) (gap : Bool) :
    attributes? (squeeze gap text) =
      (attributes? text).map fun more =>
        more.map fun a => (squeezedText a.1, squeezedText a.2) := by
  fun_induction attributes? text generalizing gap with
  | case1 text hnil =>
    rw [attributes?_eq, dropWhile_isBlank_squeeze h, hnil]
    rfl
  | case2 text c rest hbody name hcut =>
    rw [attributes?_squeeze_of_body h gap hbody, hcut]
    rfl
  | case3 text c rest hbody name after hcut entry value hcut' =>
    obtain ⟨hname, hvalue, -⟩ := infix_of_cut hbody hcut hcut'
    rw [attributes?_squeeze_of_body h gap hbody, hcut]
    dsimp only
    rw [hcut']
    dsimp only
    rw [trimmed_squeeze (h.of_isInfix hname), trimmed_squeeze (h.of_isInfix hvalue)]
    rfl
  | case4 text c rest hbody name after hcut entry value after' hcut' ih =>
    obtain ⟨hname, hvalue, hafter⟩ := infix_of_cut hbody hcut hcut'
    rw [attributes?_squeeze_of_body h gap hbody, hcut]
    dsimp only
    rw [hcut']
    dsimp only
    rw [trimmed_squeeze (h.of_isInfix hname), trimmed_squeeze (h.of_isInfix hvalue),
      ih (h.of_isInfix (hafter after' rfl)), Option.map_map, Option.map_map]
    rfl

/-! ## The entries -/

/-- Entries with squeezed texts. -/
def squeezeEntries (entries : List (String × String)) : List (String × String) :=
  entries.map fun entry => (entry.1, squeezedText entry.2)

variable {entries more : List (String × String)} {key value : String} {ph : Placeholder}

theorem put_squeezeEntries (key value : String) (entries : List (String × String)) :
    put key (squeezedText value) (squeezeEntries entries) =
      squeezeEntries (put key value entries) := by
  induction entries with
  | nil => rfl
  | cons first rest ih =>
    change put _ _ ((first.1, squeezedText first.2) :: squeezeEntries rest) = _
    rw [put, put]
    split
    · rfl
    · exact congrArg (_ :: ·) ih

theorem putAll_squeezeEntries (hnames : ∀ a ∈ more, squeezedText a.1 = a.1) :
    putAll (squeezeEntries entries) (more.map fun a => (squeezedText a.1, squeezedText a.2)) =
      squeezeEntries (putAll entries more) := by
  induction more generalizing entries with
  | nil => rfl
  | cons a rest ih =>
    obtain ⟨hfirst, hrest⟩ := List.forall_mem_cons.1 hnames
    change putAll (put (squeezedText a.1) (squeezedText a.2) (squeezeEntries entries)) _ = _
    rw [hfirst, put_squeezeEntries, ih hrest]
    rfl

/-! ## Parsing -/

/-- A placeholder whose keys are tidy. -/
def TidyKeys (ph : Placeholder) : Prop := ∀ k ∈ ph.entries.map Prod.fst, Tidy k.toList

theorem squeezedText_eq_self_iff {t : String} : squeezedText t = t ↔ Tidy t.toList := by
  rw [← squeeze_eq_self_iff, squeezedText, ← String.toList_inj, String.toList_ofList]

theorem parseAttributes_squeeze (h : SpacesBlank rest) (gap : Bool) (text' : List Char)
    (hparse : parseAttributes text entries rest = .ok ph) (hkeys : ph.TidyKeys) :
    parseAttributes text' (squeezeEntries entries) (squeeze gap rest) =
      .ok ⟨squeezeEntries ph.entries⟩ := by
  obtain ⟨more, hmore, rfl⟩ := parseAttributes_eq_ok_iff.1 hparse
  refine parseAttributes_eq_ok_iff.2 ⟨_, (attributes?_squeeze h gap).trans (by rw [hmore]; rfl), ?_⟩
  rw [putAll_squeezeEntries fun a ha => ?_]
  refine squeezedText_eq_self_iff.2 (hkeys a.1 ?_)
  exact (keys_putAll entries more a.1).2 (.inr (List.mem_map_of_mem ha))

theorem parseType_squeeze (h : SpacesBlank rest) (gap : Bool) (text' : List Char)
    (hparse : parseType text entries rest = .ok ph) (hkeys : ph.TidyKeys) :
    parseType text' (squeezeEntries entries) (squeeze gap rest) =
      .ok ⟨squeezeEntries ph.entries⟩ := by
  have hbody := h.of_isInfix (List.dropWhile_suffix isBlank).isInfix
  have htype := hbody.of_isInfix (prefix_of_cut (· == ',') (rest.dropWhile isBlank)).isInfix
  rw [parseType_eq] at hparse ⊢
  rw [dropWhile_isBlank_squeeze h, cut_squeeze (isSpace_ne (by decide))]
  dsimp only at hparse ⊢
  cases htext : (cut (· == ',') (rest.dropWhile isBlank)).1 with
  | nil => rw [htext] at hparse; cases hparse
  | cons c type =>
    rw [htext] at hparse htype
    have hne : (squeeze false (c :: type)).isEmpty = false := by
      rw [squeeze]
      split <;> rfl
    rw [hne, if_neg Bool.false_ne_true, trimmed_squeeze htype, put_squeezeEntries]
    rw [List.isEmpty_cons, if_neg Bool.false_ne_true] at hparse
    cases hafter : (cut (· == ',') (rest.dropWhile isBlank)).2 with
    | none =>
      rw [hafter] at hparse
      exact parseAttributes_squeeze (hbody.of_isInfix List.nil_infix) false text' hparse hkeys
    | some after =>
      rw [hafter] at hparse
      have hsuffix := (suffix_of_cut hafter).isInfix
      exact parseAttributes_squeeze (hbody.of_isInfix hsuffix) false text' hparse hkeys

theorem parseTail_squeeze (h : SpacesBlank rest) (gap : Bool) (text' : List Char)
    (hparse : parseTail text entries rest = .ok ph) (hkeys : ph.TidyKeys) :
    parseTail text' (squeezeEntries entries) (squeeze gap rest) =
      .ok ⟨squeezeEntries ph.entries⟩ := by
  have hbody := h.of_isInfix (List.dropWhile_suffix isBlank).isInfix
  rw [parseTail] at hparse ⊢
  rw [dropWhile_isBlank_squeeze h]
  split at hparse
  · next hrest =>
    cases hparse
    rw [hrest]
    rfl
  · next after hrest =>
    rw [hrest] at hbody ⊢
    rw [squeeze_ink (by decide)]
    have hafter := hbody.of_isInfix (List.suffix_cons ':' after).isInfix
    exact parseType_squeeze hafter false text' hparse hkeys
  · next after hrest =>
    rw [hrest] at hbody ⊢
    rw [squeeze_ink (by decide)]
    have hafter := hbody.of_isInfix (List.suffix_cons ',' after).isInfix
    exact parseAttributes_squeeze hafter false text' hparse hkeys
  · cases hparse

theorem parseChars_squeeze (h : SpacesBlank text) (gap : Bool)
    (hparse : parseChars text = .ok ph) (hkeys : ph.TidyKeys) :
    parseChars (squeeze gap text) = .ok ⟨squeezeEntries ph.entries⟩ := by
  have hbodyBlank := h.of_isInfix (List.dropWhile_suffix isBlank).isInfix
  have hbodySqueeze := dropWhile_isBlank_squeeze h gap
  rcases head_of_parseChars hparse with ⟨rest, expression, after, hbody, hclosed⟩ |
    ⟨c, rest, hbody, hc⟩
  · rw [parseChars_of_expression hbody hclosed] at hparse
    rw [hbody, squeeze_ink (by decide)] at hbodySqueeze
    have hclosedSqueeze := untilClosed_squeeze 0 false rest
    rw [hclosed] at hclosedSqueeze
    rw [parseChars_of_expression hbodySqueeze hclosedSqueeze]
    have hafter : after <:+ text.dropWhile isBlank := by
      rw [hbody, eq_append_of_untilClosed hclosed, ← List.cons_append]
      exact (List.suffix_cons ')' after).trans (List.suffix_append _ _)
    have htail := parseTail_squeeze (hbodyBlank.of_isInfix hafter.isInfix) false (squeeze gap text)
      hparse hkeys
    rwa [squeezeEntries, List.map_singleton, squeezedText, String.toList_ofList] at htail
  · rw [parseChars_of_property hbody hc] at hparse
    have hink : isSpace c = false := by
      rw [hbody] at hbodyBlank
      exact hbodyBlank.ink (by simpa [hbody] using List.head?_dropWhile_not isBlank text)
    rw [parseChars_of_property (by rw [hbodySqueeze, hbody, squeeze_ink hink]) hc, hbodySqueeze]
    rw [takeWhile_squeeze fun c hc => endsProperty_of_isSpace hc,
      dropWhile_squeeze fun c hc => endsProperty_of_isSpace hc]
    have hproperty := List.takeWhile_prefix (!endsProperty ·) (l := text.dropWhile isBlank)
    have htail := List.dropWhile_suffix (!endsProperty ·) (l := text.dropWhile isBlank)
    rw [trimmed_squeeze (hbodyBlank.of_isInfix hproperty.isInfix)]
    exact parseTail_squeeze (hbodyBlank.of_isInfix htail.isInfix) false _ hparse hkeys

/-- **A squeezed content has the squeezed entries.** -/
theorem parse_squeezed {content : String} (h : SpacesBlank content.toList)
    (hparse : parse content = .ok ph) (hkeys : ph.TidyKeys) :
    parse (squeezedText content) = .ok ⟨squeezeEntries ph.entries⟩ := by
  rw [parse, squeezedText, String.toList_ofList]
  exact parseChars_squeeze h false hparse hkeys

end Placeholder

end SqlTemplate
