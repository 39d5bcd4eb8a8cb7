import SqlTemplate.Proofs.Span.Rescan
import SqlTemplate.Proofs.Text.Squeeze

/-!
# Cutting a text with its white space squeezed

No marker and no escape has white space in it, and none comes to be where white space is squeezed:
of two characters that are no white space, those that follow each other are the same as before. So a
squeezed text is cut at the same places, and its pieces are the squeezed pieces.

**Theorem (`ofChars_collapse`).** The contents of a collapsed text are the squeezed contents of the
text (`contents_collapse`), and with a mark in the place of each span it is the collapsed text with
these marks (`join_collapse`).

A literal begins after a gap if the text does; every other piece begins after a brace. The space at
the end, which collapsing takes away, belongs to the last literal (`ofCharsFrom_concat`).
-/

namespace SqlTemplate.Split

open Text

/-! ## Induction on the cut of a text -/

/-- What a cut comes across, one after another: characters of a literal, escaped markers, spans, and
at last maybe a marker that is never closed. -/
theorem cut_induction (sigil : Char) {motive : List Char → List Char → List Char → Prop}
    (nil : ∀ seen run, motive seen run [])
    (literal : ∀ seen run c rest, ¬ [sigil, '\x7b'] <+: c :: rest → motive seen (c :: run) rest →
      motive seen run (c :: rest))
    (escaped : ∀ seen run rest, motive ('\x7b' :: sigil :: run ++ seen) [] rest →
      motive seen ('\\' :: run) (sigil :: '\x7b' :: rest))
    (dangling : ∀ seen run rest, run.head? ≠ some '\\' →
      content? (.braced sigil : Markers).closing [] [] rest = none →
      motive seen run (sigil :: '\x7b' :: rest))
    (span : ∀ seen run rest content after, run.head? ≠ some '\\' →
      content? (.braced sigil : Markers).closing [] [] rest = some (content, after) →
      motive [] [] after → motive seen run (sigil :: '\x7b' :: rest))
    (seen run text : List Char) : motive seen run text := by
  induction hn : text.length using Nat.strong_induction_on generalizing seen run text with
  | h n ih =>
    subst hn
    cases text with
    | nil => exact nil seen run
    | cons c rest =>
      by_cases hopening : [sigil, '\x7b'] <+: c :: rest
      · obtain ⟨rest, hrest⟩ := hopening
        rw [← hrest] at ih ⊢
        have hopened : rest.length < ([sigil, '\x7b'] ++ rest).length := by
          simp only [List.length_append, List.length_cons]
          omega
        by_cases hrun : run.head? = some '\\'
        · obtain ⟨run, rfl⟩ := List.head?_eq_some_iff.1 hrun
          exact escaped seen run rest (ih rest.length hopened _ _ rest rfl)
        · cases hcontent : content? (.braced sigil : Markers).closing [] [] rest with
          | none => exact dangling seen run rest hrun hcontent
          | some found =>
            have hlength := (length_of_content? hcontent).trans hopened
            exact span seen run rest found.1 found.2 hrun hcontent
              (ih found.2.length hlength _ _ _ rfl)
      · exact literal seen run c rest hopening (ih rest.length (by simp) _ _ rest rfl)

variable {sigil : Char} {seen run text rest : List Char}

/-! ## Squeezed pieces -/

/-- The spans with their pieces squeezed; there is a gap before the first one, or not. -/
def squeezeSpans (gap : Bool) : List Span → List Span
  | [] => []
  | span :: rest => ⟨squeeze gap span.lead, squeeze false span.content⟩ :: squeezeSpans false rest

/-- A cut with its pieces squeezed; there is a gap before the text, or not. -/
def squeezed (gap : Bool) (s : Split) : Split :=
  ⟨squeezeSpans gap s.spans, s.tail.map (squeeze (gap && s.spans.isEmpty))⟩

theorem squeezed_cons (gap : Bool) (lead content : List Char) (s : Split) :
    (cons lead content s).squeezed gap =
      cons (squeeze gap lead) (squeeze false content) (s.squeezed false) := by
  simp [squeezed, cons, squeezeSpans]

theorem contents_squeezed (gap : Bool) (s : Split) :
    (s.squeezed gap).contents =
      s.contents.map fun content => String.ofList (squeeze false content.toList) := by
  obtain ⟨spans, tail⟩ := s
  have hspans (gap : Bool) (spans : List Span) :
      (squeezeSpans gap spans).map Span.content =
        spans.map fun span => squeeze false span.content := by
    induction spans generalizing gap with
    | nil => rfl
    | cons span rest ih => rw [squeezeSpans, List.map_cons, List.map_cons, ih]
  have hcontents := congrArg (List.map String.ofList) (hspans gap spans)
  rw [List.map_map, List.map_map] at hcontents
  simpa [contents, squeezed, Function.comp_def] using hcontents

/-! ## The cut of a squeezed text -/

theorem isSpace_brace : isSpace '\x7b' = false ∧ isSpace '\x7d' = false ∧ isSpace '\\' = false := by
  decide

/-- A content is cut out of squeezed text as the squeezed content. -/
theorem content?_squeeze (gap : Bool) (seen run text : List Char) :
    content? (.braced sigil : Markers).closing (squeezeBack gap seen)
        (squeezeBack (gapAfter gap seen.reverse) run)
        (squeeze (gapAfter gap (run ++ seen).reverse) text) =
      (content? (.braced sigil : Markers).closing seen run text).map fun found =>
        (squeeze gap found.1, squeeze false found.2) := by
  induction text generalizing seen run with
  | nil => simp [squeeze, content?]
  | cons c rest ih =>
    by_cases hc : c = '\x7d'
    · subst hc
      rw [squeeze_ink isSpace_brace.2.1]
      by_cases hrun : run.head? = some '\\'
      · obtain ⟨run, rfl⟩ := List.head?_eq_some_iff.1 hrun
        have hseen : squeezeBack gap ('\x7d' :: run ++ seen) =
            '\x7d' :: squeezeBack (gapAfter gap seen.reverse) run ++ squeezeBack gap seen := by
          rw [squeezeBack_append, squeezeBack_ink isSpace_brace.2.1]
        have hgap : gapAfter gap ([] ++ ('\x7d' :: run ++ seen)).reverse = false := by
          rw [List.nil_append, List.cons_append, List.reverse_cons, gapAfter_concat]
          exact isSpace_brace.2.1
        rw [squeezeBack_ink isSpace_brace.2.2, content?_escaped, content?_escaped, ← ih, hgap,
          hseen]
        rfl
      · have hback : (squeezeBack (gapAfter gap seen.reverse) run).head? ≠ some '\\' :=
          fun h => hrun (head?_of_squeezeBack isSpace_brace.2.2 h)
        rw [content?_close hrun, content?_close hback, ← squeezeBack_append, reverse_squeezeBack]
        rfl
    · have hnot : '\x7d' ∉ squeeze (gapAfter gap (run ++ seen).reverse) [c] := by
        rcases squeeze_singleton (gapAfter gap (run ++ seen).reverse) c with h | h | ⟨h, -⟩
        · rw [h]
          exact List.not_mem_nil
        · rw [h]
          decide
        · rw [h, List.mem_singleton]
          exact Ne.symm hc
      have hrun : squeezeBack (gapAfter gap seen.reverse) (c :: run) =
          (squeeze (gapAfter gap (run ++ seen).reverse) [c]).reverse ++
            squeezeBack (gapAfter gap seen.reverse) run := by
        rw [squeezeBack_cons, ← gapAfter_append, ← List.reverse_append]
      have hgap : gapAfter gap (c :: run ++ seen).reverse = isSpace c := by
        rw [List.cons_append, List.reverse_cons, gapAfter_concat]
      rw [squeeze_cons, content?_append hnot, content?_cons hc, ← ih, hrun, hgap]

/-- **A squeezed text has the squeezed cut.** -/
theorem ofCharsFrom_squeeze (hsigil : isSpace sigil = false) (gap : Bool)
    (seen run text : List Char) :
    ofCharsFrom (.braced sigil) (squeezeBack gap seen)
        (squeezeBack (gapAfter gap seen.reverse) run) false
        (squeeze (gapAfter gap (run ++ seen).reverse) text) =
      (ofCharsFrom (.braced sigil) seen run false text).squeezed gap := by
  have hopening (gap : Bool) (rest : List Char) :
      squeeze gap (sigil :: '\x7b' :: rest) = sigil :: '\x7b' :: squeeze false rest := by
    rw [squeeze_ink hsigil, squeeze_ink isSpace_brace.1]
  have hclosed {gap : Bool} {run : List Char} (h : run.head? ≠ some '\\') :
      (squeezeBack gap run).head? ≠ some '\\' :=
    fun h' => h (head?_of_squeezeBack isSpace_brace.2.2 h')
  have hcontent (rest : List Char) :
      content? (.braced sigil : Markers).closing [] [] (squeeze false rest) =
        (content? (.braced sigil : Markers).closing [] [] rest).map fun found =>
          (squeeze false found.1, squeeze false found.2) := content?_squeeze false [] [] rest
  have hreverse (gap : Bool) (seen run : List Char) :
      (squeezeBack (gapAfter gap seen.reverse) run ++ squeezeBack gap seen).reverse =
        squeeze gap (run ++ seen).reverse := by
    rw [← squeezeBack_append, reverse_squeezeBack]
  induction seen, run, text using cut_induction sigil generalizing gap with
  | nil seen run =>
    simp only [ofCharsFrom, squeeze, squeezed, squeezeSpans, hreverse, Option.map_some,
      List.isEmpty_nil, Bool.and_true]
  | literal seen run c rest hnot ih =>
    have hgap : gapAfter gap (c :: run ++ seen).reverse = isSpace c := by
      rw [List.cons_append, List.reverse_cons, gapAfter_concat]
    have hrun : squeezeBack (gapAfter gap seen.reverse) (c :: run) =
        (squeeze (gapAfter gap (run ++ seen).reverse) [c]).reverse ++
          squeezeBack (gapAfter gap seen.reverse) run := by
      rw [squeezeBack_cons, ← gapAfter_append, ← List.reverse_append]
    have ih := ih gap
    rw [hgap, hrun] at ih
    rw [ofCharsFrom_cons hnot, ← ih, squeeze_cons]
    rcases squeeze_singleton (gapAfter gap (run ++ seen).reverse) c with h | h | ⟨h, hc⟩
    · rw [h]
      rfl
    · rw [h]
      refine ofCharsFrom_cons fun hprefix => ?_
      rw [(List.cons_prefix_cons.1 hprefix).1] at hsigil
      exact absurd hsigil (by decide)
    · rw [h]
      refine ofCharsFrom_cons fun hprefix => hnot ?_
      obtain ⟨rfl, more, hmore⟩ := List.cons_prefix_cons.1 hprefix
      rw [hc] at hmore
      have hhead := head?_of_squeeze isSpace_brace.1 (congrArg List.head? hmore.symm)
      obtain ⟨rest, rfl⟩ := List.head?_eq_some_iff.1 hhead
      exact ⟨rest, rfl⟩
  | escaped seen run rest ih =>
    have hgap : gapAfter gap ([] ++ ('\x7b' :: sigil :: run ++ seen)).reverse = false := by
      rw [List.nil_append, List.cons_append, List.reverse_cons, gapAfter_concat]
      exact isSpace_brace.1
    have hseen : squeezeBack gap ('\x7b' :: sigil :: run ++ seen) =
        '\x7b' :: sigil :: squeezeBack (gapAfter gap seen.reverse) run ++
          squeezeBack gap seen := by
      rw [squeezeBack_append, squeezeBack_ink isSpace_brace.1, squeezeBack_ink hsigil]
    have ih := ih gap
    rw [hgap, hseen] at ih
    rw [squeezeBack_ink isSpace_brace.2.2, hopening, ofCharsFrom_escaped, ofCharsFrom_escaped, ← ih]
    rfl
  | dangling seen run rest hrun hnone =>
    rw [hopening, ofCharsFrom_dangling (hclosed hrun) (by rw [hcontent, hnone]; rfl),
      ofCharsFrom_dangling hrun hnone]
    simp only [squeezed, squeezeSpans, hreverse, Option.map_some, List.isEmpty_nil, Bool.and_true,
      squeeze_append, hopening]
  | span seen run rest content after hrun hfound ih =>
    rw [hopening, ofCharsFrom_open (hclosed hrun) (by rw [hcontent, hfound]; rfl),
      ofCharsFrom_open hrun hfound, squeezed_cons, hreverse]
    exact congrArg (cons _ _) (ih false)

theorem ofChars_squeeze (hsigil : isSpace sigil = false) (gap : Bool) (text : List Char) :
    ofChars (.braced sigil) (squeeze gap text) = (ofChars (.braced sigil) text).squeezed gap :=
  ofCharsFrom_squeeze hsigil gap [] [] text

/-! ## A space at the end -/

/-- A character at the end that closes no marker belongs to the text after a content. -/
theorem content?_concat {c : Char} (hc : c ≠ '\x7d') (seen run text : List Char) :
    content? (.braced sigil : Markers).closing seen run (text ++ [c]) =
      (content? (.braced sigil : Markers).closing seen run text).map fun found =>
        (found.1, found.2 ++ [c]) := by
  induction text generalizing seen run with
  | nil => rw [List.nil_append, content?_cons hc]; simp [content?]
  | cons d rest ih =>
    by_cases hd : d = '\x7d'
    · subst hd
      by_cases hrun : run.head? = some '\\'
      · obtain ⟨run, rfl⟩ := List.head?_eq_some_iff.1 hrun
        rw [List.cons_append, content?_escaped, content?_escaped, ih]
      · rw [List.cons_append, content?_close hrun, content?_close hrun]
        rfl
    · rw [List.cons_append, content?_cons hd, content?_cons hd, ih]

/-- A character at the end that completes no marker belongs to the last literal. -/
theorem ofCharsFrom_concat {c : Char} (hc : c ≠ '\x7b') (hc' : c ≠ '\x7d')
    (seen run text : List Char) :
    ofCharsFrom (.braced sigil) seen run false (text ++ [c]) =
      ⟨(ofCharsFrom (.braced sigil) seen run false text).spans,
        (ofCharsFrom (.braced sigil) seen run false text).tail.map (· ++ [c])⟩ := by
  induction seen, run, text using cut_induction sigil with
  | nil seen run =>
    have hnot : ¬ [sigil, '\x7b'] <+: [c] := fun h => by simpa using h.length_le
    rw [List.nil_append, ofCharsFrom_cons hnot]
    simp [ofCharsFrom]
  | literal seen run d rest hnot ih =>
    have hnot' : ¬ [sigil, '\x7b'] <+: d :: (rest ++ [c]) := by
      intro hprefix
      obtain ⟨rfl, hbrace⟩ := List.cons_prefix_cons.1 hprefix
      cases rest with
      | nil => exact hc (List.cons_prefix_cons.1 hbrace).1.symm
      | cons e rest =>
        refine hnot (List.cons_prefix_cons.2 ⟨rfl, List.cons_prefix_cons.2 ⟨?_, List.nil_prefix⟩⟩)
        exact (List.cons_prefix_cons.1 hbrace).1
    rw [List.cons_append, ofCharsFrom_cons hnot', ofCharsFrom_cons hnot, ih]
  | escaped seen run rest ih =>
    rw [List.cons_append, List.cons_append, ofCharsFrom_escaped, ofCharsFrom_escaped, ih]
  | dangling seen run rest hrun hnone =>
    have hnone' : content? (.braced sigil : Markers).closing [] [] (rest ++ [c]) = none := by
      rw [content?_concat hc', hnone]
      rfl
    rw [List.cons_append, List.cons_append, ofCharsFrom_dangling hrun hnone',
      ofCharsFrom_dangling hrun hnone]
    simp
  | span seen run rest content after hrun hfound ih =>
    have hfound' : content? (.braced sigil : Markers).closing [] [] (rest ++ [c]) =
        some (content, after ++ [c]) := by
      rw [content?_concat hc', hfound]
      rfl
    rw [List.cons_append, List.cons_append, ofCharsFrom_open hrun hfound',
      ofCharsFrom_open hrun hfound]
    exact congrArg (cons _ _) ih

/-- What follows a content is the end of the text. -/
theorem suffix_of_content? {content after : List Char}
    (h : content? (.braced sigil : Markers).closing seen run text = some (content, after)) :
    after <:+ text := by
  induction text generalizing seen run with
  | nil => simp [content?] at h
  | cons c rest ih =>
    by_cases hc : c = '\x7d'
    · subst hc
      by_cases hrun : run.head? = some '\\'
      · obtain ⟨run, rfl⟩ := List.head?_eq_some_iff.1 hrun
        rw [content?_escaped] at h
        exact (ih h).trans (List.suffix_cons _ _)
      · rw [content?_close hrun] at h
        cases h
        exact List.suffix_cons _ _
    · rw [content?_cons hc] at h
      exact (ih h).trans (List.suffix_cons _ _)

/-- The last literal, if there is anything in it, ends as the text does. -/
theorem getLast?_tail (seen run text : List Char) :
    ∀ tail ∈ (ofCharsFrom (.braced sigil) seen run false text).tail,
      tail = [] ∨ tail.getLast? = ((run ++ seen).reverse ++ text).getLast? := by
  induction seen, run, text using cut_induction sigil with
  | nil seen run => simp [ofCharsFrom]
  | literal seen run d rest hnot ih =>
    rw [ofCharsFrom_cons hnot]
    simpa using ih
  | escaped seen run rest ih =>
    rw [ofCharsFrom_escaped]
    refine fun tail htail => (ih tail htail).imp_right fun h => h.trans ?_
    -- Both texts end in the brace of the marker and what follows it.
    simp
  | dangling seen run rest hrun hnone =>
    rw [ofCharsFrom_dangling hrun hnone]
    rintro tail ⟨⟩
    exact .inr rfl
  | span seen run rest content after hrun hfound ih =>
    rw [ofCharsFrom_open hrun hfound]
    intro tail htail
    rcases ih tail htail with hempty | hlast
    · exact .inl hempty
    · cases after with
      | nil => exact .inl (List.getLast?_eq_none_iff.1 hlast)
      | cons d after =>
        obtain ⟨before, hbefore⟩ := suffix_of_content? hfound
        refine .inr (hlast.trans ?_)
        rw [← hbefore, ← List.cons_append, ← List.cons_append, ← List.append_assoc]
        exact (List.getLast?_append_of_ne_nil _ (List.cons_ne_nil d after)).symm

/-! ## Collapsed texts -/

section marks

variable {mark : String}

theorem toList_join_cons (f : String → String) (lead content : List Char) (s : Split) :
    ((cons lead content s).join f).toList =
      lead ++ (f (String.ofList content)).toList ++ (s.join f).toList := by
  simp [join, cons]

/-- Marks in the place of the spans are no white space, so squeezing may come before or after. -/
theorem join_squeezed (hne : mark.toList ≠ []) (hmark : ∀ c ∈ mark.toList, isSpace c = false)
    (gap : Bool) (s : Split) :
    ((s.squeezed gap).join fun _ => mark).toList = squeeze gap (s.join fun _ => mark).toList := by
  obtain ⟨spans, tail⟩ := s
  induction spans generalizing gap with
  | nil => cases tail <;> simp [join, squeezed, squeezeSpans, squeeze]
  | cons span rest ih =>
    change (((cons span.lead span.content ⟨rest, tail⟩).squeezed gap).join fun _ => mark).toList =
      squeeze gap ((cons span.lead span.content ⟨rest, tail⟩).join fun _ => mark).toList
    rw [squeezed_cons, toList_join_cons, toList_join_cons, ih, squeeze_append, squeeze_append,
      squeeze_of_ink hmark, gapAfter_append, gapAfter_of_ink hne hmark]

/-- A text with marks ends in a space only if its last literal does. -/
theorem getLast?_join (hmark : ∀ c ∈ mark.toList, isSpace c = false) (hne : mark.toList ≠ [])
    {s : Split} (htail : ∀ tail ∈ s.tail, tail.getLast? ≠ some ' ') :
    (s.join fun _ => mark).toList.getLast? ≠ some ' ' := by
  obtain ⟨spans, tail⟩ := s
  induction spans with
  | nil =>
    cases tail with
    | none => simp [join]
    | some tail => simpa [join] using htail tail rfl
  | cons span rest ih =>
    change ((cons span.lead span.content ⟨rest, tail⟩).join fun _ => mark).toList.getLast? ≠ _
    rw [toList_join_cons]
    by_cases hrest : ((⟨rest, tail⟩ : Split).join fun _ => mark).toList = []
    · rw [hrest, List.append_nil, List.getLast?_append_of_ne_nil _ hne]
      exact fun hlast => absurd (hmark ' ' (List.mem_of_getLast? hlast)) (by decide)
    · rw [List.getLast?_append_of_ne_nil _ hrest]
      exact ih htail

variable (hsigil : isSpace sigil = false)

include hsigil

/-- A text that is squeezed but not collapsed has one more space in its last literal. -/
theorem ofChars_squeeze_of_concat {text : List Char}
    (h : squeeze true text = collapse text ++ [' ']) :
    (ofChars (.braced sigil) text).squeezed true =
      ⟨(ofChars (.braced sigil) (collapse text)).spans,
        (ofChars (.braced sigil) (collapse text)).tail.map (· ++ [' '])⟩ := by
  rw [← ofChars_squeeze hsigil, h]
  exact ofCharsFrom_concat (by decide) (by decide) [] [] _

/-- **The contents of a collapsed text** are the squeezed contents. -/
theorem contents_collapse (text : List Char) :
    (ofChars (.braced sigil) (collapse text)).contents =
      (ofChars (.braced sigil) text).contents.map fun content =>
        String.ofList (squeeze false content.toList) := by
  rw [← contents_squeezed true]
  rcases squeeze_eq_collapse text with ⟨h, -⟩ | h
  · rw [← h, ofChars_squeeze hsigil]
  · rw [ofChars_squeeze_of_concat hsigil h]
    rfl

/-- **A collapsed text with marks** is the text with marks, collapsed. -/
theorem join_collapse (hmark : ∀ c ∈ mark.toList, isSpace c = false) (hne : mark.toList ≠ [])
    (text : List Char) :
    ((ofChars (.braced sigil) (collapse text)).join fun _ => mark).toList =
      collapse ((ofChars (.braced sigil) text).join fun _ => mark).toList := by
  rw [collapse_eq_stripEnd (String.toList _), ← join_squeezed hne hmark]
  rcases squeeze_eq_collapse text with ⟨h, hlast⟩ | h
  · rw [← ofChars_squeeze hsigil, h, stripEnd_of_getLast?]
    refine getLast?_join hmark hne fun tail htail => ?_
    rcases getLast?_tail [] [] (collapse text) tail htail with rfl | htail
    · simp
    · rw [htail]
      exact hlast
  · obtain ⟨tail, htail⟩ := Option.isSome_iff_exists.1
      (unescaped_ofChars (m := .braced sigil) rfl rfl (collapse text)).tail
    have hjoin : ((⟨(ofChars (.braced sigil) (collapse text)).spans, some (tail ++ [' '])⟩ :
        Split).join fun _ => mark).toList =
          ((ofChars (.braced sigil) (collapse text)).join fun _ => mark).toList ++ [' '] := by
      simp [join, htail]
    rw [ofChars_squeeze_of_concat hsigil h, htail, Option.map_some, hjoin, stripEnd_concat]

end marks

end SqlTemplate.Split
