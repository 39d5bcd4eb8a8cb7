import SqlTemplate.Proofs.Span.Rescan

/-!
# The first opening marker of a text

What a text is cut into is decided at its first opening marker. If the marker is escaped, the text
loses the backslash, and what follows the marker is cut as a text of its own (`ofChars_of_escaped`).
If it is not, it makes a span up to its closing marker, and what follows the span is cut as a text
of its own (`ofChars_of_span`); or nothing closes it, and the text is one literal
(`ofChars_of_dangling`).
-/

namespace SqlTemplate

/-- The first opening marker of a text is escaped; `before` stands before its backslash. -/
structure OpensEscaped (sigil : Char) (text before rest : List Char) : Prop where
  text : text = before ++ '\\' :: sigil :: '\x7b' :: rest
  first : ¬ [sigil, '\x7b'] <:+: before

namespace Split

/-- A cut with something before its first piece. -/
def prepend (w : List Char) (s : Split) : Split :=
  match s.spans with
  | [] => ⟨[], s.tail.map (w ++ ·)⟩
  | span :: rest => ⟨⟨w ++ span.lead, span.content⟩ :: rest, s.tail⟩

theorem prepend_cons (w lead content : List Char) (s : Split) :
    (cons lead content s).prepend w = cons (w ++ lead) content s := rfl

theorem prepend_prepend (v w : List Char) (s : Split) :
    (s.prepend w).prepend v = s.prepend (v ++ w) := by
  obtain ⟨_ | ⟨span, rest⟩, tail⟩ := s
  · simp [prepend, Function.comp_def]
  · simp [prepend]

theorem spans_of_prepend {w : List Char} {s : Split} (h : (s.prepend w).spans = []) :
    s.spans = [] := by
  obtain ⟨_ | ⟨span, rest⟩, tail⟩ := s
  · rfl
  · cases h

variable {sigil : Char} {text before rest : List Char}

/-- What has been seen is put before the first piece. -/
theorem ofCharsFrom_eq_prepend (hsigil : sigil ≠ '\x7b') (seen text : List Char) :
    ofCharsFrom (.braced sigil) seen [] false text =
      (ofChars (.braced sigil) text).prepend seen.reverse := by
  induction hn : text.length using Nat.strongRecOn generalizing seen text with
  | ind n ih =>
    have hhead (rest : List Char) : ¬ ['\x7b'] <+: sigil :: '\x7b' :: rest := by
      simpa using hsigil.symm
    rcases exists_opening sigil text with hnone | ⟨w, rest, rfl, hw⟩
    · have hall : ofCharsFrom (.braced sigil) seen [] false (text ++ []) =
          ofCharsFrom (.braced sigil) seen (text.reverse ++ []) false [] :=
        ofCharsFrom_append hnone (by simp)
      rw [List.append_nil] at hall
      rw [hall, ofChars_of_literal hnone, ofCharsFrom]
      simp [prepend]
    · rw [ofChars_of_opening hsigil hw, ofCharsFrom_append hw (hhead rest), List.append_nil]
      by_cases hescaped : w.reverse.head? = some '\\'
      · obtain ⟨run, hrun⟩ := List.head?_eq_some_iff.1 hescaped
        have hlength : rest.length < n := by rw [← hn]; simp; omega
        rw [hrun, ofCharsFrom_escaped, ofCharsFrom_escaped, ih _ hlength _ rest rfl,
          ih _ hlength _ rest rfl, prepend_prepend]
        simp
      · cases hcontent : content? (.braced sigil : Markers).closing [] [] rest with
        | none =>
          rw [ofCharsFrom_dangling hescaped hcontent, ofCharsFrom_dangling hescaped hcontent]
          simp [prepend]
        | some span =>
          rw [ofCharsFrom_open hescaped hcontent, ofCharsFrom_open hescaped hcontent,
            prepend_cons]
          simp

/-- A text with an escaped marker loses the backslash, and is cut after the marker as a text of its
own. -/
theorem ofChars_of_escaped (hsigil : sigil ≠ '\x7b') (h : OpensEscaped sigil text before rest) :
    ofChars (.braced sigil) text =
      (ofChars (.braced sigil) rest).prepend (before ++ [sigil, '\x7b']) := by
  have hmarker : ¬ [sigil, '\x7b'] <:+: before ++ ['\\'] := by
    rw [List.infix_concat_iff, List.suffix_concat_iff, not_or]
    refine ⟨?_, h.first⟩
    rintro (hnil | ⟨front, hend, -⟩)
    · cases hnil
    · exact absurd (congrArg List.getLast? hend) (by simp)
  have htext : text = (before ++ ['\\']) ++ sigil :: '\x7b' :: rest := by
    rw [h.text, List.append_assoc, List.singleton_append]
  rw [htext, ofChars_of_opening hsigil hmarker, List.reverse_append, List.reverse_singleton,
    List.singleton_append, ofCharsFrom_escaped, ofCharsFrom_eq_prepend hsigil]
  simp

/-- A text whose first marker is not escaped is its own literal, if it has no span. -/
theorem ofChars_of_not_escaped (hsigil : sigil ≠ '\x7b')
    (hstatic : (ofChars (.braced sigil) text).spans = [])
    (h : ∀ before rest, ¬ OpensEscaped sigil text before rest) :
    ofChars (.braced sigil) text = ⟨[], some text⟩ := by
  rcases exists_opening sigil text with hnone | ⟨w, rest, rfl, hw⟩
  · exact ofChars_of_literal hnone
  · have hescaped : w.reverse.head? ≠ some '\\' := by
      intro hescaped
      obtain ⟨run, hrun⟩ := List.head?_eq_some_iff.1 hescaped
      have hbefore : w = run.reverse ++ ['\\'] := by
        rw [← List.reverse_cons, ← hrun, List.reverse_reverse]
      refine h run.reverse rest ⟨by rw [hbefore]; simp, fun hmarker => hw ?_⟩
      rw [hbefore]
      exact hmarker.trans (List.prefix_append _ _).isInfix
    rw [ofChars_of_opening hsigil hw] at hstatic ⊢
    cases hcontent : content? (.braced sigil : Markers).closing [] [] rest with
    | none =>
      rw [ofCharsFrom_dangling hescaped hcontent]
      simp
    | some span =>
      rw [ofCharsFrom_open hescaped hcontent] at hstatic
      cases hstatic

/-- A text whose first marker is closed has a span there, and is cut after the span as a text of its
own. -/
theorem ofChars_of_span {w content after : List Char} (hsigil : sigil ≠ '\x7b')
    (hw : ¬ [sigil, '\x7b'] <:+: w) (hlast : w.getLast? ≠ some '\\')
    (hcontent : content? (.braced sigil : Markers).closing [] [] rest = some (content, after)) :
    ofChars (.braced sigil) (w ++ sigil :: '\x7b' :: rest) =
      cons w content (ofChars (.braced sigil) after) := by
  rw [ofChars_of_opening hsigil hw, ofCharsFrom_open (by simpa using hlast) hcontent]
  simp

/-- A text whose first marker is not closed is one literal. -/
theorem ofChars_of_dangling {w : List Char} (hsigil : sigil ≠ '\x7b')
    (hw : ¬ [sigil, '\x7b'] <:+: w) (hlast : w.getLast? ≠ some '\\')
    (hcontent : content? (.braced sigil : Markers).closing [] [] rest = none) :
    ofChars (.braced sigil) (w ++ sigil :: '\x7b' :: rest) =
      ⟨[], some (w ++ sigil :: '\x7b' :: rest)⟩ := by
  rw [ofChars_of_opening hsigil hw, ofCharsFrom_dangling (by simpa using hlast) hcontent]
  simp

end Split

end SqlTemplate
