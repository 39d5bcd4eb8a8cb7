import Mathlib.Data.List.Infix
import SqlTemplate.Proofs.Span.Rescan

/-!
# Texts without escapes

A text in which no backslash stands directly before a marker is cut at the first opening marker, at
the first closing one after it, and so on; an opening marker that is never closed belongs to the
last literal. `Delimits` says this of a cut without mention of how the cut is found.

**Theorem (`ofChars_eq_of_delimits`).** This is how such a text is cut, and the cut is settled.
Every text has a cut of this kind (`exists_delimits`).
-/

namespace SqlTemplate

/-- No backslash stands directly before an opening or a closing marker. -/
structure EscapeFree (sigil : Char) (text : List Char) : Prop where
  opening : ¬ ['\\', sigil, '\x7b'] <:+: text
  closing : ¬ ['\\', '\x7d'] <:+: text

instance (sigil : Char) (text : List Char) : Decidable (EscapeFree sigil text) :=
  decidable_of_iff (¬ ['\\', sigil, '\x7b'] <:+: text ∧ ¬ ['\\', '\x7d'] <:+: text)
    ⟨fun h => ⟨h.1, h.2⟩, fun h => ⟨h.opening, h.closing⟩⟩

theorem EscapeFree.of_suffix {sigil : Char} {text rest : List Char} (h : EscapeFree sigil text)
    (hrest : rest <:+ text) : EscapeFree sigil rest :=
  ⟨fun hopening => h.opening (hopening.trans hrest.isInfix),
    fun hclosing => h.closing (hclosing.trans hrest.isInfix)⟩

namespace Split

variable {sigil : Char} {text : List Char} {s : Split}

/-- The spans of a cut are the complete spans of the text: each starts at the first opening marker
that is left and ends at the first closing one after it, and no opening marker of the last literal
is closed. -/
structure Delimits (sigil : Char) (text : List Char) (s : Split) : Prop where
  toChars_eq : s.toChars (.braced sigil) = text
  lead : ∀ span ∈ s.spans, ¬ [sigil, '\x7b'] <:+: span.lead
  content : ∀ span ∈ s.spans, '\x7d' ∉ span.content
  tail : ∃ literal, s.tail = some literal ∧
    ∀ before rest, literal = before ++ sigil :: '\x7b' :: rest → '\x7d' ∉ rest

theorem delimits_cons {lead content rest : List Char} (h : s.Delimits sigil rest)
    (hlead : ¬ [sigil, '\x7b'] <:+: lead) (hcontent : '\x7d' ∉ content) :
    (cons lead content s).Delimits sigil
      (lead ++ sigil :: '\x7b' :: (content ++ '\x7d' :: rest)) := by
  refine ⟨by rw [toChars_cons, h.toChars_eq], ?_, ?_, h.tail⟩
  · exact List.forall_mem_cons.2 ⟨hlead, h.lead⟩
  · exact List.forall_mem_cons.2 ⟨hcontent, h.content⟩

/-- Where nothing after the first opening marker closes it, nothing closes another. -/
theorem not_closed_of_first (hsigil : sigil ≠ '\x7b') (hsigil' : sigil ≠ '\x7d')
    {w rest before rest' : List Char} (hw : ¬ [sigil, '\x7b'] <:+: w) (hrest : '\x7d' ∉ rest)
    (heq : w ++ sigil :: '\x7b' :: rest = before ++ sigil :: '\x7b' :: rest') :
    '\x7d' ∉ rest' := by
  rcases List.append_eq_append_iff.1 heq with ⟨more, -, hmore⟩ | ⟨more, rfl, hmore⟩
  · intro hmem
    have : '\x7d' ∈ sigil :: '\x7b' :: rest := by simp [hmore, hmem]
    simp [hsigil'.symm, hrest] at this
  · rcases more with _ | ⟨c, _ | ⟨d, more⟩⟩
    · cases hmore
      exact hrest
    · cases hmore
      exact absurd rfl hsigil
    · obtain ⟨rfl, rfl, -⟩ : sigil = c ∧ '\x7b' = d ∧ _ := by simpa using hmore
      exact absurd ⟨before, more, by simp⟩ hw

/-- Every text has a cut at its complete spans. -/
theorem exists_delimits (hsigil : sigil ≠ '\x7b') (hsigil' : sigil ≠ '\x7d')
    (text : List Char) : ∃ s : Split, s.Delimits sigil text := by
  induction hn : text.length using Nat.strongRecOn generalizing text with
  | ind n ih =>
    rcases exists_opening sigil text with hnone | ⟨w, rest, rfl, hw⟩
    · refine ⟨⟨[], some text⟩, rfl, nofun, nofun, text, rfl, ?_⟩
      rintro before rest rfl
      exact absurd ⟨before, rest, by simp⟩ hnone
    · by_cases hclosed : '\x7d' ∈ rest
      · obtain ⟨content, after, rfl, hcontent⟩ := List.eq_append_cons_of_mem hclosed
        obtain ⟨s, hs⟩ := ih after.length (by simp at hn; omega) after rfl
        exact ⟨_, delimits_cons hs hw hcontent⟩
      · exact ⟨⟨[], some _⟩, rfl, nofun, nofun, _, rfl, fun before rest' =>
          not_closed_of_first hsigil hsigil' hw hclosed⟩

/-- A literal none of whose opening markers is closed has no span. -/
theorem ofChars_of_not_closed (hsigil : sigil ≠ '\x7b') (hfree : EscapeFree sigil text)
    (h : ∀ before rest, text = before ++ sigil :: '\x7b' :: rest → '\x7d' ∉ rest) :
    ofChars (.braced sigil) text = ⟨[], some text⟩ := by
  rcases exists_opening sigil text with hnone | ⟨w, rest, rfl, hw⟩
  · exact ofChars_of_literal hnone
  · have hescaped : w.reverse.head? ≠ some '\\' := by
      intro hlast
      obtain ⟨before, rfl⟩ := List.getLast?_eq_some_iff.1 ((List.head?_reverse).symm.trans hlast)
      exact hfree.opening ⟨before, rest, by simp⟩
    have hcontent : content? (.braced sigil : Markers).closing [] [] rest = none := by
      rw [← List.append_nil rest, content?_append (h w rest rfl), content?]
    rw [ofChars_of_opening hsigil hw, ofCharsFrom_dangling hescaped hcontent]
    simp

/-- The cut at the complete spans is settled, and no backslash stands before a marker. -/
theorem Delimits.settled (hsigil : sigil ≠ '\x7b') (hfree : EscapeFree sigil text)
    (h : s.Delimits sigil text) : s.Settled sigil ∧ s.Unescaped := by
  obtain ⟨spans, tail⟩ := s
  induction spans generalizing text with
  | nil =>
    obtain ⟨literal, rfl, hliteral⟩ := h.tail
    obtain rfl : literal = text := h.toChars_eq
    exact ⟨⟨nofun, nofun, ofChars_of_not_closed hsigil hfree hliteral⟩, nofun, nofun, rfl⟩
  | cons span rest ih =>
    obtain ⟨lead, content⟩ := span
    obtain ⟨hlead, hleads⟩ := List.forall_mem_cons.1 h.lead
    obtain ⟨hcontent, hcontents⟩ := List.forall_mem_cons.1 h.content
    have htext : lead ++ sigil :: '\x7b' :: (content ++ '\x7d' ::
        toChars (.braced sigil) ⟨rest, tail⟩) = text :=
      (toChars_cons sigil lead content ⟨rest, tail⟩).symm.trans h.toChars_eq
    obtain ⟨hsettled, hunescaped⟩ := ih (hfree.of_suffix ⟨lead ++ sigil :: '\x7b' ::
      (content ++ ['\x7d']), by simp [← htext]⟩) ⟨rfl, hleads, hcontents, h.tail⟩
    refine ⟨⟨List.forall_mem_cons.2 ⟨hlead, hsettled.lead⟩,
      List.forall_mem_cons.2 ⟨hcontent, hsettled.content⟩, hsettled.tail⟩,
      List.forall_mem_cons.2 ⟨fun hlast => ?_, hunescaped.lead⟩,
      List.forall_mem_cons.2 ⟨fun hlast => ?_, hunescaped.content⟩, hunescaped.tail⟩
    · obtain ⟨before, rfl⟩ := List.getLast?_eq_some_iff.1 hlast
      exact hfree.opening ⟨before, content ++ '\x7d' :: toChars (.braced sigil) ⟨rest, tail⟩,
        by simp [← htext]⟩
    · obtain ⟨before, rfl⟩ := List.getLast?_eq_some_iff.1 hlast
      exact hfree.closing ⟨lead ++ sigil :: '\x7b' :: before,
        toChars (.braced sigil) ⟨rest, tail⟩, by simp [← htext]⟩

/-- **A text without escapes is cut at its complete spans.** -/
theorem ofChars_eq_of_delimits (hsigil : sigil ≠ '\x7b') (hfree : EscapeFree sigil text)
    (h : s.Delimits sigil text) : ofChars (.braced sigil) text = s := by
  obtain ⟨hsettled, hunescaped⟩ := h.settled hsigil hfree
  rw [← h.toChars_eq]
  exact ofChars_toChars hsigil hsettled hunescaped

end Split

end SqlTemplate
