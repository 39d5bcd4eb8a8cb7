import SqlTemplate.Span
import Mathlib.Algebra.GroupWithZero.Nat

/-!
# Cutting a text again

Take a text apart at its spans, enclose each content again and put the pieces together. This gives
the text without the backslashes that were dropped, and cutting it again need not give the same
pieces: what was escaped before may be a marker now.

A cut is **settled** if no literal before a span holds an opening marker, no content holds a closing
one, and the literal at the end has no span.

**Theorem (`ofChars_toChars`).** A settled cut is what cutting its own text gives, provided that no
piece ends in a backslash; the pieces of a text never do (`ofChars_unescaped`).

**Theorem (`settled_of_backslashes_eq`).** Cutting a text never adds a backslash, and where it drops
none the cut is settled.

All this is about markers that are a sigil with an opening brace, and a closing brace.
-/

namespace SqlTemplate

/-- The markers of a sigil. -/
def Markers.braced (sigil : Char) : Markers := ⟨⟨sigil, ['\x7b']⟩, ⟨'\x7d', []⟩⟩

namespace Split

/-- The text of a cut, with every content between the markers again. -/
def toChars (m : Markers) (s : Split) : List Char :=
  (s.spans.flatMap fun span =>
    span.lead ++ m.opening.chars ++ span.content ++ m.closing.chars) ++ s.tail.getD []

/-- A cut with each content replaced by its image. -/
def mapContents (f : String → String) (s : Split) : Split :=
  ⟨s.spans.map fun span => ⟨span.lead, (f (String.ofList span.content)).toList⟩, s.tail⟩

/-- The backslashes in the pieces of a cut. -/
def backslashes (s : Split) : Nat :=
  (s.spans.map fun span => span.lead.count '\\' + span.content.count '\\').sum +
    (s.tail.getD []).count '\\'

/-- No piece before a marker ends in a backslash, and the cut does not tear. -/
structure Unescaped (s : Split) : Prop where
  lead : ∀ span ∈ s.spans, span.lead.getLast? ≠ some '\\'
  content : ∀ span ∈ s.spans, span.content.getLast? ≠ some '\\'
  tail : s.tail.isSome

/-- No literal before a span holds an opening marker, no content a closing brace, and the last
literal has no span. -/
structure Settled (sigil : Char) (s : Split) : Prop where
  lead : ∀ span ∈ s.spans, ¬ [sigil, '\x7b'] <:+: span.lead
  content : ∀ span ∈ s.spans, '\x7d' ∉ span.content
  tail : ofChars (.braced sigil) (s.tail.getD []) = ⟨[], s.tail⟩

theorem contents_mapContents (f : String → String) (s : Split) :
    (s.mapContents f).contents = s.contents.map f := by
  simp [contents, mapContents, Function.comp_def]

/-- Putting images of the contents between the markers gives the text of the changed cut. -/
theorem join_enclose (m : Markers) (f : String → String) (s : Split) :
    (s.join fun content => m.enclose (f content)) =
      String.ofList ((s.mapContents f).toChars m) := by
  obtain ⟨spans, tail⟩ := s
  rw [← String.toList_inj]
  simp [join, toChars, mapContents, Markers.enclose, List.flatMap_map]

theorem toChars_cons (sigil : Char) (lead content : List Char) (s : Split) :
    (cons lead content s).toChars (.braced sigil) =
      lead ++ sigil :: '\x7b' :: (content ++ '\x7d' :: s.toChars (.braced sigil)) := by
  simp [toChars, cons, Markers.braced, Marker.chars]

theorem backslashes_cons (lead content : List Char) (s : Split) :
    (cons lead content s).backslashes =
      lead.count '\\' + content.count '\\' + s.backslashes := by
  simp [backslashes, cons, Nat.add_assoc]

/-- Markers around the contents add no backslash. -/
theorem count_toChars {sigil : Char} (hsigil : sigil ≠ '\\') (s : Split) :
    (s.toChars (.braced sigil)).count '\\' = s.backslashes := by
  obtain ⟨spans, tail⟩ := s
  induction spans with
  | nil => simp [toChars, backslashes]
  | cons span rest ih =>
    change ((cons span.lead span.content ⟨rest, tail⟩).toChars _).count _ =
      (cons span.lead span.content ⟨rest, tail⟩).backslashes
    rw [toChars_cons, backslashes_cons, ← ih]
    simp only [List.count_append, List.count_cons_of_ne hsigil, List.count_cons_of_ne
      (show '\x7b' ≠ '\\' by decide), List.count_cons_of_ne (show '\x7d' ≠ '\\' by decide)]
    omega

/-! ## One character of a text -/

section steps

variable {sigil c : Char} {seen run rest : List Char}

theorem strip?_closing :
    (Markers.braced sigil).closing.strip? c rest = if c = '\x7d' then some rest else none := by
  simp [Markers.braced, Marker.strip?, Text.after?]

theorem strip?_opening_self :
    (Markers.braced sigil).opening.strip? sigil ('\x7b' :: rest) = some rest := by
  simp [Markers.braced, Marker.strip?, Text.after?]

theorem strip?_opening_eq_none (h : ¬ [sigil, '\x7b'] <+: c :: rest) :
    (Markers.braced sigil).opening.strip? c rest = none := by
  rw [Option.eq_none_iff_forall_not_mem]
  intro after hafter
  exact h ⟨after, (Marker.eq_append_of_strip? hafter).symm⟩

theorem content?_cons (h : c ≠ '\x7d') :
    content? (.braced sigil : Markers).closing seen run (c :: rest) =
      content? (.braced sigil : Markers).closing seen (c :: run) rest := by
  rw [content?]
  split
  · rfl
  · next h' => rw [strip?_closing, if_neg h] at h'; cases h'

theorem content?_escaped :
    content? (.braced sigil : Markers).closing seen ('\\' :: run) ('\x7d' :: rest) =
      content? (.braced sigil : Markers).closing ('\x7d' :: run ++ seen) [] rest := by
  rw [content?]
  split
  · next h' => rw [strip?_closing, if_pos rfl] at h'; cases h'
  · next h' => rw [strip?_closing, if_pos rfl] at h'; cases h'; rfl

theorem content?_close (h : run.head? ≠ some '\\') :
    content? (.braced sigil : Markers).closing seen run ('\x7d' :: rest) =
      some ((run ++ seen).reverse, rest) := by
  rw [content?]
  split
  · next h' => rw [strip?_closing, if_pos rfl] at h'; cases h'
  · next h' =>
    rw [strip?_closing, if_pos rfl] at h'
    cases h'
    split
    · exact absurd rfl h
    · rfl

theorem ofCharsFrom_cons (h : ¬ [sigil, '\x7b'] <+: c :: rest) :
    ofCharsFrom (.braced sigil) seen run false (c :: rest) =
      ofCharsFrom (.braced sigil) seen (c :: run) false rest := by
  rw [ofCharsFrom]
  split
  · rfl
  · next h' => rw [strip?_opening_eq_none h] at h'; cases h'

theorem ofCharsFrom_escaped :
    ofCharsFrom (.braced sigil) seen ('\\' :: run) false (sigil :: '\x7b' :: rest) =
      ofCharsFrom (.braced sigil) ('\x7b' :: sigil :: run ++ seen) [] false rest := by
  rw [ofCharsFrom]
  split
  · next h' => rw [strip?_opening_self] at h'; cases h'
  · next h' => rw [strip?_opening_self] at h'; cases h'; rfl

/-- An opening marker that is not escaped and is closed makes a span. -/
theorem ofCharsFrom_open (h : run.head? ≠ some '\\') {content after : List Char}
    (hcontent : content? (.braced sigil : Markers).closing [] [] rest = some (content, after)) :
    ofCharsFrom (.braced sigil) seen run false (sigil :: '\x7b' :: rest) =
      cons (run ++ seen).reverse content (ofChars (.braced sigil) after) := by
  rw [ofCharsFrom]
  split
  · next h' => rw [strip?_opening_self] at h'; cases h'
  · next h' =>
    rw [strip?_opening_self] at h'
    cases h'
    split
    · exact absurd rfl h
    · rw [Bool.and_false, if_neg Bool.false_ne_true]
      split
      · next h' => rw [hcontent] at h'; cases h'
      · next h' => rw [hcontent] at h'; cases h'; rfl

/-- An opening marker that is not escaped and not closed is literal with all that follows. -/
theorem ofCharsFrom_dangling (h : run.head? ≠ some '\\')
    (hcontent : content? (.braced sigil : Markers).closing [] [] rest = none) :
    ofCharsFrom (.braced sigil) seen run false (sigil :: '\x7b' :: rest) =
      ⟨[], some ((run ++ seen).reverse ++ sigil :: '\x7b' :: rest)⟩ := by
  rw [ofCharsFrom]
  split
  · next h' => rw [strip?_opening_self] at h'; cases h'
  · next h' =>
    rw [strip?_opening_self] at h'
    cases h'
    split
    · exact absurd rfl h
    · rw [Bool.and_false, if_neg Bool.false_ne_true]
      split
      · rfl
      · next h' => rw [hcontent] at h'; cases h'

end steps

/-! ## A stretch of a text -/

section stretches

variable {sigil : Char} {seen run rest : List Char}

/-- Text without a closing brace goes into the content. -/
theorem content?_append {w : List Char} (h : '\x7d' ∉ w) :
    content? (.braced sigil : Markers).closing seen run (w ++ rest) =
      content? (.braced sigil : Markers).closing seen (w.reverse ++ run) rest := by
  induction w generalizing run with
  | nil => rfl
  | cons c w ih =>
    rw [List.mem_cons, not_or] at h
    rw [List.cons_append, content?_cons (Ne.symm h.1), ih h.2, List.reverse_cons,
      List.append_assoc, List.singleton_append]

/-- Text without an opening marker goes into the literal, unless its end makes one. -/
theorem ofCharsFrom_append {w : List Char} (h : ¬ [sigil, '\x7b'] <:+: w)
    (hend : ¬ ['\x7b'] <+: rest) :
    ofCharsFrom (.braced sigil) seen run false (w ++ rest) =
      ofCharsFrom (.braced sigil) seen (w.reverse ++ run) false rest := by
  induction w generalizing run with
  | nil => rfl
  | cons c w ih =>
    rw [List.infix_cons_iff, not_or] at h
    rw [List.cons_append, ofCharsFrom_cons, ih h.2, List.reverse_cons, List.append_assoc,
      List.singleton_append]
    rw [List.cons_prefix_cons] at h ⊢
    rintro ⟨rfl, hw⟩
    cases w with
    | nil => exact hend hw
    | cons d w => exact h.1 ⟨rfl, by simpa using hw⟩

/-- A text has no opening marker, or a first one. -/
theorem exists_opening (sigil : Char) (text : List Char) :
    ¬ [sigil, '\x7b'] <:+: text ∨
      ∃ w rest, text = w ++ sigil :: '\x7b' :: rest ∧ ¬ [sigil, '\x7b'] <:+: w := by
  induction text with
  | nil => exact .inl (by simp)
  | cons c text ih =>
    by_cases hstart : [sigil, '\x7b'] <+: c :: text
    · obtain ⟨rest, hrest⟩ := hstart
      exact .inr ⟨[], rest, hrest.symm, by simp⟩
    · rcases ih with h | ⟨w, rest, rfl, hw⟩
      · refine .inl ?_
        rw [List.infix_cons_iff, not_or]
        exact ⟨hstart, h⟩
      · refine .inr ⟨c :: w, rest, rfl, ?_⟩
        rw [List.infix_cons_iff, not_or]
        exact ⟨fun hw => hstart (hw.trans (List.prefix_append (c :: w) _)), hw⟩

end stretches

/-! ## The pieces of a text -/

section pieces

variable {m : Markers} {closing : Marker} {seen run text content after : List Char}

/-- A run without an escape, put after what does not end in a backslash. -/
theorem getLast?_reverse_append (hseen : seen.head? ≠ some '\\')
    (hrun : ∀ rest, run = '\\' :: rest → False) : (run ++ seen).reverse.getLast? ≠ some '\\' := by
  rw [List.getLast?_reverse]
  cases run with
  | nil => exact hseen
  | cons c rest => exact fun h => hrun rest (by rw [Option.some.inj h])

theorem head?_reverse_chars (h : closing.endsInBackslash = false) (more : List Char) :
    (closing.chars.reverse ++ more).head? ≠ some '\\' := by
  rw [Marker.endsInBackslash, beq_eq_false_iff_ne, Marker.chars, List.getLast?_cons] at h
  rwa [List.head?_append, List.head?_reverse, Marker.chars, List.getLast?_cons, Option.some_or]

theorem getLast?_of_content? (hclosing : closing.endsInBackslash = false)
    (hseen : seen.head? ≠ some '\\')
    (h : content? closing seen run text = some (content, after)) :
    content.getLast? ≠ some '\\' := by
  fun_induction content? closing seen run text with
  | case1 => cases h
  | case2 _ _ _ _ _ ih => exact ih hseen h
  | case3 _ _ _ _ _ _ ih =>
    refine ih ?_ h
    rw [List.append_assoc]
    exact head?_reverse_chars hclosing _
  | case4 _ _ _ _ _ _ hrun =>
    cases h
    exact getLast?_reverse_append hseen hrun

/-- Before a marker there is no backslash any more. -/
theorem unescaped_ofCharsFrom (hopening : m.opening.endsInBackslash = false)
    (hclosing : m.closing.endsInBackslash = false) {stuck : Bool} (hstuck : stuck = false)
    (hseen : seen.head? ≠ some '\\') : Unescaped (ofCharsFrom m seen run stuck text) := by
  fun_induction ofCharsFrom m seen run stuck text with
  | case1 => exact ⟨nofun, nofun, rfl⟩
  | case2 _ _ _ _ _ _ ih => exact ih hstuck hseen
  | case3 _ _ _ _ _ _ _ ih =>
    refine ih hopening ?_
    rw [List.append_assoc]
    exact head?_reverse_chars hopening _
  | case4 _ _ _ _ _ _ _ _ htorn => rw [hstuck, Bool.and_false] at htorn; cases htorn
  | case5 => exact ⟨nofun, nofun, rfl⟩
  | case6 _ _ _ _ _ _ _ hrun _ _ _ hcontent ih =>
    obtain ⟨hlead, hcontents, htail⟩ := ih hclosing nofun
    refine ⟨List.forall_mem_cons.2 ⟨?_, hlead⟩, List.forall_mem_cons.2 ⟨?_, hcontents⟩, htail⟩
    · exact getLast?_reverse_append hseen hrun
    · exact getLast?_of_content? hclosing (by simp) hcontent

theorem unescaped_ofChars (hopening : m.opening.endsInBackslash = false)
    (hclosing : m.closing.endsInBackslash = false) (text : List Char) :
    Unescaped (ofChars m text) := unescaped_ofCharsFrom hopening hclosing rfl nofun

theorem count_reverse_append (run seen : List Char) :
    (run ++ seen).reverse.count '\\' = run.count '\\' + seen.count '\\' := by
  rw [List.count_reverse, List.count_append]

theorem backslashes_content?_le (h : content? closing seen run text = some (content, after)) :
    content.count '\\' + after.count '\\' ≤
      run.count '\\' + seen.count '\\' + text.count '\\' := by
  fun_induction content? closing seen run text with
  | case1 => cases h
  | case2 _ _ _ _ _ ih =>
    have := ih h
    rw [List.count_cons] at this ⊢
    omega
  | case3 _ _ _ _ hs _ ih =>
    have hsplit := congrArg (List.count '\\') (Marker.eq_append_of_strip? hs)
    have := ih h
    rw [List.count_append] at hsplit
    simp only [List.count_append, List.count_reverse, List.count_nil, List.count_cons_self]
      at this ⊢
    omega
  | case4 _ _ _ _ hs _ =>
    have hsplit := congrArg (List.count '\\') (Marker.eq_append_of_strip? hs)
    cases h
    rw [List.count_append] at hsplit
    rw [count_reverse_append]
    omega

/-- Cutting a text adds no backslash. -/
theorem backslashes_ofCharsFrom_le {stuck : Bool} :
    (ofCharsFrom m seen run stuck text).backslashes ≤
      run.count '\\' + seen.count '\\' + text.count '\\' := by
  fun_induction ofCharsFrom m seen run stuck text with
  | case1 => simp [backslashes, Nat.add_comm]
  | case2 _ _ _ _ _ _ ih =>
    rw [List.count_cons] at ih ⊢
    omega
  | case3 _ _ _ _ _ hs _ ih =>
    have hsplit := congrArg (List.count '\\') (Marker.eq_append_of_strip? hs)
    rw [List.count_append] at hsplit
    simp only [List.count_append, List.count_reverse, List.count_nil, List.count_cons_self] at ih ⊢
    omega
  | case4 => simp [backslashes]
  | case5 =>
    simp only [backslashes, List.map_nil, List.sum_nil, Option.getD_some, List.count_append,
      List.count_reverse]
    omega
  | case6 _ _ _ _ _ hs _ hrun _ _ _ hcontent ih =>
    have hsplit := congrArg (List.count '\\') (Marker.eq_append_of_strip? hs)
    have hle := backslashes_content?_le hcontent
    rw [List.count_append] at hsplit
    simp only [backslashes_cons, List.count_reverse, List.count_append, List.count_nil] at ih hle ⊢
    omega

theorem backslashes_ofChars_le (m : Markers) (text : List Char) :
    (ofChars m text).backslashes ≤ text.count '\\' := by
  have : (ofCharsFrom m [] [] false text).backslashes ≤ _ := backslashes_ofCharsFrom_le
  simpa [ofChars] using this

end pieces

/-! ## Cutting again -/

section rescan

variable {sigil : Char} {text content after : List Char}

theorem ofChars_of_literal (h : ¬ [sigil, '\x7b'] <:+: text) :
    ofChars (.braced sigil) text = ⟨[], some text⟩ := by
  have hall : ofCharsFrom (.braced sigil) [] [] false (text ++ []) = _ :=
    ofCharsFrom_append h (by simp)
  rw [List.append_nil, List.append_nil] at hall
  rw [ofChars, hall, ofCharsFrom]
  simp

/-- A content without a dropped backslash goes up to the first closing brace. -/
theorem of_content?_of_count_eq
    (h : content? (.braced sigil : Markers).closing [] [] text = some (content, after))
    (hcount : content.count '\\' + after.count '\\' = text.count '\\') :
    '\x7d' ∉ content ∧ text = content ++ '\x7d' :: after := by
  by_cases hmem : '\x7d' ∈ text
  · obtain ⟨w, rest, rfl, hw⟩ := List.eq_append_cons_of_mem hmem
    rw [content?_append hw, List.append_nil] at h
    by_cases hescaped : w.reverse.head? = some '\\'
    · obtain ⟨run, hrun⟩ := List.head?_eq_some_iff.1 hescaped
      rw [hrun, content?_escaped] at h
      have hle := backslashes_content?_le h
      have hcountw := List.count_reverse (a := '\\') (l := w)
      rw [hrun] at hcountw
      simp only [List.count_append, List.count_cons_self, List.count_cons, List.count_nil,
        List.append_nil] at hle hcount hcountw
      omega
    · rw [content?_close hescaped] at h
      cases h
      rw [List.append_nil, List.reverse_reverse]
      exact ⟨hw, rfl⟩
  · rw [← List.append_nil text, content?_append hmem, content?] at h
    cases h

/-- A cut looks at the first opening marker with the literal before it seen. -/
theorem ofChars_of_opening {w : List Char} (hsigil : sigil ≠ '\x7b')
    (hw : ¬ [sigil, '\x7b'] <:+: w) :
    ofChars (.braced sigil) (w ++ sigil :: '\x7b' :: rest) =
      ofCharsFrom (.braced sigil) [] w.reverse false (sigil :: '\x7b' :: rest) := by
  rw [ofChars, ofCharsFrom_append hw (by simpa using hsigil.symm), List.append_nil]

/-- Where no backslash is dropped, the first opening marker is not escaped. -/
theorem not_escaped_of_backslashes_eq {w : List Char} (hsigil : sigil ≠ '\x7b')
    (hw : ¬ [sigil, '\x7b'] <:+: w)
    (h : (ofChars (.braced sigil) (w ++ sigil :: '\x7b' :: rest)).backslashes =
      (w ++ sigil :: '\x7b' :: rest).count '\\') : w.reverse.head? ≠ some '\\' := by
  intro hescaped
  obtain ⟨run, hrun⟩ := List.head?_eq_some_iff.1 hescaped
  have hcountw := List.count_reverse (a := '\\') (l := w)
  have hle : (ofCharsFrom (.braced sigil) ('\x7b' :: sigil :: run ++ []) [] false
      rest).backslashes ≤ _ := backslashes_ofCharsFrom_le
  rw [ofChars_of_opening hsigil hw, hrun, ofCharsFrom_escaped] at h
  rw [hrun, List.count_cons_self] at hcountw
  simp only [List.count_append, List.count_cons, List.count_nil] at hle h
  omega

/-- **A cut that drops no backslash is settled**, and the text is the text of its cut. -/
theorem settled_of_backslashes_eq (hsigil : sigil ≠ '\x7b')
    (h : (ofChars (.braced sigil) text).backslashes = text.count '\\') :
    Settled sigil (ofChars (.braced sigil) text) ∧
      (ofChars (.braced sigil) text).toChars (.braced sigil) = text := by
  induction hn : text.length using Nat.strongRecOn generalizing text with
  | ind n ih =>
    have hliteral (heq : ofChars (.braced sigil) text = ⟨[], some text⟩) :
        Settled sigil (ofChars (.braced sigil) text) ∧
          (ofChars (.braced sigil) text).toChars (.braced sigil) = text := by
      rw [heq]
      exact ⟨⟨nofun, nofun, heq⟩, rfl⟩
    rcases exists_opening sigil text with hnone | ⟨w, rest, rfl, hw⟩
    · exact hliteral (ofChars_of_literal hnone)
    · have hescaped := not_escaped_of_backslashes_eq hsigil hw h
      cases hcontent : content? (.braced sigil : Markers).closing [] [] rest with
      | none =>
        refine hliteral ?_
        rw [ofChars_of_opening hsigil hw, ofCharsFrom_dangling hescaped hcontent]
        simp
      | some span =>
        obtain ⟨content, after⟩ := span
        have hsplit := (ofChars_of_opening hsigil hw).trans (ofCharsFrom_open hescaped hcontent)
        rw [List.append_nil, List.reverse_reverse] at hsplit
        have hle := backslashes_content?_le hcontent
        have hle' := backslashes_ofChars_le (.braced sigil) after
        rw [hsplit, backslashes_cons] at h
        simp only [List.count_append, List.count_cons, List.count_nil] at h hle hle'
        have hafter : after.length < n := by
          have := length_of_content? hcontent
          simp only [List.length_append, List.length_cons] at hn
          omega
        -- Both the content and what follows it keep their backslashes.
        have hcount : content.count '\\' + after.count '\\' = rest.count '\\' := by omega
        obtain ⟨⟨hlead, hcontents, htail⟩, htext⟩ := ih after.length hafter (by omega) rfl
        obtain ⟨hmem, hrest⟩ := of_content?_of_count_eq hcontent hcount
        rw [hsplit]
        refine ⟨⟨List.forall_mem_cons.2 ⟨hw, hlead⟩, List.forall_mem_cons.2 ⟨hmem, hcontents⟩,
          htail⟩, ?_⟩
        rw [toChars_cons, htext, hrest]

/-- **A settled cut is what cutting its text gives.** -/
theorem ofChars_toChars {s : Split} (hsigil : sigil ≠ '\x7b') (h : s.Settled sigil)
    (hs : s.Unescaped) : ofChars (.braced sigil) (s.toChars (.braced sigil)) = s := by
  obtain ⟨spans, tail⟩ := s
  induction spans with
  | nil => exact h.tail
  | cons span rest ih =>
    obtain ⟨lead, content⟩ := span
    obtain ⟨hlead, hleads⟩ := List.forall_mem_cons.1 h.lead
    obtain ⟨hcontent, hcontents⟩ := List.forall_mem_cons.1 h.content
    obtain ⟨hlead', hleads'⟩ := List.forall_mem_cons.1 hs.lead
    obtain ⟨hcontent', hcontents'⟩ := List.forall_mem_cons.1 hs.content
    have ih := ih ⟨hleads, hcontents, h.tail⟩ ⟨hleads', hcontents', hs.tail⟩
    have hspan : content? (.braced sigil : Markers).closing [] []
        (content ++ '\x7d' :: toChars (.braced sigil) ⟨rest, tail⟩) =
          some (content, toChars (.braced sigil) ⟨rest, tail⟩) := by
      rw [content?_append hcontent, content?_close (by simpa using hcontent')]
      simp
    change ofChars (.braced sigil) ((cons lead content ⟨rest, tail⟩).toChars _) = _
    rw [toChars_cons, ofChars, ofCharsFrom_append hlead (by simpa using hsigil.symm),
      ofCharsFrom_open (by simpa using hlead') hspan, ih]
    simp [cons]

end rescan

end Split

end SqlTemplate
