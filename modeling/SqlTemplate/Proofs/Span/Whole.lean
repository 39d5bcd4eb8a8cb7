import Mathlib.Data.List.Infix
import SqlTemplate.Proofs.Span.Rescan

/-!
# Cutting texts that are put together

What follows a text can change how it is cut: it can close a span, complete an opening marker, or
take a backslash for an escape. A text is **whole** if nothing that follows can do that, and if
cutting it drops no backslash.

**Theorem (`Whole.ofChars_append`).** Two whole texts together are whole, and they are cut where
each of them is cut.

**Theorem (`Plain.whole`).** A text without backslashes that does not end in the sigil and closes
each of its opening markers is whole.
-/

namespace SqlTemplate

namespace Split

/-- A cut that neither cutting again nor what follows can change. -/
structure Closed (sigil : Char) (s : Split) : Prop where
  settled : s.Settled sigil
  unescaped : s.Unescaped
  literal : ¬ [sigil, '\x7b'] <:+: s.tail.getD []
  sigil_last : (s.tail.getD []).getLast? ≠ some sigil
  backslash_last : (s.tail.getD []).getLast? ≠ some '\\'

/-- Two cuts one after the other, the literals where they meet joined. -/
def append (s s' : Split) : Split :=
  match s'.spans with
  | [] => ⟨s.spans, some (s.tail.getD [] ++ s'.tail.getD [])⟩
  | span :: rest => ⟨s.spans ++ ⟨s.tail.getD [] ++ span.lead, span.content⟩ :: rest, s'.tail⟩

variable {sigil : Char} {s s' : Split}

theorem toChars_append (m : Markers) (s s' : Split) :
    (s.append s').toChars m = s.toChars m ++ s'.toChars m := by
  obtain ⟨spans', tail'⟩ := s'
  cases spans' <;> simp [append, toChars]

theorem contents_append (s s' : Split) :
    (s.append s').contents = s.contents ++ s'.contents := by
  obtain ⟨spans', tail'⟩ := s'
  cases spans' <;> simp [append, contents]

theorem join_append (f : String → String) (s s' : Split) :
    (s.append s').join f = s.join f ++ s'.join f := by
  obtain ⟨spans', tail'⟩ := s'
  cases spans' <;> simp [append, join, String.append_assoc]

/-- A pair that is in neither of two texts is in both together only where they meet. -/
theorem not_infix_append {a b : Char} {u v : List Char} (hu : ¬ [a, b] <:+: u)
    (hv : ¬ [a, b] <:+: v) (hlast : u.getLast? ≠ some a) : ¬ [a, b] <:+: u ++ v := by
  induction u with
  | nil => exact hv
  | cons c u ih =>
    rw [List.infix_cons_iff, not_or] at hu
    rw [List.cons_append, List.infix_cons_iff, not_or]
    cases u with
    | nil =>
      refine ⟨fun h => ?_, hv⟩
      rw [List.cons_prefix_cons] at h
      exact hlast (by rw [h.1]; rfl)
    | cons d u =>
      refine ⟨fun h => hu.1 ?_, ih hu.2 (by rwa [List.getLast?_cons_cons] at hlast)⟩
      simpa using h

theorem getLast?_append_ne {c : Char} {u v : List Char} (hu : u.getLast? ≠ some c)
    (hv : v.getLast? ≠ some c) : (u ++ v).getLast? ≠ some c := by
  rw [List.getLast?_append]
  cases h : v.getLast? with
  | none => exact hu
  | some d => rwa [h] at hv

theorem Closed.append (h : s.Closed sigil) (h' : s'.Closed sigil) :
    (s.append s').Closed sigil := by
  obtain ⟨spans', tail'⟩ := s'
  cases spans' with
  | nil =>
    have hliteral := not_infix_append h.literal h'.literal h.sigil_last
    refine ⟨⟨h.settled.lead, h.settled.content, ofChars_of_literal hliteral⟩,
      ⟨h.unescaped.lead, h.unescaped.content, rfl⟩, hliteral, ?_, ?_⟩
    · exact getLast?_append_ne h.sigil_last h'.sigil_last
    · exact getLast?_append_ne h.backslash_last h'.backslash_last
  | cons span rest =>
    obtain ⟨hlead, hleads⟩ := List.forall_mem_cons.1 h'.settled.lead
    obtain ⟨hcontent, hcontents⟩ := List.forall_mem_cons.1 h'.settled.content
    obtain ⟨hlead', hleads'⟩ := List.forall_mem_cons.1 h'.unescaped.lead
    obtain ⟨hcontent', hcontents'⟩ := List.forall_mem_cons.1 h'.unescaped.content
    refine ⟨⟨?_, ?_, h'.settled.tail⟩, ⟨?_, ?_, h'.unescaped.tail⟩, h'.literal, h'.sigil_last,
      h'.backslash_last⟩
    · exact List.forall_mem_append.2 ⟨h.settled.lead, List.forall_mem_cons.2
        ⟨not_infix_append h.literal hlead h.sigil_last, hleads⟩⟩
    · exact List.forall_mem_append.2 ⟨h.settled.content, List.forall_mem_cons.2
        ⟨hcontent, hcontents⟩⟩
    · exact List.forall_mem_append.2 ⟨h.unescaped.lead, List.forall_mem_cons.2
        ⟨getLast?_append_ne h.backslash_last hlead', hleads'⟩⟩
    · exact List.forall_mem_append.2 ⟨h.unescaped.content, List.forall_mem_cons.2
        ⟨hcontent', hcontents'⟩⟩

end Split

/-! ## Whole texts -/

/-- A text whose cut is closed and drops nothing. -/
structure Whole (sigil : Char) (text : List Char) : Prop where
  closed : (Split.ofChars (.braced sigil) text).Closed sigil
  toChars_eq : (Split.ofChars (.braced sigil) text).toChars (.braced sigil) = text

namespace Whole

variable {sigil : Char} {text text' : List Char}

theorem of_closed {s : Split} (hsigil : sigil ≠ '\x7b') (h : s.Closed sigil) :
    Whole sigil (s.toChars (.braced sigil)) ∧
      Split.ofChars (.braced sigil) (s.toChars (.braced sigil)) = s := by
  have hcut := Split.ofChars_toChars hsigil h.settled h.unescaped
  exact ⟨⟨by rwa [hcut], by rw [hcut]⟩, hcut⟩

/-- **Whole texts are cut one by one.** -/
theorem ofChars_append (hsigil : sigil ≠ '\x7b') (h : Whole sigil text) (h' : Whole sigil text') :
    Whole sigil (text ++ text') ∧
      Split.ofChars (.braced sigil) (text ++ text') =
        (Split.ofChars (.braced sigil) text).append (Split.ofChars (.braced sigil) text') := by
  have hjoined := of_closed hsigil (h.closed.append h'.closed)
  rwa [Split.toChars_append, h.toChars_eq, h'.toChars_eq] at hjoined

end Whole

/-! ## Plain texts -/

/-- No backslash, no sigil at the end, and every opening marker is closed within the text. -/
structure Plain (sigil : Char) (text : List Char) : Prop where
  backslash : '\\' ∉ text
  last : text.getLast? ≠ some sigil
  closes : ∀ rest ∈ text.tails, [sigil, '\x7b'] <+: rest → '\x7d' ∈ rest

instance (sigil : Char) (text : List Char) : Decidable (Plain sigil text) :=
  decidable_of_iff ('\\' ∉ text ∧ text.getLast? ≠ some sigil ∧
      ∀ rest ∈ text.tails, [sigil, '\x7b'] <+: rest → '\x7d' ∈ rest)
    ⟨fun h => ⟨h.1, h.2.1, h.2.2⟩, fun h => ⟨h.backslash, h.last, h.closes⟩⟩

namespace Plain

variable {sigil : Char} {text : List Char}

/-- An opening marker at the end of a text without backslashes makes a span if it is closed. -/
theorem spans_ne_nil {tail : List Char} (hsigil : sigil ≠ '\x7b') (hbackslash : '\\' ∉ tail)
    (hopening : [sigil, '\x7b'] <:+: tail)
    (hcloses : ∀ rest, sigil :: '\x7b' :: rest <:+ tail → '\x7d' ∈ rest) :
    (Split.ofChars (.braced sigil) tail).spans ≠ [] := by
  rcases Split.exists_opening sigil tail with hnone | ⟨w, rest, rfl, hw⟩
  · exact absurd hopening hnone
  · have hrest := hcloses rest (List.suffix_append _ _)
    obtain ⟨content, after, rfl, hcontent⟩ := List.eq_append_cons_of_mem hrest
    rw [List.mem_append, List.mem_cons, List.mem_cons, List.mem_append, not_or, not_or, not_or,
      not_or] at hbackslash
    obtain ⟨hw', -, -, hcontent', -⟩ := hbackslash
    have hclose : Split.content? (.braced sigil : Markers).closing [] []
        (content ++ '\x7d' :: after) = some (content, after) := by
      rw [Split.content?_append hcontent, Split.content?_close]
      · simp
      · intro h
        exact hcontent' (List.mem_reverse.1 (List.mem_of_head? (by simpa using h)))
    rw [Split.ofChars_of_opening hsigil hw, Split.ofCharsFrom_open _ hclose]
    · simp [Split.cons]
    · intro h
      exact hw' (List.mem_reverse.1 (List.mem_of_head? (by simpa using h)))

/-- **A plain text is whole.** -/
theorem whole (hsigil : sigil ≠ '\x7b') (hsigil' : sigil ≠ '\x7d') (h : Plain sigil text) :
    Whole sigil text := by
  have hcount : (Split.ofChars (.braced sigil) text).backslashes = text.count '\\' := by
    have hzero : text.count '\\' = 0 := List.count_eq_zero_of_not_mem h.backslash
    have hle := Split.backslashes_ofChars_le (.braced sigil) text
    omega
  obtain ⟨hsettled, htext⟩ := Split.settled_of_backslashes_eq hsigil hcount
  have hsuffix : (Split.ofChars (.braced sigil) text).tail.getD [] <:+ text := ⟨_, htext⟩
  refine ⟨⟨hsettled, Split.unescaped_ofChars rfl rfl text, fun hopening => ?_, fun hlast => ?_,
    fun hlast => ?_⟩, htext⟩
  · refine spans_ne_nil hsigil (fun hmem => h.backslash (hsuffix.mem hmem)) hopening ?_
      (congrArg Split.spans hsettled.tail)
    intro rest hrest
    have := h.closes _ ((List.mem_tails _ _).2 (hrest.trans hsuffix)) (by simp)
    simpa [hsigil'.symm] using this
  · obtain ⟨before, hbefore⟩ := hsuffix
    refine h.last ?_
    rw [← hbefore, List.getLast?_append, hlast, Option.some_or]
  · exact h.backslash (hsuffix.mem (List.mem_of_getLast? hlast))

end Plain

end SqlTemplate
