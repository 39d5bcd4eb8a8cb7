import SqlTemplate.Proofs.Span.EscapeFree
import SqlTemplate.Proofs.Span.Opening

/-!
# Texts with their contents enclosed again

Put every content of a text between its markers again. `Unescapes` says, without mention of cuts,
what becomes of a text that is read to its end: literals stay, an escaped opening marker and the
escaped closing markers of a span lose their backslashes.

**Theorem (`rewrapped_only_unescapes`).** A text falls into a part that is read so and a dangling
part: an opening marker that nothing closes, with all that follows it. The former is unescaped and
the latter stays as it is. So the result is the text without some of its backslashes, each of which
stood directly before a marker; and it is the text itself if none stood there.

The proof goes from one opening marker to the next, in the text as in the relation.
-/

namespace SqlTemplate

/-! ## Deleting backslashes before markers -/

/-- A text without some of its backslashes, each of which stands directly before a marker. -/
inductive Drops (sigil : Char) : List Char → List Char → Prop
  | nil : Drops sigil [] []
  | keep {text out : List Char} (c : Char) (h : Drops sigil text out) :
      Drops sigil (c :: text) (c :: out)
  | drop {text out : List Char} (hmarker : [sigil, '\x7b'] <+: text ∨ ['\x7d'] <+: text)
      (h : Drops sigil text out) : Drops sigil ('\\' :: text) out

namespace Drops

variable {sigil : Char} {text text' out out' : List Char}

theorem refl (sigil : Char) (text : List Char) : Drops sigil text text := by
  induction text with
  | nil => exact .nil
  | cons c text ih => exact .keep c ih

theorem append (h : Drops sigil text out) (h' : Drops sigil text' out') :
    Drops sigil (text ++ text') (out ++ out') := by
  induction h with
  | nil => exact h'
  | keep c _ ih => exact .keep c ih
  | drop hmarker _ ih =>
    refine .drop ?_ ih
    exact hmarker.imp (·.trans (List.prefix_append _ _)) (·.trans (List.prefix_append _ _))

/-- The same before both. -/
theorem append_left (w : List Char) (h : Drops sigil text out) :
    Drops sigil (w ++ text) (w ++ out) := (refl sigil w).append h

end Drops

/-! ## The contents of spans -/

/-- What a content becomes in which each closing marker is escaped. -/
inductive Content : List Char → List Char → Prop
  | plain {w : List Char} (hw : '\x7d' ∉ w) : Content w w
  | escaped {w text out : List Char} (hw : '\x7d' ∉ w) (h : Content text out) :
      Content (w ++ '\\' :: '\x7d' :: text) (w ++ '\x7d' :: out)

/-- No closing marker in a text closes a span: each stands directly after a backslash. -/
def Unclosed (text : List Char) : Prop :=
  ∀ before after, text = before ++ '\x7d' :: after → before.getLast? = some '\\'

theorem Content.drops {sigil : Char} {text out : List Char} (h : Content text out) :
    Drops sigil text out := by
  induction h with
  | plain => exact .refl sigil _
  | escaped _ _ ih => exact .append_left _ (.drop (.inr (by simp)) (.keep _ ih))

theorem unclosed_of_not_mem {text : List Char} (h : '\x7d' ∉ text) : Unclosed text := by
  rintro before after rfl
  simp at h

theorem Unclosed.escaped {w text : List Char} (hw : '\x7d' ∉ w) (h : Unclosed text) :
    Unclosed (w ++ '\\' :: '\x7d' :: text) := by
  intro before after heq
  rw [← List.singleton_append, ← List.append_assoc] at heq
  rcases List.append_eq_append_iff.1 heq with ⟨more, rfl, hmore⟩ | ⟨more, hmore, hmore'⟩
  · cases more with
    | nil => simp
    | cons c more =>
      rw [List.cons_append, List.cons.injEq] at hmore
      obtain ⟨rfl, hmore⟩ := hmore
      have hlast := h more after hmore
      simp [List.getLast?_append, List.getLast?_cons, hlast]
  · cases more with
    | nil =>
      rw [List.append_nil] at hmore
      rw [← hmore]
      simp
    | cons c more =>
      rw [List.cons_append, List.cons.injEq] at hmore'
      obtain ⟨rfl, -⟩ := hmore'
      have hmem : '\x7d' ∈ w ++ ['\\'] := by rw [hmore]; simp
      simp [hw] at hmem

/-- After an opening marker, either nothing closes the span or something does. -/
theorem unclosed_or_closed (text : List Char) :
    Unclosed text ∧ (∃ out, Content text out) ∨
      ∃ body out after, text = body ++ '\x7d' :: after ∧ Content body out ∧
        body.getLast? ≠ some '\\' := by
  induction hn : text.length using Nat.strongRecOn generalizing text with
  | ind n ih =>
    by_cases hmem : '\x7d' ∈ text
    · obtain ⟨w, rest, rfl, hw⟩ := List.eq_append_cons_of_mem hmem
      by_cases hlast : w.getLast? = some '\\'
      · obtain ⟨w, rfl⟩ := List.getLast?_eq_some_iff.1 hlast
        have hw : '\x7d' ∉ w := fun h => hw (List.mem_append_left _ h)
        rw [List.append_assoc, List.singleton_append]
        rcases ih rest.length (by simp at hn; omega) rest rfl with
          ⟨hrest, out, hout⟩ | ⟨body, out, after, rfl, hbody, hlast'⟩
        · exact .inl ⟨hrest.escaped hw, _, .escaped hw hout⟩
        · refine .inr ⟨w ++ '\\' :: '\x7d' :: body, w ++ '\x7d' :: out, after, by simp,
            .escaped hw hbody, ?_⟩
          cases hend : body.getLast? <;> simp_all [List.getLast?_append, List.getLast?_cons]
      · exact .inr ⟨w, w, rest, rfl, .plain hw, hlast⟩
    · exact .inl ⟨unclosed_of_not_mem hmem, text, .plain hmem⟩

namespace Split

variable {sigil : Char} {text out body content rest after : List Char}

/-- A content up to a closing marker that is not escaped. -/
theorem content?_of_closed (h : Content body out) (hlast : body.getLast? ≠ some '\\')
    (seen after : List Char) :
    content? (.braced sigil : Markers).closing seen [] (body ++ '\x7d' :: after) =
      some (seen.reverse ++ out, after) := by
  induction h generalizing seen with
  | @plain w hw =>
    rw [content?_append hw, content?_close (by simpa using hlast)]
    simp
  | @escaped w text out hw h ih =>
    have hlast' : text.getLast? ≠ some '\\' := by
      cases hend : text.getLast? <;> simp_all [List.getLast?_append, List.getLast?_cons]
    rw [List.append_assoc, content?_append hw, List.cons_append, List.cons_append,
      content?_cons (by decide), content?_escaped, ih hlast']
    simp

/-- Where nothing closes a span there is no content. -/
theorem content?_of_unclosed (h : Content text out) (seen : List Char) :
    content? (.braced sigil : Markers).closing seen [] text = none := by
  induction h generalizing seen with
  | @plain w hw =>
    have hend : content? (.braced sigil : Markers).closing seen [] (w ++ []) = none := by
      rw [content?_append hw, content?]
    rwa [List.append_nil] at hend
  | @escaped w text out hw h ih =>
    rw [content?_append hw, content?_cons (by decide), content?_escaped, ih]

end Split

/-! ## Texts that are read to their end -/

/-- What becomes of a text whose opening markers are all escaped or closed, when its contents are
enclosed again. -/
inductive Unescapes (sigil : Char) : List Char → List Char → Prop
  | literal {w : List Char} (hw : ¬ [sigil, '\x7b'] <:+: w) : Unescapes sigil w w
  | escaped {w text out : List Char} (hw : ¬ [sigil, '\x7b'] <:+: w)
      (h : Unescapes sigil text out) :
      Unescapes sigil (w ++ '\\' :: sigil :: '\x7b' :: text) (w ++ sigil :: '\x7b' :: out)
  | span {w body content text out : List Char} (hw : ¬ [sigil, '\x7b'] <:+: w)
      (hlast : w.getLast? ≠ some '\\') (hbody : Content body content)
      (hbody' : body.getLast? ≠ some '\\') (h : Unescapes sigil text out) :
      Unescapes sigil (w ++ sigil :: '\x7b' :: (body ++ '\x7d' :: text))
        (w ++ sigil :: '\x7b' :: (content ++ '\x7d' :: out))

/-- After `before`, which is read to its end, comes nothing or a dangling part: an opening marker
that is not escaped and that nothing closes. -/
def Dangles (sigil : Char) (before tail : List Char) : Prop :=
  tail = [] ∨ ∃ rest, tail = sigil :: '\x7b' :: rest ∧ before.getLast? ≠ some '\\' ∧
    Unclosed rest

theorem Unescapes.drops {sigil : Char} {text out : List Char} (h : Unescapes sigil text out) :
    Drops sigil text out := by
  induction h with
  | literal => exact .refl sigil _
  | escaped _ _ ih => exact .append_left _ (.drop (.inl (by simp)) (.keep _ (.keep _ ih)))
  | span _ _ hbody _ _ ih =>
    exact .append_left _ (.keep _ (.keep _ (hbody.drops.append (.keep _ ih))))

section read

variable {sigil : Char} {text before out tail rest : List Char}

theorem Unclosed.content?_eq_none (h : Unclosed rest) :
    Split.content? (.braced sigil : Markers).closing [] [] rest = none := by
  rcases unclosed_or_closed rest with ⟨-, out, hout⟩ | ⟨body, out, after, rfl, -, hlast⟩
  · exact Split.content?_of_unclosed hout []
  · exact absurd (h body after rfl) hlast

/-- A dangling part dangles after the end of what comes before it. -/
theorem Dangles.of_append {w : List Char} (h : Dangles sigil (w ++ before) tail) :
    Dangles sigil before tail := by
  refine h.imp_right ?_
  rintro ⟨rest, rfl, hlast, hrest⟩
  refine ⟨rest, rfl, fun hend => hlast ?_, hrest⟩
  rw [List.getLast?_append, hend, Option.some_or]

theorem Dangles.append_cons {w : List Char} {c : Char} (hc : c ≠ '\\')
    (h : Dangles sigil before tail) : Dangles sigil (w ++ c :: before) tail := by
  refine h.imp_right ?_
  rintro ⟨rest, rfl, hlast, hrest⟩
  refine ⟨rest, rfl, ?_, hrest⟩
  cases hend : before.getLast? <;> simp_all [List.getLast?_append, List.getLast?_cons]

/-- Every text is read to its end, up to a dangling part. -/
theorem exists_unescapes (sigil : Char) (text : List Char) :
    ∃ before out tail, text = before ++ tail ∧ Unescapes sigil before out ∧
      Dangles sigil before tail := by
  induction hn : text.length using Nat.strongRecOn generalizing text with
  | ind n ih =>
    rcases Split.exists_opening sigil text with hnone | ⟨w, rest, rfl, hw⟩
    · exact ⟨text, text, [], by simp, .literal hnone, .inl rfl⟩
    · by_cases hlast : w.getLast? = some '\\'
      · obtain ⟨w, rfl⟩ := List.getLast?_eq_some_iff.1 hlast
        have hw : ¬ [sigil, '\x7b'] <:+: w := fun h =>
          hw (h.trans (List.prefix_append _ _).isInfix)
        obtain ⟨before, out, tail, rfl, hbefore, htail⟩ :=
          ih rest.length (by simp at hn; omega) rest rfl
        refine ⟨w ++ '\\' :: sigil :: '\x7b' :: before, w ++ sigil :: '\x7b' :: out, tail,
          by simp, .escaped hw hbefore, ?_⟩
        have hdangles := htail.append_cons (w := w ++ ['\\', sigil]) (c := '\x7b') (by decide)
        simpa using hdangles
      · rcases unclosed_or_closed rest with ⟨hrest, -⟩ | ⟨body, content, after, rfl, hbody, hbody'⟩
        · exact ⟨w, w, _, rfl, .literal hw, .inr ⟨rest, rfl, hlast, hrest⟩⟩
        · obtain ⟨before, out, tail, rfl, hbefore, htail⟩ :=
            ih after.length (by simp at hn; omega) after rfl
          refine ⟨w ++ sigil :: '\x7b' :: (body ++ '\x7d' :: before),
            w ++ sigil :: '\x7b' :: (content ++ '\x7d' :: out), tail, by simp,
            .span hw hlast hbody hbody' hbefore, ?_⟩
          have hdangles := htail.append_cons (w := w ++ sigil :: '\x7b' :: body) (c := '\x7d')
            (by decide)
          simpa using hdangles

namespace Split

theorem toChars_prepend (m : Markers) (w : List Char) (s : Split) (htail : s.tail.isSome) :
    (s.prepend w).toChars m = w ++ s.toChars m := by
  obtain ⟨_ | ⟨span, spans⟩, tail⟩ := s
  · obtain ⟨tail, rfl⟩ := Option.isSome_iff_exists.1 htail
    rfl
  · simp [prepend, toChars]

/-- The text of the cut of a text that is read to its end, with a dangling part after it. -/
theorem toChars_of_unescapes (hsigil : sigil ≠ '\x7b') (h : Unescapes sigil before out)
    (htail : Dangles sigil before tail) :
    (ofChars (.braced sigil) (before ++ tail)).toChars (.braced sigil) = out ++ tail := by
  induction h with
  | @literal w hw =>
    rcases htail with rfl | ⟨rest, rfl, hlast, hrest⟩
    · rw [List.append_nil, ofChars_of_literal hw]
      rfl
    · rw [ofChars_of_dangling hsigil hw hlast hrest.content?_eq_none]
      rfl
  | @escaped w text out hw h ih =>
    have hescaped : OpensEscaped sigil (w ++ '\\' :: sigil :: '\x7b' :: text ++ tail) w
        (text ++ tail) := ⟨by simp, hw⟩
    have hdangles : Dangles sigil text tail :=
      Dangles.of_append (w := w ++ ['\\', sigil, '\x7b']) (by simpa using htail)
    rw [ofChars_of_escaped hsigil hescaped, toChars_prepend, ih hdangles]
    · simp
    · exact (unescaped_ofChars rfl rfl _).tail
  | @span w body content text out hw hlast hbody hbody' h ih =>
    have hdangles : Dangles sigil text tail :=
      Dangles.of_append (w := w ++ sigil :: '\x7b' :: (body ++ ['\x7d'])) (by simpa using htail)
    have hcontent : content? (.braced sigil : Markers).closing [] []
        (body ++ '\x7d' :: (text ++ tail)) = some (content, text ++ tail) :=
      content?_of_closed hbody hbody' [] _
    have htext : w ++ sigil :: '\x7b' :: (body ++ '\x7d' :: text) ++ tail =
        w ++ sigil :: '\x7b' :: (body ++ '\x7d' :: (text ++ tail)) := by simp
    rw [htext, ofChars_of_span hsigil hw hlast hcontent, toChars_cons, ih hdangles]
    simp

theorem mapContents_id (s : Split) : s.mapContents id = s := by
  simp [mapContents]

end Split

end read

/-! ## Enclosing the contents of a text again -/

namespace Markers

/-- A text with every content enclosed again. -/
def rewrap (m : Markers) (text : String) : String := m.replace m.enclose text

theorem toList_rewrap (m : Markers) (text : String) :
    (m.rewrap text).toList = (m.split text).toChars m := by
  have henclose := Split.join_enclose m id (m.split text)
  rw [Split.mapContents_id] at henclose
  rw [rewrap, replace]
  exact (congrArg String.toList henclose).trans String.toList_ofList

end Markers

open Markers (placeholder)

/-- A text without escapes stays as it is. -/
theorem rewrap_of_escapeFree {text : String} (h : EscapeFree '#' text.toList) :
    placeholder.rewrap text = text := by
  obtain ⟨s, hs⟩ : ∃ s : Split, s.Delimits '#' text.toList :=
    Split.exists_delimits (by decide) (by decide) text.toList
  have hcut : placeholder.split text = s := Split.ofChars_eq_of_delimits (by decide) h hs
  rw [← String.toList_inj, Markers.toList_rewrap, hcut]
  exact hs.toChars_eq

/-- **Enclosing contents again only unescapes.** A text falls into a part whose opening markers are
all escaped or closed, and a dangling part or nothing. Wherever it falls so, the result is what
becomes of the first part, with the dangling part as it is. It is the text without some of its
backslashes, each of which stands directly before a marker; and a text in which no backslash stands
there stays as it is. -/
theorem rewrapped_only_unescapes (text : String) :
    (∃ before out tail, text.toList = before ++ tail ∧ Unescapes '#' before out ∧
      Dangles '#' before tail) ∧
    (∀ before out tail, text.toList = before ++ tail → Unescapes '#' before out →
      Dangles '#' before tail → (placeholder.rewrap text).toList = out ++ tail) ∧
    Drops '#' text.toList (placeholder.rewrap text).toList ∧
    (EscapeFree '#' text.toList → placeholder.rewrap text = text) := by
  have hresult {before out tail : List Char} (htext : text.toList = before ++ tail)
      (hbefore : Unescapes '#' before out) (htail : Dangles '#' before tail) :
      (placeholder.rewrap text).toList = out ++ tail := by
    rw [Markers.toList_rewrap, Markers.split, htext]
    exact Split.toChars_of_unescapes (by decide) hbefore htail
  have hparts := exists_unescapes '#' text.toList
  refine ⟨hparts, fun before out tail => hresult, ?_, rewrap_of_escapeFree⟩
  obtain ⟨before, out, tail, htext, hbefore, htail⟩ := hparts
  rw [hresult htext hbefore htail, htext]
  exact hbefore.drops.append (.refl '#' tail)

/-- A marker that is escaped, a span whose content has an escaped closing marker, and a dangling
part; and a text without backslashes. -/
theorem rewrapped_only_unescapes_with_tail :
    placeholder.rewrap "\\#\x7ba#\x7bb\\\x7d\x7d #\x7bc\\\x7d" =
      "#\x7ba#\x7bb\x7d\x7d #\x7bc\\\x7d" ∧
    placeholder.rewrap "a = #\x7ba\x7d" = "a = #\x7ba\x7d" := by
  have hlit {w : List Char} (h : '#' ∉ w) : ¬ ['#', '\x7b'] <:+: w := fun hw =>
    h (hw.subset (by simp))
  refine ⟨String.toList_injective ?_, ?_⟩
  · have hcontent : Content "b\\\x7d".toList "b\x7d".toList :=
      .escaped (w := ['b']) (by decide) (.plain (w := []) (by decide))
    have hspan : Unescapes '#' "a#\x7bb\\\x7d\x7d ".toList "a#\x7bb\x7d\x7d ".toList :=
      .span (w := ['a']) (hlit (by decide)) (by decide) hcontent (by decide)
        (.literal (w := [' ']) (hlit (by decide)))
    have hmarker : Unescapes '#' "\\#\x7ba#\x7bb\\\x7d\x7d ".toList
        "#\x7ba#\x7bb\x7d\x7d ".toList := .escaped (w := []) (hlit (by decide)) hspan
    have htail : Dangles '#' "\\#\x7ba#\x7bb\\\x7d\x7d ".toList "#\x7bc\\\x7d".toList :=
      .inr ⟨"c\\\x7d".toList, rfl, by decide,
        (unclosed_of_not_mem (show '\x7d' ∉ [] by decide)).escaped (w := ['c']) (by decide)⟩
    exact (rewrapped_only_unescapes "\\#\x7ba#\x7bb\\\x7d\x7d #\x7bc\\\x7d").2.1 _ _ _
      (by decide) hmarker htail
  · exact (rewrapped_only_unescapes "a = #\x7ba\x7d").2.2.2 (by decide)

end SqlTemplate
