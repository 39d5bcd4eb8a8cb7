import SqlTemplate.Proofs.Span.Bytes

/-!
# Markers that tear a cut

A cut tears at an opening marker that stands right behind a marker ending in a backslash. Of the two
markers, the closing one tears (`Markers.Tears`) if it ends in a backslash, and the opening one if
it does and is not made of backslashes only. What stands before an opening marker of backslashes
never ends in a backslash, since the marker would have been found one place earlier; so such a
marker is never escaped, and no scanning goes on behind it in a literal.

**Theorem (`scan_in_order_iff`).** For all opening and closing texts, scanning asks every text only
for what is there, and comes to what replacing comes to, exactly if one of them is empty or no
marker tears. A text that it goes wrong for has an opening marker right behind a marker that ends in
a backslash. That backslash is taken for an escape although it has been passed already: after the
calls of the handler that the cut has before that place, a slice is asked for that ends before it
starts. Nothing else ever goes wrong.
-/

namespace SqlTemplate

/-! ## Opening markers of backslashes -/

namespace Marker

variable {m : Marker} {v w after : List Char}

theorem Leads.of_append (h : m.Leads (v ++ w) after) : m.Leads w after := by
  induction v with
  | nil => exact h
  | cons c v ih =>
    cases h with
    | skip hc h => exact ih h

/-- A marker of backslashes starts one place earlier, too, where there is a backslash. -/
theorem strip?_backslash (hm : ∀ c ∈ m.chars, c = '\\') (after : List Char) :
    m.strip? '\\' (m.chars ++ after) = some ('\\' :: after) := by
  obtain ⟨hfirst, hmore⟩ := List.forall_mem_cons.1 hm
  have hrotate : m.chars = m.more ++ ['\\'] := by
    rw [chars, hfirst, List.eq_replicate_of_mem hmore, ← List.replicate_succ,
      List.replicate_succ']
  rw [strip?, if_pos hfirst.symm, Text.after?_eq_some_iff, hrotate, List.append_assoc]
  rfl

theorem Leads.exists_ne_backslash (h : m.Leads w after) (hlast : w.getLast? = some '\\') :
    ∃ c ∈ m.chars, c ≠ '\\' := by
  obtain ⟨v, rfl⟩ := List.getLast?_eq_some_iff.1 hlast
  by_contra hall
  have hm : ∀ c ∈ m.chars, c = '\\' := by simpa using hall
  cases h.of_append with
  | skip hc _ =>
    rw [List.nil_append, strip?_backslash hm] at hc
    cases hc

/-- A text that starts one place earlier, too, consists of one character. -/
theorem eq_of_cons_append {c : Char} {u after rest : List Char}
    (h : c :: (u ++ after) = u ++ rest) : ∀ d ∈ u, d = c := by
  induction u generalizing c with
  | nil => simp
  | cons d u ih =>
    rw [List.cons_append, List.cons_append, List.cons.injEq] at h
    obtain ⟨rfl, h⟩ := h
    exact List.forall_mem_cons.2 ⟨rfl, ih h⟩

theorem leads_backslash (h : ∃ c ∈ m.chars, c ≠ '\\') (after : List Char) :
    m.Leads ['\\'] after := by
  refine .skip ?_ .here
  obtain ⟨c, hc, hne⟩ := h
  rw [List.nil_append, Option.eq_none_iff_forall_ne_some]
  intro rest hrest
  exact hne (eq_of_cons_append (eq_append_of_strip? hrest) c hc)

end Marker

/-! ## Markers that tear -/

namespace Markers

/-- A marker behind which an opening marker can look escaped. -/
structure Tears (m : Markers) (marker : Marker) : Prop where
  endsInBackslash : marker.endsInBackslash
  consumed : marker = m.closing ∨ marker = m.opening ∧ ∃ c ∈ m.opening.chars, c ≠ '\\'

variable {m : Markers} {opening closing : String}

theorem forall_not_tears_iff : (∀ marker, ¬ m.Tears marker) ↔
    m.closing.endsInBackslash = false ∧
      (m.opening.endsInBackslash → ∀ c ∈ m.opening.chars, c = '\\') := by
  constructor
  · intro h
    refine ⟨Bool.eq_false_iff.2 fun hend => h _ ⟨hend, .inl rfl⟩, fun hend c hc => ?_⟩
    by_contra hne
    exact h _ ⟨hend, .inr ⟨rfl, c, hc, hne⟩⟩
  · rintro ⟨hclosing, hopening⟩ marker ⟨hend, rfl | ⟨rfl, c, hc, hne⟩⟩
    · exact Bool.false_ne_true (hclosing.symm.trans hend)
    · exact hne (hopening hend c hc)

theorem ofStrings?_eq_none_iff :
    ofStrings? opening closing = none ↔ opening = "" ∨ closing = "" := by
  rw [← String.toList_eq_nil_iff, ← String.toList_eq_nil_iff, ofStrings?]
  split
  · next ho hc => simp [ho, hc]
  · next h =>
    cases hopening : opening.toList with
    | nil => simp
    | cons o os =>
      cases hclosing : closing.toList with
      | nil => simp
      | cons c cs => exact absurd hclosing (h o os c cs hopening)

theorem toList_of_ofStrings? (h : ofStrings? opening closing = some m) :
    opening.toList = m.opening.chars ∧ closing.toList = m.closing.chars := by
  rw [ofStrings?] at h
  split at h
  · next ho hc =>
    cases h
    exact ⟨ho, hc⟩
  · cases h

end Markers

namespace Split

variable {m : Markers} {stuck : Bool}

/-- A text in which an opening marker stands right behind a marker that tears. -/
def TearsIn (m : Markers) (text : List Char) : Prop :=
  ∃ marker before after, m.Tears marker ∧
    text = before ++ marker.chars ++ (m.opening.chars ++ after)

/-- A cut that tears after a span tears in the text after it. -/
theorem exists_of_torn_span {seen run after : List Char} (hrun : run.head? ≠ some '\\')
    (hstuck : run = [] → stuck = false)
    (h : (ofCharsFrom m seen run stuck (m.opening.chars ++ after)).tail = none) :
    ∃ body after', after = body ++ (m.closing.chars ++ after') ∧
      (ofCharsFrom m [] [] m.closing.endsInBackslash after').tail = none := by
  rw [ofCharsFrom_at_marker hrun hstuck] at h
  rcases Scan.content_cases m.closing [] [] after 0 rfl with
    ⟨hcontent, -⟩ | ⟨content, body, after', hafter, hcontent, -⟩
  · rw [List.reverse_nil] at hcontent
    rw [hcontent] at h
    cases h
  · rw [List.reverse_nil] at hcontent
    rw [hcontent] at h
    exact ⟨body, after', hafter, h⟩

/-- `pre` is the text up to the last marker; `stuck` may be set only if that marker tears. -/
theorem tearsIn_of_ofCharsFrom (pre : List Char) {rest : List Char}
    (hstuck : stuck = true → ∃ before marker, m.Tears marker ∧ pre = before ++ marker.chars)
    (seen : List Char) (h : (ofCharsFrom m seen [] stuck rest).tail = none) :
    TearsIn m (pre ++ rest) := by
  induction hn : rest.length using Nat.strongRecOn generalizing pre seen stuck rest with
  | ind n ih =>
    cases hfind : m.opening.find? rest with
    | none =>
      have hcut := (skips_ofCharsFrom m seen stuck).of_find?_eq_none hfind []
      rw [hcut, ofCharsFrom] at h
      cases h
    | some i =>
      obtain ⟨w, after, rfl, hw⟩ := Marker.exists_leads hfind
      rw [Scan.ofCharsFrom_of_leads hw] at h
      have hpos := m.opening.length_chars_pos
      have hlength : after.length < n := by rw [← hn]; simp; omega
      by_cases hlast : w.getLast? = some '\\'
      · obtain ⟨v, rfl⟩ := List.getLast?_eq_some_iff.1 hlast
        rw [List.reverse_append, List.reverse_singleton, List.singleton_append,
          ofCharsFrom_at_escaped] at h
        have htears := ih after.length hlength (pre ++ (v ++ ['\\']) ++ m.opening.chars)
          (fun hend => ⟨_, m.opening, ⟨hend, .inr ⟨rfl, hw.exists_ne_backslash hlast⟩⟩, rfl⟩)
          _ h rfl
        simpa using htears
      · by_cases htorn : w = [] ∧ stuck = true
        · obtain ⟨rfl, rfl⟩ := htorn
          obtain ⟨before, marker, hmarker, rfl⟩ := hstuck rfl
          exact ⟨marker, before, after, hmarker, rfl⟩
        · obtain ⟨body, after', rfl, hafter⟩ :=
            exists_of_torn_span (by simpa using hlast) (by simpa using htorn) h
          have hlength' : after'.length < n := by
            simp only [List.length_append] at hlength
            omega
          have htears := ih after'.length hlength'
            (pre ++ w ++ m.opening.chars ++ body ++ m.closing.chars)
            (fun hend => ⟨_, m.closing, ⟨hend, .inl rfl⟩, rfl⟩) [] hafter rfl
          simpa using htears

/-- **A cut tears behind a marker that tears.** -/
theorem tearsIn_of_isTorn {text : List Char} (h : (ofChars m text).isTorn) : TearsIn m text := by
  rw [isTorn, Option.isNone_iff_eq_none] at h
  exact tearsIn_of_ofCharsFrom [] (fun hstuck => absurd hstuck Bool.false_ne_true) [] h

/-- Every marker that tears does so in some text. -/
theorem exists_isTorn {marker : Marker} (h : m.Tears marker) :
    ∃ text, (ofChars m text).isTorn := by
  obtain ⟨hend, rfl | ⟨rfl, hother⟩⟩ := h
  · refine ⟨m.opening.chars ++ (m.closing.chars ++ (m.opening.chars ++ [])), ?_⟩
    have hrun : ([] : List Char).head? ≠ some '\\' := by simp
    have hstuck : ([] : List Char) = [] → false = false := fun _ => rfl
    have hcontent : content? m.closing [] [] (m.closing.chars ++ (m.opening.chars ++ [])) =
        some ([], m.opening.chars ++ []) := content?_at_marker hrun [] _
    rw [isTorn, ofChars, ofCharsFrom_at_marker hrun hstuck, hcontent, hend]
    simp only [cons, ofCharsFrom_at_torn, Option.isNone_none]
  · refine ⟨['\\'] ++ (m.opening.chars ++ (m.opening.chars ++ [])), ?_⟩
    have hleads := Marker.leads_backslash hother (m.opening.chars ++ [])
    rw [isTorn, ofChars, Scan.ofCharsFrom_of_leads hleads, List.reverse_singleton,
      ofCharsFrom_at_escaped, hend, ofCharsFrom_at_torn]
    rfl

end Split

/-! ## Scanning in order -/

namespace ByteScan

variable {opening closing text : String} {m : Markers}

/-- What scanning comes to when all that it asks the text for is there. -/
def replaced {M : Type → Type} [Monad M] (opening closing : String) (handler : String → M String)
    (text : String) : M String :=
  match Markers.ofStrings? opening closing with
  | none => return text
  | some markers => markers.replaceM handler text

/-- Whatever the handler does, scanning asks the text only for what is there. -/
def InOrder (opening closing text : String) : Prop :=
  ∀ (M : Type → Type) [Monad M] [LawfulMonad M] (handler : String → M String),
    scan opening closing handler text = Except.ok <$> replaced opening closing handler text

/-- Whatever the handler does, scanning asks for a slice whose places are in the wrong order, after
the handler has been called on the contents before it. -/
def RunsBack (opening closing text : String) : Prop :=
  ∃ m, Markers.ofStrings? opening closing = some m ∧
    ∀ (M : Type → Type) [Monad M] [LawfulMonad M] (handler : String → M String),
      scan opening closing handler text =
        (fun _ => Except.error .backwards) <$> (m.split text).contents.mapM handler

theorem inOrder_of_none (h : Markers.ofStrings? opening closing = none) (text : String) :
    InOrder opening closing text := by
  intro M _ _ handler
  simp only [scan, replaced, h, map_pure]

theorem inOrder_of_not_isTorn (h : Markers.ofStrings? opening closing = some m)
    (htorn : ¬ (m.split text).isTorn) : InOrder opening closing text := by
  intro M _ _ handler
  obtain ⟨tail, htail⟩ : ∃ tail, (m.split text).tail = some tail := by
    simpa [Split.isTorn, Option.eq_none_iff_forall_ne_some] using htorn
  rw [scan_eq m handler h, m.scanM_eq, replaced, h]
  simp only [Markers.replaceM, Split.joinM_eq, Functor.map_map]
  refine congrArg (· <$> _) (funext fun texts => ?_)
  rw [Scan.filled, htail, Option.map_some, String.empty_append]
  rfl

theorem runsBack_of_isTorn (h : Markers.ofStrings? opening closing = some m)
    (htorn : (m.split text).isTorn) : RunsBack opening closing text := by
  refine ⟨m, h, fun M _ _ handler => ?_⟩
  rw [Split.isTorn, Option.isNone_iff_eq_none] at htorn
  rw [scan_eq m handler h, m.scanM_eq, Functor.map_map]
  refine congrArg (· <$> _) (funext fun texts => ?_)
  rw [Scan.filled, htorn]
  rfl

theorem not_inOrder_of_runsBack (h : RunsBack opening closing text) :
    ¬ InOrder opening closing text := by
  intro horder
  obtain ⟨m, -, hback⟩ := h
  have hresult := (horder Id pure).symm.trans (hback Id pure)
  cases hresult

theorem inOrder_or_runsBack (opening closing text : String) :
    InOrder opening closing text ∨ RunsBack opening closing text := by
  cases hm : Markers.ofStrings? opening closing with
  | none => exact .inl (inOrder_of_none hm text)
  | some m =>
    by_cases htorn : (m.split text).isTorn
    · exact .inr (runsBack_of_isTorn hm htorn)
    · exact .inl (inOrder_of_not_isTorn hm htorn)

theorem RunsBack.exists_marker (h : RunsBack opening closing text) :
    ∃ marker before after, (marker = opening ∨ marker = closing) ∧
      marker.toList.getLast? = some '\\' ∧ text = before ++ marker ++ (opening ++ after) := by
  have ⟨m, hm, _⟩ := h
  have htorn : (m.split text).isTorn := by
    by_contra htorn
    exact not_inOrder_of_runsBack h (inOrder_of_not_isTorn hm htorn)
  obtain ⟨hopening, hclosing⟩ := Markers.toList_of_ofStrings? hm
  obtain ⟨marker, before, after, ⟨hend, hmarker⟩, htext⟩ := Split.tearsIn_of_isTorn htorn
  refine ⟨String.ofList marker.chars, String.ofList before, String.ofList after, ?_, ?_, ?_⟩
  · rcases hmarker with rfl | ⟨rfl, -⟩
    · exact .inr (by rw [← hclosing, String.ofList_toList])
    · exact .inl (by rw [← hopening, String.ofList_toList])
  · rw [String.toList_ofList]
    exact beq_iff_eq.1 hend
  · rw [← hopening] at htext
    rw [← String.toList_inj, htext]
    simp

theorem forall_inOrder_iff (h : Markers.ofStrings? opening closing = some m) :
    (∀ text, InOrder opening closing text) ↔ ∀ marker, ¬ m.Tears marker := by
  constructor
  · intro horder marker htears
    obtain ⟨text, htorn⟩ := Split.exists_isTorn htears
    refine not_inOrder_of_runsBack (runsBack_of_isTorn h ?_) (horder (String.ofList text))
    rwa [Markers.split, String.toList_ofList]
  · intro hnone text
    refine inOrder_of_not_isTorn h fun htorn => ?_
    obtain ⟨marker, -, -, htears, -⟩ := Split.tearsIn_of_isTorn htorn
    exact hnone marker htears

end ByteScan

open ByteScan (InOrder RunsBack)

/-- **Which markers scan every text in order.** With an empty marker there is nothing to do. Else
the closing marker must not end in a backslash, nor the opening one unless it is made of
backslashes. For other markers a text that is not scanned in order has an opening marker right
behind a marker that ends in a backslash, and what goes wrong is the order of the two places of a
slice. -/
theorem scan_in_order_iff (opening closing : String) :
    ((∀ text, InOrder opening closing text) ↔
      opening = "" ∨ closing = "" ∨ closing.toList.getLast? ≠ some '\\' ∧
        (opening.toList.getLast? = some '\\' → ∀ c ∈ opening.toList, c = '\\')) ∧
    ∀ text, InOrder opening closing text ∨ RunsBack opening closing text ∧
      ∃ marker before after, (marker = opening ∨ marker = closing) ∧
        marker.toList.getLast? = some '\\' ∧ text = before ++ marker ++ (opening ++ after) := by
  constructor
  · rw [← or_assoc, ← Markers.ofStrings?_eq_none_iff]
    cases hm : Markers.ofStrings? opening closing with
    | none => exact iff_of_true (ByteScan.inOrder_of_none hm) (.inl rfl)
    | some m =>
      obtain ⟨hopening, hclosing⟩ := Markers.toList_of_ofStrings? hm
      rw [ByteScan.forall_inOrder_iff hm, Markers.forall_not_tears_iff, hopening, hclosing]
      simp [Marker.endsInBackslash]
  · intro text
    refine (ByteScan.inOrder_or_runsBack opening closing text).imp_right fun hback => ?_
    exact ⟨hback, hback.exists_marker⟩

/-- The closing marker is a backslash. The second brace opens a span, but the backslash that closes
the first one is taken for an escape, and the slice from 2 to 1 is asked for. -/
theorem scan_back_into_closing_marker :
    let text := "\x7b\\\x7b\\"
    let handler : String → Id String := fun content => "[" ++ content ++ "]"
    Id.run (ByteScan.scan "\x7b" "\\" handler text) = .error .backwards ∧
      Text.byteSlice text.toList 2 1 = .error .backwards ∧
      ¬ InOrder "\x7b" "\\" text := by
  intro text handler
  have hback : Id.run (ByteScan.scan "\x7b" "\\" handler text) = .error .backwards := by
    decide +kernel
  refine ⟨hback, by decide, fun horder => ?_⟩
  cases hback.symm.trans (horder Id handler)

end SqlTemplate
