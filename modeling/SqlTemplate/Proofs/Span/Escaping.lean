import SqlTemplate.Proofs.Fallible
import SqlTemplate.Proofs.Span.Rescan

/-!
# Escaping the pieces of a text

Any literals and contents can be put together to a text that is cut where they meet: put a backslash
before every opening marker in a literal and before every closing marker in a content, and enclose
the contents between the markers.

**Theorem (`ofChars_escape`).** Cutting that text gives the pieces back, provided that no literal
before a span and no content ends in a backslash, which would escape the marker after it.

**Theorem (`replace_escaped`).** So whatever is put in the place of the spans stands between the
literals as it is, and is computed for each content once, from left to right, up to the first
failure.

Cutting goes through a piece with its escapes in steps that the induction on the piece follows. It
carries what has been read: the part since the last marker, which tells an escape, and the part
before it.
-/

namespace SqlTemplate

/-! ## Escapes -/

/-- A text with a backslash before each marker in it. -/
def Marker.escape (m : Marker) : List Char → List Char
  | [] => []
  | c :: rest =>
    if (m.strip? c rest).isSome then '\\' :: c :: m.escape rest else c :: m.escape rest

namespace Split

/-- The pieces of a cut with the markers in them escaped. -/
def escape (m : Markers) (s : Split) : Split :=
  ⟨s.spans.map fun span => ⟨m.opening.escape span.lead, m.closing.escape span.content⟩,
    s.tail.map m.opening.escape⟩

section pieces

variable {sigil : Char} {rest : List Char}

theorem escape_opening_self (hsigil : sigil ≠ '\x7b') (w : List Char) :
    (Markers.braced sigil).opening.escape (sigil :: '\x7b' :: w) =
      '\\' :: sigil :: '\x7b' :: (Markers.braced sigil).opening.escape w := by
  rw [Marker.escape, strip?_opening_self, Marker.escape, strip?_opening_eq_none]
  · rfl
  · simp [hsigil]

theorem escape_opening_cons {c : Char} {w : List Char} (h : ¬ [sigil, '\x7b'] <+: c :: w) :
    (Markers.braced sigil).opening.escape (c :: w) =
      c :: (Markers.braced sigil).opening.escape w := by
  rw [Marker.escape, strip?_opening_eq_none h]
  rfl

/-- Escapes bring no brace to the front. -/
theorem brace_of_escape_opening {w : List Char}
    (h : ['\x7b'] <+: (Markers.braced sigil).opening.escape w ++ rest)
    (hrest : ¬ ['\x7b'] <+: rest) : ['\x7b'] <+: w := by
  cases w with
  | nil => exact absurd h hrest
  | cons c w =>
    rw [Marker.escape] at h
    split at h
    · simp at h
    · simpa using h

/-- **Reading an escaped literal.** It is added to what has been read, and no escape is left open
that does not stand at its end. -/
theorem ofCharsFrom_escape (hsigil : sigil ≠ '\x7b') (hsigil' : sigil ≠ '\\')
    (w rest : List Char) (hrest : ¬ ['\x7b'] <+: rest) (seen run : List Char) :
    ∃ seen' run', ofCharsFrom (.braced sigil) seen run false
        ((Markers.braced sigil).opening.escape w ++ rest) =
          ofCharsFrom (.braced sigil) seen' run' false rest ∧
      run' ++ seen' = w.reverse ++ (run ++ seen) ∧
      (run'.head? = some '\\' → (w.reverse ++ run).head? = some '\\') := by
  induction hn : w.length using Nat.strongRecOn generalizing w seen run with
  | ind n ih =>
    cases w with
    | nil => exact ⟨seen, run, rfl, rfl, id⟩
    | cons c w =>
      by_cases hmarker : [sigil, '\x7b'] <+: c :: w
      · obtain ⟨w, rfl, rfl⟩ : ∃ v, sigil = c ∧ '\x7b' :: v = w := by
          obtain ⟨v, hv⟩ := hmarker
          exact ⟨v, List.cons.inj hv⟩
        obtain ⟨seen', run', heq, happend, hhead⟩ := ih w.length (by simp at hn; omega) w
          ('\x7b' :: sigil :: run ++ seen) [] rfl
        refine ⟨seen', run', ?_, ?_, fun h => ?_⟩
        · rw [escape_opening_self hsigil, List.cons_append, ofCharsFrom_cons, List.cons_append,
            List.cons_append, ofCharsFrom_escaped, heq]
          simp [hsigil']
        · simp [happend]
        · have hlast := hhead h
          rw [List.append_nil] at hlast
          simp [hlast]
      · obtain ⟨seen', run', heq, happend, hhead⟩ := ih w.length (by simp at hn; omega) w
          seen (c :: run) rfl
        refine ⟨seen', run', ?_, ?_, fun h => ?_⟩
        · rw [escape_opening_cons hmarker, List.cons_append, ofCharsFrom_cons, heq]
          rw [List.cons_prefix_cons]
          rintro ⟨rfl, hbrace⟩
          refine hmarker ?_
          rw [List.cons_prefix_cons]
          exact ⟨rfl, brace_of_escape_opening hbrace hrest⟩
        · simp [happend]
        · simpa using hhead h

/-- **Reading an escaped content.** -/
theorem content?_escape (sigil : Char) (w rest seen run : List Char) :
    ∃ seen' run', content? (.braced sigil : Markers).closing seen run
        ((Markers.braced sigil).closing.escape w ++ rest) =
          content? (.braced sigil : Markers).closing seen' run' rest ∧
      run' ++ seen' = w.reverse ++ (run ++ seen) ∧
      (run'.head? = some '\\' → (w.reverse ++ run).head? = some '\\') := by
  induction w generalizing seen run with
  | nil => exact ⟨seen, run, rfl, rfl, id⟩
  | cons c w ih =>
    rw [Marker.escape, strip?_closing]
    by_cases hbrace : c = '\x7d'
    · subst hbrace
      obtain ⟨seen', run', heq, happend, hhead⟩ := ih ('\x7d' :: run ++ seen) []
      refine ⟨seen', run', ?_, ?_, fun h => ?_⟩
      · rw [if_pos (by rw [if_pos rfl]; rfl), List.cons_append, content?_cons (by decide),
          List.cons_append, content?_escaped, heq]
      · simp [happend]
      · have hlast := hhead h
        rw [List.append_nil] at hlast
        simp [hlast]
    · obtain ⟨seen', run', heq, happend, hhead⟩ := ih seen (c :: run)
      refine ⟨seen', run', ?_, ?_, fun h => ?_⟩
      · rw [if_neg (by rw [if_neg hbrace]; exact Bool.false_ne_true), List.cons_append,
          content?_cons hbrace, heq]
      · simp [happend]
      · simpa using hhead h

end pieces

/-- **Cutting undoes escaping.** -/
theorem ofChars_escape {sigil : Char} (hsigil : sigil ≠ '\x7b') (hsigil' : sigil ≠ '\\')
    {s : Split} (h : s.Unescaped) :
    ofChars (.braced sigil) ((s.escape (.braced sigil)).toChars (.braced sigil)) = s := by
  obtain ⟨spans, tail⟩ := s
  induction spans with
  | nil =>
    obtain ⟨tail, rfl⟩ := Option.isSome_iff_exists.1 h.tail
    obtain ⟨seen, run, heq, happend, -⟩ :=
      ofCharsFrom_escape hsigil hsigil' tail [] (by simp) [] []
    change ofCharsFrom (.braced sigil) [] [] false
      ((Markers.braced sigil).opening.escape tail) = _
    rw [List.append_nil] at heq
    rw [heq, ofCharsFrom, happend]
    simp
  | cons span rest ih =>
    obtain ⟨lead, content⟩ := span
    obtain ⟨hlead, hleads⟩ := List.forall_mem_cons.1 h.lead
    obtain ⟨hcontent, hcontents⟩ := List.forall_mem_cons.1 h.content
    have ih := ih ⟨hleads, hcontents, h.tail⟩
    change ofChars (.braced sigil) ((cons _ _ (escape (.braced sigil) ⟨rest, tail⟩)).toChars _) =
      cons lead content ⟨rest, tail⟩
    rw [toChars_cons]
    generalize (escape (.braced sigil) ⟨rest, tail⟩).toChars (.braced sigil) = after at ih ⊢
    have hspan : content? (.braced sigil : Markers).closing [] []
        ((Markers.braced sigil).closing.escape content ++ '\x7d' :: after) =
          some (content, after) := by
      obtain ⟨seen, run, heq, happend, hhead⟩ := content?_escape sigil content
        ('\x7d' :: after) [] []
      rw [heq, content?_close, happend]
      · simp
      · intro hlast
        exact hcontent (by simpa using hhead hlast)
    obtain ⟨seen, run, heq, happend, hhead⟩ := ofCharsFrom_escape hsigil hsigil' lead
      (sigil :: '\x7b' :: ((Markers.braced sigil).closing.escape content ++ '\x7d' :: after))
      (by simpa using hsigil.symm) [] []
    rw [ofChars, heq, ofCharsFrom_open _ hspan, happend, ih]
    · simp
    · intro hlast
      exact hlead (by simpa using hhead hlast)

/-! ## Handlers -/

/-- The literals of a cut with these texts in the places of the spans. -/
def fillWith (s : Split) (texts : List String) : String :=
  String.join (List.zipWith (fun span text => String.ofList span.lead ++ text) s.spans texts) ++
    String.ofList (s.tail.getD [])

/-- A handler that fails or not, and notes the contents that it is called on. -/
def noting {ε : Type} (handler : String → Except ε String) (content : String) :
    ExceptT ε (StateM (List String)) String := do
  modify (· ++ [content])
  match handler content with
  | .ok text => pure text
  | .error e => throw e

/-- A handler is called on the contents and on nothing else. -/
theorem joinM_eq {m : Type → Type} [Monad m] [LawfulMonad m] (handler : String → m String)
    (s : Split) : s.joinM handler = s.fillWith <$> s.contents.mapM handler := by
  obtain ⟨spans, tail⟩ := s
  have hparts : (spans.mapM fun span => do
      let text ← handler (String.ofList span.content)
      return String.ofList span.lead ++ text) =
        List.zipWith (fun span text => String.ofList span.lead ++ text) spans <$>
          (spans.map fun span => String.ofList span.content).mapM handler := by
    induction spans with
    | nil => rw [List.mapM_nil, List.map_nil, List.mapM_nil, map_pure]; rfl
    | cons span rest ih =>
      rw [List.mapM_cons, ih, List.map_cons, List.mapM_cons]
      simp only [bind_assoc, pure_bind, bind_map_left, map_bind, map_pure, List.zipWith_cons_cons]
  rw [joinM, hparts, bind_map_left, map_eq_pure_bind]
  rfl

section noting

variable {ε α : Type} {handler : String → Except ε String} {content text : String} {e : ε}
  {next : String → ExceptT ε (StateM (List String)) α}

theorem run_noting_of_ok (h : handler content = .ok text) (noted : List String) :
    (noting handler content >>= next).run.run noted = (next text).run.run (noted ++ [content]) := by
  rw [noting, h]
  rfl

theorem run_noting_of_error (h : handler content = .error e) (noted : List String) :
    (noting handler content >>= next).run.run noted = (.error e, noted ++ [content]) := by
  rw [noting, h]
  rfl

theorem run_mapM_noting_of_ok {contents texts : List String}
    (h : List.Forall₂ (fun content text => handler content = .ok text) contents texts)
    (noted : List String) :
    (contents.mapM (noting handler)).run.run noted = (.ok texts, noted ++ contents) := by
  induction h generalizing noted with
  | nil => rw [List.append_nil]; rfl
  | cons hfirst _ ih =>
    rw [List.mapM_cons, run_noting_of_ok hfirst, ← map_eq_pure_bind, ExceptT.run_map,
      StateT.run_map, ih, List.append_assoc]
    rfl

theorem run_mapM_noting_of_error {before after : List String}
    (hbefore : ∀ c ∈ before, ∃ text, handler c = .ok text) (h : handler content = .error e)
    (noted : List String) :
    ((before ++ content :: after).mapM (noting handler)).run.run noted =
      (.error e, noted ++ before ++ [content]) := by
  induction before generalizing noted with
  | nil => rw [List.nil_append, List.mapM_cons, run_noting_of_error h, List.append_nil]
  | cons first rest ih =>
    obtain ⟨⟨text, hfirst⟩, hrest⟩ := List.forall_mem_cons.1 hbefore
    rw [List.cons_append, List.mapM_cons, run_noting_of_ok hfirst, ← map_eq_pure_bind,
      ExceptT.run_map, StateT.run_map, ih hrest, List.append_assoc noted]
    rfl

end noting

end Split

/-! ## Replacing in escaped texts -/

open Split (fillWith noting)

/-- **Scanning undoes escaping.** Take literals and contents none of which ends in a backslash,
but for the last literal, escape the markers in them and put them together. Whatever is put in the
place of the spans stands between the literals as it is; it is computed for each content once, from
left to right; and after the first failure nothing is computed any more. -/
theorem replace_escaped {m : Markers} (hm : m = .placeholder ∨ m = .substitution)
    (spans : List Span) (tail : List Char)
    (hlead : ∀ span ∈ spans, span.lead.getLast? ≠ some '\\')
    (hcontent : ∀ span ∈ spans, span.content.getLast? ≠ some '\\') :
    let cut : Split := ⟨spans, some tail⟩
    let text := String.ofList ((cut.escape m).toChars m)
    (∀ handler : String → String, m.replace handler text =
      String.join (spans.map fun span => String.ofList span.lead ++
        handler (String.ofList span.content)) ++ String.ofList tail) ∧
    (∀ (M : Type → Type) [Monad M] [LawfulMonad M] (handler : String → M String),
      m.replaceM handler text = do
        let texts ← cut.contents.mapM handler
        return cut.fillWith texts) ∧
    ∀ (ε : Type) (handler : String → Except ε String),
      let run := (m.replaceM (noting handler) text).run.run []
      (∀ texts, List.Forall₂ (fun content text => handler content = .ok text) cut.contents texts →
        run = (.ok (cut.fillWith texts), cut.contents)) ∧
      ∀ before content after e, cut.contents = before ++ content :: after →
        (∀ c ∈ before, ∃ text, handler c = .ok text) → handler content = .error e →
        run = (.error e, before ++ [content]) := by
  intro cut text
  have hcut : m.split text = cut := by
    have hunescaped : cut.Unescaped := ⟨hlead, hcontent, rfl⟩
    rw [Markers.split, String.toList_ofList]
    rcases hm with rfl | rfl
    · exact Split.ofChars_escape (by decide) (by decide) hunescaped
    · exact Split.ofChars_escape (by decide) (by decide) hunescaped
  have hreplaceM (M : Type → Type) [Monad M] [LawfulMonad M] (handler : String → M String) :
      m.replaceM handler text = cut.fillWith <$> cut.contents.mapM handler := by
    rw [Markers.replaceM, hcut, Split.joinM_eq]
  refine ⟨fun handler => ?_, fun M _ _ handler => ?_, fun ε handler => ⟨?_, ?_⟩⟩
  · rw [Markers.replace, hcut]
    rfl
  · rw [hreplaceM, map_eq_pure_bind]
  · intro texts htexts
    rw [hreplaceM, ExceptT.run_map, StateT.run_map, Split.run_mapM_noting_of_ok htexts]
    rfl
  · intro before content after e hcontents hbefore h
    rw [hreplaceM, hcontents, ExceptT.run_map, StateT.run_map,
      Split.run_mapM_noting_of_error hbefore h]
    rfl

/-- A literal that ends in an opening marker after a backslash, a content of closing markers, a
content that is an opening marker, and a handler that fails on the latter. -/
theorem replace_escaped_around_markers :
    let cut : Split := ⟨[⟨"\\#\x7b".toList, "\x7d\x7d".toList⟩, ⟨"#".toList, "#\x7b".toList⟩],
      some "\\".toList⟩
    let text := "\\\\#\x7b#\x7b\\\x7d\\\x7d\x7d##\x7b#\x7b\x7d\\"
    let handler : String → Except Unit String := fun c => if c = "#\x7b" then .error () else .ok c
    (cut.escape .placeholder).toChars .placeholder = text.toList ∧
      Markers.placeholder.replace (fun c => "[" ++ c ++ "]") text =
        "\\#\x7b[\x7d\x7d]#[#\x7b]\\" ∧
      (Markers.placeholder.replaceM (noting handler) text).run.run [] =
        (.error (), ["\x7d\x7d", "#\x7b"]) := by
  intro cut text handler
  have htext : (cut.escape .placeholder).toChars .placeholder = text.toList := by decide
  obtain ⟨hreplace, -, hcalls⟩ := replace_escaped (.inl rfl) cut.spans "\\".toList
    (show ∀ span ∈ cut.spans, span.lead.getLast? ≠ some '\\' by decide)
    (show ∀ span ∈ cut.spans, span.content.getLast? ≠ some '\\' by decide)
  have hfails := (hcalls Unit handler).2 ["\x7d\x7d"] "#\x7b" [] () (by decide)
  rw [show (⟨cut.spans, some "\\".toList⟩ : Split) = cut from rfl, htext, String.ofList_toList]
    at hreplace hfails
  refine ⟨htext, (hreplace _).trans (by decide), hfails ?_ rfl⟩
  exact List.forall_mem_singleton.2 ⟨_, rfl⟩

end SqlTemplate
