import SqlTemplate.Proofs.Span.Escaping

/-!
# Scanning by places

The spans of a text can be replaced in one pass that keeps a place in the text, a buffer for what
has been put out and one for the content that is being read. `Scan.go` finds the next opening marker
from its place on and looks back for a backslash. It goes on after an escaped marker; else it reads
the content up to the closing marker (`Scan.content`, a loop of its own), calls the handler and goes
on after the marker. The pass takes its literals and contents by their places (`Text.slice?`);
places that are out of order stop it without a result.

**Theorem (`scanM_eq`).** For every handler, also one with effects, the pass does what the cut says:
it calls the handler on the contents of the cut, from left to right, and puts the texts between its
literals. It has no result exactly if the cut tears. So nothing that the handler returns and nothing
that has been put out ever decides where the pass goes.

The proof goes from marker to marker. `Agrees` says that the pass agrees with the cut from a place
on, whatever the buffers hold; there is a lemma for each thing that can happen at a marker.

Places count characters.
-/

namespace SqlTemplate

/-! ## Places in a text -/

namespace Text

/-- The part of a text between two places. There is none unless the places are in order and belong
to the text. -/
def slice? (text : List Char) (start stop : Nat) : Option (List Char) :=
  if start ≤ stop ∧ stop ≤ text.length then some ((text.drop start).take (stop - start)) else none

/-- Whether a backslash stands directly before a place, and not before the place `least`. -/
def escapes (text : List Char) (least place : Nat) : Bool :=
  least < place && text[place - 1]? == some '\\'

theorem slice?_append (u v w : List Char) :
    slice? (u ++ v ++ w) u.length (u.length + v.length) = some v := by
  simp [slice?]

theorem slice?_before_last (u v w : List Char) (c : Char) :
    slice? (u ++ (v ++ [c]) ++ w) u.length (u.length + (v ++ [c]).length - 1) = some v := by
  have hslice := slice?_append u v (c :: w)
  simpa using hslice

theorem slice?_end (u v : List Char) : slice? (u ++ v) u.length (u ++ v).length = some v := by
  have hslice := slice?_append u v []
  simpa using hslice

theorem slice?_out_of_order {text : List Char} {start stop : Nat} (h : stop < start) :
    slice? text start stop = none := by
  rw [slice?, if_neg]
  omega

theorem escapes_append (u v w : List Char) :
    escapes (u ++ v ++ w) u.length (u.length + v.length) = (v.getLast? == some '\\') := by
  rcases List.eq_nil_or_concat v with rfl | ⟨v, c, rfl⟩
  · simp [escapes]
  · simp [escapes]

theorem escapes_zero_append (u v w : List Char) :
    escapes (u ++ v ++ w) 0 (u.length + v.length) = ((u ++ v).getLast? == some '\\') := by
  have hescapes := escapes_append [] (u ++ v) w
  simpa using hescapes

end Text

namespace Marker

/-- The first place of a marker in a text. -/
def find? (m : Marker) : List Char → Option Nat
  | [] => none
  | c :: rest => if (m.strip? c rest).isSome then some 0 else (m.find? rest).map (· + 1)

/-- The first place of a marker in a text, from a place on. -/
def findFrom? (m : Marker) (text : List Char) (start : Nat) : Option Nat :=
  (m.find? (text.drop start)).map (· + start)

/-- The first marker of the text `w ++ (m.chars ++ after)` stands after `w`. -/
inductive Leads (m : Marker) : List Char → List Char → Prop
  | here {after : List Char} : Leads m [] after
  | skip {c : Char} {w after : List Char} (hc : m.strip? c (w ++ (m.chars ++ after)) = none)
      (h : Leads m w after) : Leads m (c :: w) after

/-- As long as no marker stands there, `f` goes on to the next character and keeps the last one. -/
def Skips {α : Type} (m : Marker) (f : List Char → List Char → α) : Prop :=
  ∀ c rest run, m.strip? c rest = none → f run (c :: rest) = f (c :: run) rest

variable {m : Marker} {text w after : List Char} {i : Nat}

theorem length_chars_pos (m : Marker) : 0 < m.chars.length := by simp [chars]

theorem strip?_self (m : Marker) (after : List Char) :
    m.strip? m.first (m.more ++ after) = some after := by
  simp [strip?, Text.after?_eq_some_iff]

theorem find?_nil (m : Marker) : m.find? [] = none := rfl

theorem find?_of_strip? {c : Char} {rest : List Char} (h : m.strip? c rest = some after) :
    m.find? (c :: rest) = some 0 := by
  simp [find?, h]

theorem find?_of_strip?_eq_none {c : Char} {rest : List Char} (h : m.strip? c rest = none) :
    m.find? (c :: rest) = (m.find? rest).map (· + 1) := by
  simp [find?, h]

theorem Leads.find? (h : m.Leads w after) : m.find? (w ++ (m.chars ++ after)) = some w.length := by
  induction h with
  | here => exact find?_of_strip? (strip?_self m _)
  | skip hc _ ih =>
    rw [List.cons_append, find?_of_strip?_eq_none hc, ih]
    rfl

/-- What is found is led to. -/
theorem exists_leads (h : m.find? text = some i) :
    ∃ w after, text = w ++ (m.chars ++ after) ∧ m.Leads w after := by
  induction text generalizing i with
  | nil => cases h
  | cons c rest ih =>
    cases hc : m.strip? c rest with
    | none =>
      rw [find?_of_strip?_eq_none hc] at h
      obtain ⟨j, hj, -⟩ := Option.map_eq_some_iff.1 h
      obtain ⟨w, after, rfl, hw⟩ := ih hj
      exact ⟨c :: w, after, rfl, .skip hc hw⟩
    | some after => exact ⟨[], after, eq_append_of_strip? hc, .here⟩

theorem Leads.skip_eq {α : Type} {f : List Char → List Char → α} (h : m.Leads w after)
    (hf : m.Skips f) (run : List Char) :
    f run (w ++ (m.chars ++ after)) = f (w.reverse ++ run) (m.chars ++ after) := by
  induction h generalizing run with
  | here => rfl
  | skip hc _ ih =>
    rw [List.cons_append, hf _ _ run hc, ih]
    simp

theorem Skips.of_find?_eq_none {α : Type} {f : List Char → List Char → α} (hf : m.Skips f)
    (h : m.find? text = none) (run : List Char) : f run text = f (text.reverse ++ run) [] := by
  induction text generalizing run with
  | nil => rfl
  | cons c rest ih =>
    cases hc : m.strip? c rest with
    | none =>
      rw [find?_of_strip?_eq_none hc, Option.map_eq_none_iff] at h
      rw [hf c rest run hc, ih h]
      simp
    | some after =>
      rw [find?_of_strip? hc] at h
      cases h

theorem findFrom?_le {start place : Nat} (h : m.findFrom? text start = some place) :
    start ≤ place ∧ place + m.chars.length ≤ text.length := by
  obtain ⟨i, hi, rfl⟩ := Option.map_eq_some_iff.1 h
  obtain ⟨w, after, hdrop, hw⟩ := exists_leads hi
  rw [hdrop, hw.find?] at hi
  cases hi
  have hlength := congrArg List.length hdrop
  simp only [List.length_drop, List.length_append] at hlength
  have hpos := m.length_chars_pos
  omega

theorem findFrom?_append (m : Marker) (u v : List Char) :
    m.findFrom? (u ++ v) u.length = (m.find? v).map (· + u.length) := by
  simp [findFrom?]

theorem Leads.findFrom? (h : m.Leads w after) (u : List Char) :
    m.findFrom? (u ++ w ++ (m.chars ++ after)) u.length = some (u.length + w.length) := by
  rw [List.append_assoc, findFrom?_append, h.find?, Option.map_some, Nat.add_comm]

/-- After a marker, its own end tells whether a backslash stands there. -/
theorem getLast?_append_chars (u : List Char) (m : Marker) :
    ((u ++ m.chars).getLast? == some '\\') = m.endsInBackslash := by
  simp [endsInBackslash, chars, List.getLast?_append]

end Marker

/-! ## The pass -/

namespace Scan

open Text (slice? escapes)

/-- Reads a content from a place on, into the buffer. The result is the buffer and the place of the
closing marker, if there is one. A marker at the very place is not escaped. -/
def content (closing : Marker) (text expression : List Char) (offset : Nat) :
    Option (List Char × Option Nat) :=
  match _h : closing.findFrom? text offset with
  | none => some (expression, none)
  | some place =>
    if escapes text offset place then
      match slice? text offset (place - 1) with
      | none => none
      | some part =>
        content closing text (expression ++ part ++ closing.chars) (place + closing.chars.length)
    else
      match slice? text offset place with
      | none => none
      | some part => some (expression ++ part, some place)
termination_by text.length - offset
decreasing_by
  have := Marker.findFrom?_le _h
  have := closing.length_chars_pos
  omega

theorem content_le {closing : Marker} {text expression buffer : List Char} {offset place : Nat}
    (h : content closing text expression offset = some (buffer, some place)) :
    offset ≤ place ∧ place + closing.chars.length ≤ text.length := by
  fun_induction content closing text expression offset with
  | case1 => cases h
  | case2 => cases h
  | case3 _ _ _ hplace _ _ _ ih =>
    have := Marker.findFrom?_le hplace
    have := ih h
    omega
  | case4 => cases h
  | case5 _ _ _ hplace =>
    cases h
    exact Marker.findFrom?_le hplace

/-- Goes through a text from a place on. `out` has been put out so far, and `expression` is the
buffer of the content before. -/
def go {M : Type → Type} [Monad M] (markers : Markers) (handler : String → M String)
    (text : List Char) (out : String) (expression : List Char) (offset : Nat) :
    M (Option String) :=
  match _h : markers.opening.findFrom? text offset with
  | none =>
    if offset < text.length then
      return (slice? text offset text.length).map fun rest => out ++ String.ofList rest
    else return some out
  | some start =>
    if escapes text 0 start then
      match slice? text offset (start - 1) with
      | none => return none
      | some lead =>
        go markers handler text
          (out ++ String.ofList lead ++ String.ofList markers.opening.chars) expression
          (start + markers.opening.chars.length)
    else
      match slice? text offset start with
      | none => return none
      | some lead =>
        -- The buffer is empty again.
        match _h' : content markers.closing text [] (start + markers.opening.chars.length) with
        | none => return none
        | some (expression, none) =>
          match slice? text start text.length with
          | none => return none
          | some rest =>
            go markers handler text (out ++ String.ofList lead ++ String.ofList rest)
              expression text.length
        | some (expression, some place) => do
          let replacement ← handler (String.ofList expression)
          go markers handler text (out ++ String.ofList lead ++ replacement) expression
            (place + markers.closing.chars.length)
termination_by text.length - offset
decreasing_by
  · have := Marker.findFrom?_le _h
    have := markers.opening.length_chars_pos
    omega
  · have := Marker.findFrom?_le _h
    have := markers.opening.length_chars_pos
    omega
  · have := Marker.findFrom?_le _h
    have := content_le _h'
    have := markers.closing.length_chars_pos
    omega

end Scan

/-- Replaces every span in one pass; no result if places get out of order. -/
def Markers.scanM {M : Type → Type} [Monad M] (markers : Markers) (handler : String → M String)
    (text : String) : M (Option String) :=
  match markers.opening.findFrom? text.toList 0 with
  | none => return some text
  | some _ => Scan.go markers handler text.toList "" [] 0

/-! ## The cut at a marker -/

namespace Split

variable {m : Markers} {closing : Marker} {seen run after : List Char} {stuck : Bool}

theorem skips_content? (closing : Marker) (seen : List Char) :
    closing.Skips (content? closing seen) := by
  intro c rest run h
  rw [content?]
  split
  · rfl
  · next h' => rw [h] at h'; cases h'

theorem skips_ofCharsFrom (m : Markers) (seen : List Char) (stuck : Bool) :
    m.opening.Skips (ofCharsFrom m seen · stuck) := by
  intro c rest run h
  change ofCharsFrom m seen run stuck (c :: rest) = _
  rw [ofCharsFrom]
  split
  · rfl
  · next h' => rw [h] at h'; cases h'

theorem content?_at_escaped (closing : Marker) (seen run after : List Char) :
    content? closing seen ('\\' :: run) (closing.chars ++ after) =
      content? closing (closing.chars.reverse ++ run ++ seen) [] after := by
  change content? closing seen ('\\' :: run) (closing.first :: (closing.more ++ after)) = _
  rw [content?]
  split
  · next h => rw [Marker.strip?_self] at h; cases h
  · next h => rw [Marker.strip?_self] at h; cases h; rfl

theorem content?_at_marker (hrun : run.head? ≠ some '\\') (seen after : List Char) :
    content? closing seen run (closing.chars ++ after) = some ((run ++ seen).reverse, after) := by
  change content? closing seen run (closing.first :: (closing.more ++ after)) = _
  rw [content?]
  split
  · next h => rw [Marker.strip?_self] at h; cases h
  · next h =>
    rw [Marker.strip?_self] at h
    cases h
    split
    · exact absurd rfl hrun
    · rfl

theorem ofCharsFrom_at_escaped (m : Markers) (seen run after : List Char) (stuck : Bool) :
    ofCharsFrom m seen ('\\' :: run) stuck (m.opening.chars ++ after) =
      ofCharsFrom m (m.opening.chars.reverse ++ run ++ seen) [] m.opening.endsInBackslash
        after := by
  change ofCharsFrom m seen ('\\' :: run) stuck (m.opening.first :: (m.opening.more ++ after)) = _
  rw [ofCharsFrom]
  split
  · next h => rw [Marker.strip?_self] at h; cases h
  · next h => rw [Marker.strip?_self] at h; cases h; rfl

theorem ofCharsFrom_at_torn (m : Markers) (seen after : List Char) :
    ofCharsFrom m seen [] true (m.opening.chars ++ after) = ⟨[], none⟩ := by
  change ofCharsFrom m seen [] true (m.opening.first :: (m.opening.more ++ after)) = _
  rw [ofCharsFrom]
  split
  · next h => rw [Marker.strip?_self] at h; cases h
  · rfl

section marker

variable (hrun : run.head? ≠ some '\\') (hstuck : run = [] → stuck = false) (seen : List Char)
include hrun hstuck

/-- At a marker that is neither escaped nor torn, a span may open. -/
theorem ofCharsFrom_at_marker (after : List Char) :
    ofCharsFrom m seen run stuck (m.opening.chars ++ after) =
      match content? m.closing [] [] after with
      | none => ⟨[], some ((run ++ seen).reverse ++ (m.opening.chars ++ after))⟩
      | some (content, after) =>
        cons (run ++ seen).reverse content
          (ofCharsFrom m [] [] m.closing.endsInBackslash after) := by
  change ofCharsFrom m seen run stuck (m.opening.first :: (m.opening.more ++ after)) = _
  have hfree : (run.isEmpty && stuck) = false := by
    cases run with
    | nil => exact hstuck rfl
    | cons => rfl
  rw [ofCharsFrom]
  split
  · next h => rw [Marker.strip?_self] at h; cases h
  · next h =>
    rw [Marker.strip?_self] at h
    cases h
    split
    · exact absurd rfl hrun
    · rw [hfree, if_neg Bool.false_ne_true]
      split
      · next h => rw [h]; rfl
      · next h => rw [h]

end marker

theorem contents_cons (lead content : List Char) (s : Split) :
    (cons lead content s).contents = String.ofList content :: s.contents := rfl

end Split

/-! ## The pass at a marker -/

namespace Scan

open Split (content? ofCharsFrom)
open Text (slice? escapes)

section steps

variable {closing : Marker} {text expression part buffer : List Char} {offset place : Nat}

theorem content_of_none (hplace : closing.findFrom? text offset = none) :
    content closing text expression offset = some (expression, none) := by
  rw [content]
  split
  · rfl
  · next h => rw [hplace] at h; cases h

theorem content_of_escaped (hplace : closing.findFrom? text offset = some place)
    (hescaped : escapes text offset place = true)
    (hpart : slice? text offset (place - 1) = some part) :
    content closing text expression offset =
      content closing text (expression ++ part ++ closing.chars)
        (place + closing.chars.length) := by
  rw [content]
  split
  · next h => rw [hplace] at h; cases h
  · next h =>
    rw [hplace] at h
    cases h
    rw [if_pos hescaped, hpart]

theorem content_of_closed (hplace : closing.findFrom? text offset = some place)
    (hescaped : escapes text offset place = false)
    (hpart : slice? text offset place = some part) :
    content closing text expression offset = some (expression ++ part, some place) := by
  rw [content]
  split
  · next h => rw [hplace] at h; cases h
  · next h =>
    rw [hplace] at h
    cases h
    simp only [hescaped, Bool.false_eq_true, if_false, hpart]

variable {M : Type → Type} [Monad M] {m : Markers} {handler : String → M String}
  {out : String} {start : Nat}

theorem go_of_none (handler : String → M String) (out : String) (expression pre : List Char)
    {rest : List Char} (hstart : m.opening.find? rest = none) :
    go m handler (pre ++ rest) out expression pre.length =
      return some (out ++ String.ofList rest) := by
  have hplace : m.opening.findFrom? (pre ++ rest) pre.length = none := by
    rw [Marker.findFrom?_append, hstart, Option.map_none]
  rw [go]
  split
  · cases rest with
    | nil => simp
    | cons c rest => rw [if_pos (by simp), Text.slice?_end, Option.map_some]
  · next h => rw [hplace] at h; cases h

theorem go_of_escaped (hstart : m.opening.findFrom? text offset = some start)
    (hescaped : escapes text 0 start = true)
    (hpart : slice? text offset (start - 1) = some part) :
    go m handler text out expression offset =
      go m handler text (out ++ String.ofList part ++ String.ofList m.opening.chars) expression
        (start + m.opening.chars.length) := by
  rw [go]
  split
  · next h => rw [hstart] at h; cases h
  · next h =>
    rw [hstart] at h
    cases h
    rw [if_pos hescaped, hpart]

theorem go_of_torn (hstart : m.opening.findFrom? text offset = some start)
    (hescaped : escapes text 0 start = true)
    (hpart : slice? text offset (start - 1) = none) :
    go m handler text out expression offset = return none := by
  rw [go]
  split
  · next h => rw [hstart] at h; cases h
  · next h =>
    rw [hstart] at h
    cases h
    rw [if_pos hescaped, hpart]

section opening

variable (hstart : m.opening.findFrom? text offset = some start)
  (hescaped : escapes text 0 start = false) (hpart : slice? text offset start = some part)
include hstart hescaped hpart

theorem go_of_span
    (hcontent : content m.closing text [] (start + m.opening.chars.length) =
      some (buffer, some place)) :
    go m handler text out expression offset = (do
      let replacement ← handler (String.ofList buffer)
      go m handler text (out ++ String.ofList part ++ replacement) buffer
        (place + m.closing.chars.length)) := by
  rw [go]
  split
  · next h => rw [hstart] at h; cases h
  · next h =>
    rw [hstart] at h
    cases h
    simp only [hescaped, Bool.false_eq_true, if_false, hpart]
    split
    · next h => rw [hcontent] at h; cases h
    · next h => rw [hcontent] at h; cases h
    · next h => rw [hcontent] at h; cases h; rfl

theorem go_of_dangling {rest : List Char}
    (hcontent : content m.closing text [] (start + m.opening.chars.length) = some (buffer, none))
    (hrest : slice? text start text.length = some rest) :
    go m handler text out expression offset =
      go m handler text (out ++ String.ofList part ++ String.ofList rest) buffer
        text.length := by
  rw [go]
  split
  · next h => rw [hstart] at h; cases h
  · next h =>
    rw [hstart] at h
    cases h
    simp only [hescaped, Bool.false_eq_true, if_false, hpart, hrest]
    split
    · next h => rw [hcontent] at h; cases h
    · next h => rw [hcontent] at h; cases h; rfl
    · next h => rw [hcontent] at h; cases h

end opening

end steps

/-! ## The pass agrees with the cut -/

/-- Reading a content by places gives the content that the cut has. -/
theorem content_cases (closing : Marker) (expression pre rest : List Char) (offset : Nat)
    (hoffset : offset = pre.length) :
    (content? closing expression.reverse [] rest = none ∧
      ∃ buffer, content closing (pre ++ rest) expression offset = some (buffer, none)) ∨
    ∃ buffer body after, rest = body ++ (closing.chars ++ after) ∧
      content? closing expression.reverse [] rest = some (buffer, after) ∧
      content closing (pre ++ rest) expression offset =
        some (buffer, some (offset + body.length)) := by
  induction hn : rest.length using Nat.strongRecOn generalizing pre rest offset expression with
  | ind n ih =>
    subst hoffset
    have hskips := Split.skips_content? closing expression.reverse
    cases hfind : closing.find? rest with
    | none =>
      refine .inl ⟨?_, expression, content_of_none ?_⟩
      · rw [hskips.of_find?_eq_none hfind, content?]
      · rw [Marker.findFrom?_append, hfind, Option.map_none]
    | some i =>
      obtain ⟨w, after, rfl, hw⟩ := Marker.exists_leads hfind
      have hcut := hw.skip_eq hskips []
      have hplace := hw.findFrom? pre
      have hescapes := Text.escapes_append pre w (closing.chars ++ after)
      rw [List.append_nil] at hcut
      rw [hcut, ← List.append_assoc]
      by_cases hlast : w.getLast? = some '\\'
      · obtain ⟨v, rfl⟩ := List.getLast?_eq_some_iff.1 hlast
        have hpart := Text.slice?_before_last pre v (closing.chars ++ after) '\\'
        have hlength : after.length < n := by rw [← hn]; simp; omega
        have hcontent := ih after.length hlength (expression ++ v ++ closing.chars)
          (pre ++ (v ++ ['\\']) ++ closing.chars) after
          (pre.length + (v ++ ['\\']).length + closing.chars.length) (by simp; omega) rfl
        rw [content_of_escaped hplace (by rw [hescapes, hlast, BEq.rfl]) hpart,
          List.reverse_append, List.reverse_singleton, List.singleton_append,
          Split.content?_at_escaped, ← List.append_assoc]
        rw [List.reverse_append, List.reverse_append, ← List.append_assoc] at hcontent
        rcases hcontent with hnone | ⟨buffer, body, after', rfl, hcontent, hplace'⟩
        · exact .inl hnone
        · refine .inr ⟨buffer, v ++ '\\' :: (closing.chars ++ body), after', by simp, hcontent, ?_⟩
          rw [hplace']
          simp
          omega
      · refine .inr ⟨expression ++ w, w, after, rfl, ?_, ?_⟩
        · rw [Split.content?_at_marker (by simpa using hlast)]
          simp
        · exact content_of_closed hplace (by rw [hescapes]; simpa using hlast)
            (Text.slice?_append pre w _)

/-- What the texts of a handler become between the literals, after what has been put out. -/
def filled (base : String) (s : Split) (texts : List String) : Option String :=
  s.tail.map fun _ => base ++ s.fillWith texts

theorem filled_literal (base : String) (literal : List Char) :
    filled base ⟨[], some literal⟩ [] = some (base ++ String.ofList literal) := by
  simp [filled, Split.fillWith]

theorem filled_cons (base text : String) (lead content : List Char) (s : Split)
    (texts : List String) : filled base (Split.cons lead content s) (text :: texts) =
      filled (base ++ String.ofList lead ++ text) s texts := by
  simp [filled, Split.fillWith, Split.cons, String.append_assoc]

section agrees

variable {M : Type → Type} [Monad M] [LawfulMonad M] {m : Markers} {handler : String → M String}
  {pre rest w after : List Char}

/-- From the place after `pre` on, the pass agrees with the cut of `rest`, whatever has been put out
and whatever is left in the buffer. -/
def Agrees (m : Markers) (handler : String → M String) (pre rest : List Char) : Prop :=
  ∀ base seen expression,
    let s := ofCharsFrom m seen [] (pre.getLast? == some '\\') rest
    go m handler (pre ++ rest) (base ++ String.ofList seen.reverse) expression pre.length =
      filled base s <$> s.contents.mapM handler

theorem agrees_of_none (h : m.opening.find? rest = none) : Agrees m handler pre rest := by
  intro base seen expression s
  have hs : s = ⟨[], some (seen.reverse ++ rest)⟩ := by
    have hcut := (Split.skips_ofCharsFrom m seen (pre.getLast? == some '\\')).of_find?_eq_none h []
    refine hcut.trans ?_
    rw [ofCharsFrom]
    simp
  rw [go_of_none handler _ expression pre h, hs]
  simp [Split.contents, filled_literal, String.append_assoc]

variable (hw : m.opening.Leads w after)
include hw

theorem ofCharsFrom_of_leads (seen : List Char) (stuck : Bool) :
    ofCharsFrom m seen [] stuck (w ++ (m.opening.chars ++ after)) =
      ofCharsFrom m seen w.reverse stuck (m.opening.chars ++ after) := by
  have hcut := hw.skip_eq (Split.skips_ofCharsFrom m seen stuck) []
  rwa [List.append_nil] at hcut

omit [LawfulMonad M] in
theorem agrees_of_escaped (hlast : w.getLast? = some '\\')
    (hafter : Agrees m handler (pre ++ w ++ m.opening.chars) after) :
    Agrees m handler pre (w ++ (m.opening.chars ++ after)) := by
  intro base seen expression s
  obtain ⟨v, rfl⟩ := List.getLast?_eq_some_iff.1 hlast
  have hgo := hafter base (m.opening.chars.reverse ++ v.reverse ++ seen) expression
  have hpart := Text.slice?_before_last pre v (m.opening.chars ++ after) '\\'
  have hescapes := Text.escapes_zero_append pre (v ++ ['\\']) (m.opening.chars ++ after)
  have hs : s = ofCharsFrom m (m.opening.chars.reverse ++ v.reverse ++ seen) []
      m.opening.endsInBackslash after := by
    refine (ofCharsFrom_of_leads hw seen _).trans ?_
    rw [List.reverse_append, List.reverse_singleton, List.singleton_append,
      Split.ofCharsFrom_at_escaped]
  rw [Marker.getLast?_append_chars, ← hs, List.length_append, List.length_append] at hgo
  rw [← List.append_assoc pre,
    go_of_escaped (hw.findFrom? pre) (by rw [hescapes]; simp) hpart]
  refine Eq.trans ?_ hgo
  simp [String.append_assoc]

theorem agrees_of_torn (hnil : w = []) (hlast : pre.getLast? = some '\\') :
    Agrees m handler pre (w ++ (m.opening.chars ++ after)) := by
  intro base seen expression s
  subst hnil
  have hs : s = ⟨[], none⟩ := by
    refine (ofCharsFrom_of_leads hw seen _).trans ?_
    rw [hlast, BEq.rfl]
    exact Split.ofCharsFrom_at_torn m seen after
  have hpos : 0 < pre.length := List.length_pos_of_mem (List.mem_of_getLast? hlast)
  have hescapes := Text.escapes_zero_append pre [] (m.opening.chars ++ after)
  rw [← List.append_assoc pre, go_of_torn (hw.findFrom? pre) (by rw [hescapes]; simp [hlast])
    (Text.slice?_out_of_order (by simp; omega)), hs]
  simp [Split.contents, filled]

section opening

variable (hlast : w.getLast? ≠ some '\\') (hpre : w = [] → pre.getLast? ≠ some '\\')
include hlast hpre

omit hw in
theorem escapes_of_opening (rest : List Char) :
    escapes (pre ++ w ++ rest) 0 (pre.length + w.length) = false := by
  rw [Text.escapes_zero_append, List.getLast?_append]
  cases hend : w.getLast? with
  | none => simpa using hpre (by simpa using hend)
  | some c => simpa [hend] using hlast

theorem ofCharsFrom_of_opening (seen : List Char) :
    ofCharsFrom m seen [] (pre.getLast? == some '\\') (w ++ (m.opening.chars ++ after)) =
      match content? m.closing [] [] after with
      | none => ⟨[], some (seen.reverse ++ w ++ (m.opening.chars ++ after))⟩
      | some (content, after) =>
        Split.cons (seen.reverse ++ w) content
          (ofCharsFrom m [] [] m.closing.endsInBackslash after) := by
  rw [ofCharsFrom_of_leads hw, Split.ofCharsFrom_at_marker (by simpa using hlast)
    (by simpa using hpre)]
  simp

theorem agrees_of_dangling {buffer : List Char}
    (hcut : content? m.closing [] [] after = none)
    (hcontent : content m.closing (pre ++ w ++ (m.opening.chars ++ after)) []
      (pre.length + w.length + m.opening.chars.length) = some (buffer, none)) :
    Agrees m handler pre (w ++ (m.opening.chars ++ after)) := by
  intro base seen expression s
  have hs : s = ⟨[], some (seen.reverse ++ w ++ (m.opening.chars ++ after))⟩ := by
    refine (ofCharsFrom_of_opening hw hlast hpre seen).trans ?_
    rw [hcut]
  have hrest := Text.slice?_end (pre ++ w) (m.opening.chars ++ after)
  have hend (out : String) := go_of_none (m := m) handler out buffer
    (pre ++ w ++ (m.opening.chars ++ after)) (Marker.find?_nil m.opening)
  rw [show (pre ++ w).length = pre.length + w.length from List.length_append] at hrest
  simp only [List.append_nil] at hend
  rw [← List.append_assoc pre, go_of_dangling (hw.findFrom? pre) (escapes_of_opening hlast hpre _)
    (Text.slice?_append pre w _) hcontent hrest, hend, hs]
  simp [Split.contents, filled_literal, String.append_assoc]

theorem agrees_of_span {buffer body after' : List Char}
    (hbody : after = body ++ (m.closing.chars ++ after'))
    (hcut : content? m.closing [] [] after = some (buffer, after'))
    (hcontent : content m.closing (pre ++ w ++ (m.opening.chars ++ after)) []
      (pre.length + w.length + m.opening.chars.length) =
        some (buffer, some (pre.length + w.length + m.opening.chars.length + body.length)))
    (hafter : Agrees m handler (pre ++ w ++ m.opening.chars ++ body ++ m.closing.chars) after') :
    Agrees m handler pre (w ++ (m.opening.chars ++ after)) := by
  intro base seen expression s
  have hs : s = Split.cons (seen.reverse ++ w) buffer
      (ofCharsFrom m [] [] m.closing.endsInBackslash after') := by
    refine (ofCharsFrom_of_opening hw hlast hpre seen).trans ?_
    rw [hcut]
  rw [← List.append_assoc pre, go_of_span (hw.findFrom? pre) (escapes_of_opening hlast hpre _)
    (Text.slice?_append pre w _) hcontent, hs, Split.contents_cons, List.mapM_cons]
  simp only [map_bind, map_pure, filled_cons]
  refine bind_congr fun replacement => ?_
  have hgo := hafter (base ++ String.ofList (seen.reverse ++ w) ++ replacement) [] buffer
  rw [Marker.getLast?_append_chars] at hgo
  rw [← map_eq_pure_bind, ← hgo, hbody]
  simp [String.append_assoc, Nat.add_assoc]

end opening

omit hw

/-- **The pass agrees with the cut** from every place on that it comes to. -/
theorem agrees (m : Markers) (handler : String → M String) (pre rest : List Char) :
    Agrees m handler pre rest := by
  induction hn : rest.length using Nat.strongRecOn generalizing pre rest with
  | ind n ih =>
    cases hfind : m.opening.find? rest with
    | none => exact agrees_of_none hfind
    | some i =>
      obtain ⟨w, after, rfl, hw⟩ := Marker.exists_leads hfind
      have hpos := m.opening.length_chars_pos
      have hlength : after.length < n := by rw [← hn]; simp; omega
      by_cases hlast : w.getLast? = some '\\'
      · exact agrees_of_escaped hw hlast (ih _ hlength _ _ rfl)
      · by_cases htorn : w = [] ∧ pre.getLast? = some '\\'
        · exact agrees_of_torn hw htorn.1 htorn.2
        · have hpre : w = [] → pre.getLast? ≠ some '\\' := fun hnil hend => htorn ⟨hnil, hend⟩
          have hcases := content_cases m.closing [] (pre ++ w ++ m.opening.chars) after
            (pre.length + w.length + m.opening.chars.length) (by simp; omega)
          rw [List.append_assoc (pre ++ w)] at hcases
          rcases hcases with ⟨hcut, buffer, hcontent⟩ |
            ⟨buffer, body, after', hbody, hcut, hcontent⟩
          · exact agrees_of_dangling hw hlast hpre hcut hcontent
          · have hlength' : after'.length < n := by
              rw [hbody] at hlength
              simp at hlength
              omega
            exact agrees_of_span hw hlast hpre hbody hcut hcontent (ih _ hlength' _ _ rfl)

end agrees

end Scan

/-- **Scanning does what the cut says,** for all markers and texts. -/
theorem Markers.scanM_eq {M : Type → Type} [Monad M] [LawfulMonad M] (m : Markers)
    (handler : String → M String) (text : String) :
    m.scanM handler text =
      Scan.filled "" (m.split text) <$> (m.split text).contents.mapM handler := by
  have hgo := Scan.agrees m handler [] text.toList "" [] []
  rw [List.nil_append, List.length_nil, List.reverse_nil] at hgo
  refine Eq.trans ?_ hgo
  rw [scanM]
  cases hfind : m.opening.findFrom? text.toList 0 with
  | none =>
    have hnone : m.opening.find? text.toList = none := by simpa [Marker.findFrom?] using hfind
    have hend := Scan.go_of_none handler "" [] [] hnone
    rw [List.nil_append, List.length_nil] at hend
    simp [hend]
  | some i => simp

end SqlTemplate
