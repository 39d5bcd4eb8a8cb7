import SqlTemplate.Text.Cut

/-!
# Spans between markers

A **span** is the text between an opening and a closing marker, such as `id` between `#` with an
opening brace and a closing brace; the text between two spans is **literal**. `Split.ofChars` cuts a
text into literals and the contents of its spans, from left to right:

* A backslash directly before an opening marker makes the marker literal and is itself dropped.
* A backslash directly before a closing marker makes the marker part of the content and is itself
  dropped. A closing marker directly after the opening one is never such.
* An opening marker that no closing marker follows is literal, and so is everything after it.

How a text is cut does not depend on what is done with the contents: `Markers.replace` and
`Markers.replaceM` put something in the place of each span, the latter with an effect.

A cut can **tear**. After a marker that itself ends in a backslash, an opening marker follows a
backslash that belongs to the marker before it and cannot be dropped any more. Such a text has no
literal after its last span (`tail = none`). Markers that do not end in a backslash never tear.
-/

namespace SqlTemplate

/-! ## Markers -/

/-- A marker: a text that is not empty. -/
structure Marker where
  first : Char
  more : List Char
  deriving DecidableEq, Repr

namespace Marker

/-- The characters of a marker. -/
def chars (m : Marker) : List Char := m.first :: m.more

/-- Whether a marker ends in a backslash. -/
def endsInBackslash (m : Marker) : Bool := m.chars.getLast? == some '\\'

/-- What follows the marker in the text `c :: rest`, if the text starts with it. -/
def strip? (m : Marker) (c : Char) (rest : List Char) : Option (List Char) :=
  if c = m.first then Text.after? m.more rest else none

theorem eq_append_of_strip? {m : Marker} {c : Char} {rest after : List Char}
    (h : m.strip? c rest = some after) : c :: rest = m.chars ++ after := by
  simp only [strip?] at h
  split at h
  · next hc => simp [chars, hc, Text.after?_eq_some_iff.1 h]
  · contradiction

theorem length_of_strip? {m : Marker} {c : Char} {rest after : List Char}
    (h : m.strip? c rest = some after) : after.length ≤ rest.length := by
  have := congrArg List.length (eq_append_of_strip? h)
  simp [chars] at this
  omega

end Marker

/-- The two markers around a span. -/
structure Markers where
  opening : Marker
  closing : Marker
  deriving DecidableEq, Repr

namespace Markers

/-- The markers of placeholders. -/
def placeholder : Markers := ⟨⟨'#', ['\x7b']⟩, ⟨'\x7d', []⟩⟩

/-- The markers of substitutions. -/
def substitution : Markers := ⟨⟨'$', ['\x7b']⟩, ⟨'\x7d', []⟩⟩

/-- The markers with these texts, if neither is empty. -/
def ofStrings? (opening closing : String) : Option Markers :=
  match opening.toList, closing.toList with
  | o :: os, c :: cs => some ⟨⟨o, os⟩, ⟨c, cs⟩⟩
  | _, _ => none

/-- Encloses a content between the markers. -/
def enclose (markers : Markers) (content : String) : String :=
  String.ofList (markers.opening.chars ++ content.toList ++ markers.closing.chars)

end Markers

/-! ## Cutting a text -/

/-- A span with the literal before it. -/
structure Span where
  lead : List Char
  content : List Char
  deriving DecidableEq, Repr

/-- A text cut into spans and the literal after the last of them; none if the cut tears. -/
structure Split where
  spans : List Span
  tail : Option (List Char)
  deriving DecidableEq, Repr

namespace Split

/-- The content up to the closing marker, and the text after it. `seen` is the content so far
and `run` its part since the last marker, both last character first. -/
def content? (closing : Marker) (seen run : List Char) :
    List Char → Option (List Char × List Char)
  | [] => none
  | c :: rest =>
    match _h : closing.strip? c rest with
    | none => content? closing seen (c :: run) rest
    | some after =>
      match run with
      | '\\' :: run => content? closing (closing.chars.reverse ++ run ++ seen) [] after
      | run => some ((run ++ seen).reverse, after)
termination_by text => text.length
decreasing_by
  · simp
  · have := Marker.length_of_strip? _h
    simp only [List.length_cons]
    omega

theorem length_of_content? {closing : Marker} {seen run text content after : List Char}
    (h : content? closing seen run text = some (content, after)) :
    after.length < text.length := by
  fun_induction content? closing seen run text with
  | case1 => contradiction
  | case2 _ _ _ _ _ ih => exact Nat.lt_succ_of_lt (ih h)
  | case3 _ _ _ _ hs _ ih =>
    have := Marker.length_of_strip? hs
    have := ih h
    simp only [List.length_cons]
    omega
  | case4 _ _ _ _ hs _ _ =>
    have := Marker.length_of_strip? hs
    cases h
    simp only [List.length_cons]
    omega

/-- Adds a span before a cut. -/
def cons (lead content : List Char) (s : Split) : Split := ⟨⟨lead, content⟩ :: s.spans, s.tail⟩

/-- Cuts a text. `seen` is the literal so far and `run` its part since the last marker, both
last character first; `stuck` tells whether that marker ends in a backslash. -/
def ofCharsFrom (m : Markers) (seen run : List Char) (stuck : Bool) : List Char → Split
  | [] => ⟨[], some (run ++ seen).reverse⟩
  | c :: rest =>
    match _h : m.opening.strip? c rest with
    | none => ofCharsFrom m seen (c :: run) stuck rest
    | some after =>
      match run with
      | '\\' :: run =>
        ofCharsFrom m (m.opening.chars.reverse ++ run ++ seen) [] m.opening.endsInBackslash after
      | run =>
        if run.isEmpty && stuck then ⟨[], none⟩
        else
          match _h' : content? m.closing [] [] after with
          | none => ⟨[], some ((run ++ seen).reverse ++ c :: rest)⟩
          | some (content, after') =>
            cons (run ++ seen).reverse content
              (ofCharsFrom m [] [] m.closing.endsInBackslash after')
termination_by text => text.length
decreasing_by
  · simp
  · have := Marker.length_of_strip? _h
    simp only [List.length_cons]
    omega
  · have := Marker.length_of_strip? _h
    have := length_of_content? _h'
    simp only [List.length_cons]
    omega

/-- Cuts a text at its spans. -/
def ofChars (m : Markers) (text : List Char) : Split := ofCharsFrom m [] [] false text

/-! ## Putting something in the place of the spans -/

/-- The contents of the spans, from left to right. -/
def contents (s : Split) : List String := s.spans.map fun span => String.ofList span.content

/-- Whether the text has a span. -/
def hasSpan (s : Split) : Bool := !s.spans.isEmpty

/-- Whether the cut tears. -/
def isTorn (s : Split) : Bool := s.tail.isNone

/-- The text with each span replaced by what is computed for its content, from left to right. -/
def joinM {m : Type → Type} [Monad m] (f : String → m String) (s : Split) : m String := do
  let parts ← s.spans.mapM fun span => do
    let part ← f (String.ofList span.content)
    return String.ofList span.lead ++ part
  return String.join parts ++ String.ofList (s.tail.getD [])

/-- The text with each span replaced by the image of its content. -/
def join (f : String → String) (s : Split) : String :=
  String.join (s.spans.map fun span => String.ofList span.lead ++ f (String.ofList span.content)) ++
    String.ofList (s.tail.getD [])

end Split

namespace Markers

/-- Cuts a text at its spans. -/
def split (markers : Markers) (text : String) : Split := Split.ofChars markers text.toList

/-- Replaces every span by what is computed for its content, from left to right. -/
def replaceM {m : Type → Type} [Monad m] (markers : Markers) (f : String → m String)
    (text : String) : m String := (markers.split text).joinM f

/-- Replaces every span by the image of its content. -/
def replace (markers : Markers) (f : String → String) (text : String) : String :=
  (markers.split text).join f

end Markers

end SqlTemplate
