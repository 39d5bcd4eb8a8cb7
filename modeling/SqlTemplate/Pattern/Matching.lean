import SqlTemplate.Pattern.Basic

/-!
# Matching

A text is searched for a pattern by going through it once, with marks on the pattern: a set of
characters is **reached** if the character just read was taken for it. All matches that have been
begun are followed at the same time, each by the mark at which it has arrived. `shift` moves the
marks over the next character, `ends` tells whether a mark is at the end of the pattern, and
`nullable` whether the pattern is satisfied without reading. All three know the character before
the place and the one after it, so the conditions are decided where they stand.

`Pattern.occursIn` looks for a match that starts and ends anywhere in a text.
-/

namespace SqlTemplate

/-- A pattern with marks. -/
inductive Marked where
  | nothing
  | anchor (a : Anchor)
  | set (s : CharSet) (reached : Bool)
  | seq (p q : Marked)
  | alt (p q : Marked)
  | star (p : Marked)

namespace Marked

/-! ## From patterns -/

/-- A pattern `n` times, as a tree without long branches. -/
def copies (p : Marked) (n : Nat) : Marked :=
  if n = 0 then nothing
  else if n = 1 then p
  else seq (copies p (n / 2)) (copies p (n - n / 2))
termination_by n

/-- A pattern without marks. -/
def ofPattern : Pattern → Marked
  | .nothing => nothing
  | .anchor a => anchor a
  | .set s => set s false
  | .seq p q => seq (ofPattern p) (ofPattern q)
  | .alt p q => alt (ofPattern p) (ofPattern q)
  | .repeated p low none => seq (copies (ofPattern p) low) (star (ofPattern p))
  | .repeated p low (some high) =>
    seq (copies (ofPattern p) low) (copies (alt nothing (ofPattern p)) (high - low))

/-! ## At a place -/

/-- Whether a pattern is satisfied at a place without reading. -/
def nullable (before after : Option Char) : Marked → Bool
  | nothing => true
  | anchor a => a.holds before after
  | set _ _ => false
  | seq p q => p.nullable before after && q.nullable before after
  | alt p q => p.nullable before after || q.nullable before after
  | star _ => true

/-- Whether a match that has been begun may end at a place. -/
def ends (before after : Option Char) : Marked → Bool
  | nothing => false
  | anchor _ => false
  | set _ reached => reached
  | seq p q => (p.ends before after && q.nullable before after) || q.ends before after
  | alt p q => p.ends before after || q.ends before after
  | star p => p.ends before after

/-- Moves the marks over the character `c`; `enter` tells whether a match may come to the pattern
from what stands before it. -/
def shift (before : Option Char) (c : Char) (enter : Bool) : Marked → Marked
  | nothing => nothing
  | anchor a => anchor a
  | set s _ => set s (enter && s.has c)
  | seq p q =>
    let through := (enter && p.nullable before (some c)) || p.ends before (some c)
    seq (p.shift before c enter) (q.shift before c through)
  | alt p q => alt (p.shift before c enter) (q.shift before c enter)
  | star p => star (p.shift before c (enter || p.ends before (some c)))

/-- Whether a match is complete at a place. -/
def isComplete (p : Marked) (before after : Option Char) : Bool :=
  p.nullable before after || p.ends before after

/-- Whether a match is completed in the rest of a text; a new one may begin at each place. -/
def occursFrom (p : Marked) (before : Option Char) : List Char → Bool
  | [] => p.isComplete before none
  | c :: rest =>
    p.isComplete before (some c) || occursFrom (p.shift before c true) (some c) rest

end Marked

/-- Whether a pattern matches anywhere in a text. -/
def Pattern.occursIn (p : Pattern) (text : String) : Bool :=
  (Marked.ofPattern p).occursFrom none text.toList

end SqlTemplate
