import SqlTemplate.Pattern.Property

/-!
# Patterns

A pattern describes places in a text: sets of characters, sequences, alternatives and repetitions of
these, and conditions on the two characters around a place, such as the start of the text. An
`Anchor` is such a condition; `Anchor.holds` decides it from the two characters.
-/

namespace SqlTemplate

/-! ## Conditions on a place -/

/-- Where a place may be with respect to words. -/
inductive WordEdge where
  | boundary
  | noBoundary
  | start
  | finish
  /-- No word goes on before the place. -/
  | startHalf
  /-- No word goes on after the place. -/
  | finishHalf
  deriving DecidableEq, Repr

/-- Whether a place is where it should be, with or without a character of a word at each side. -/
def WordEdge.holds (before after : Bool) : WordEdge → Bool
  | boundary => before != after
  | noBoundary => before == after
  | start => !before && after
  | finish => before && !after
  | startHalf => !before
  | finishHalf => !after

/-- A condition on the characters around a place. -/
inductive Anchor where
  | start
  | finish
  /-- The start of a line; `returns` tells whether a carriage return ends a line too. -/
  | lineStart (returns : Bool)
  | lineFinish (returns : Bool)
  /-- A place with respect to words; `ascii` tells whether only characters below U+0080 make
  up words. -/
  | word (edge : WordEdge) (ascii : Bool)
  deriving DecidableEq, Repr

/-- The characters below U+0080 that make up words. -/
def CharSet.asciiWord : CharSet := CharSet.word.ascii

/-- Whether there is a character of a set at one side of a place. -/
def CharSet.isAt (s : CharSet) : Option Char → Bool
  | some c => s.has c
  | none => false

/-- Whether a condition holds between these characters. A carriage return and the line feed after
it end one line together. -/
def Anchor.holds (before after : Option Char) : Anchor → Bool
  | start => before.isNone
  | finish => after.isNone
  | lineStart false => before.isNone || before == some '\n'
  | lineStart true =>
    before.isNone || before == some '\n' || (before == some '\r' && after != some '\n')
  | lineFinish false => after.isNone || after == some '\n'
  | lineFinish true =>
    after.isNone || after == some '\r' || (after == some '\n' && before != some '\r')
  | word edge ascii =>
    let s := if ascii then CharSet.asciiWord else CharSet.word
    edge.holds (s.isAt before) (s.isAt after)

/-! ## Patterns -/

/-- A pattern. -/
inductive Pattern where
  | nothing
  | anchor (a : Anchor)
  | set (s : CharSet)
  | seq (p q : Pattern)
  | alt (p q : Pattern)
  /-- A pattern at least `low` times, and at most `high` times if there is such a bound. -/
  | repeated (p : Pattern) (low : Nat) (high : Option Nat)

end SqlTemplate
