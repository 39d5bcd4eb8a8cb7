import SqlTemplate.Pattern.Basic
import SqlTemplate.Pattern.Size

/-!
# Pieces of patterns

While a pattern is read, its **pieces** are put together: each has the pattern that it stands for,
the depth to which it is nested, and its size. Flags that are set for the rest of a group are a
piece too: they match nothing and take no room, but cannot be repeated. `Piece.accepted?` gives the
pattern of a piece that is within the limits.
-/

namespace SqlTemplate.Pattern

/-- A piece of a pattern. -/
structure Piece where
  pattern : Pattern
  /-- How deeply groups, repetitions, sequences, alternatives and classes are nested. -/
  depth : Nat := 0
  size : Size := .place
  /-- The piece is a setting of flags. -/
  isSetting : Bool := false

namespace Piece

/-- The piece of a place. -/
def ofAnchor (a : Anchor) : Piece := { pattern := .anchor a }

/-- The piece of a set of characters. -/
def ofSet (s : CharSet) (depth : Nat) : Piece := { pattern := .set s, depth, size := s.size }

/-- The piece of a setting of flags. -/
def setting : Piece := { pattern := .nothing, isSetting := true }

/-- The depth of the deepest of some pieces. -/
def deepest (pieces : List Piece) : Nat := (pieces.map (·.depth)).foldl max 0

/-- Pieces one after another. Settings take no room. -/
def sequence : List Piece → Piece
  | [] => { pattern := .nothing }
  | [piece] => piece
  | pieces =>
    let sizes := (pieces.filter (!·.isSetting)).map (·.size)
    { pattern := pieces.foldr (fun piece rest => .seq piece.pattern rest) .nothing
      depth := deepest pieces + 1
      size :=
        match sizes with
        | [] => .place
        | size :: sizes => sizes.foldl .seq size }

/-- Pieces of which one matches. -/
def choice : List Piece → Piece
  | [] => { pattern := .nothing }
  | [piece] => piece
  | first :: others =>
    { pattern := others.foldl (fun rest piece => .alt rest piece.pattern) first.pattern
      depth := deepest (first :: others) + 1
      size := .alternatives ((first :: others).map (·.size)) }

/-- A group; `captured` tells whether its place is kept. -/
def group (captured : Bool) (piece : Piece) : Piece :=
  { piece with
    depth := piece.depth + 1
    size := if captured then piece.size.captured else piece.size
    isSetting := false }

/-- The repetition of a piece. One that reads nothing is taken once at most. -/
def repeated (piece : Piece) (low : Nat) (high : Option Nat) : Piece :=
  let low := if piece.size.onlyEmpty then min low 1 else low
  let high := if piece.size.onlyEmpty then some (min (high.getD 1) 1) else high
  { pattern := if high == some 0 then .nothing else .repeated piece.pattern low high
    depth := piece.depth + 1
    size := piece.size.repeated low high }

/-- The greatest depth of a pattern. -/
def depthLimit : Nat := 250

/-- The pattern of a piece, if its depth and its size are within the limits. -/
def accepted? (piece : Piece) : Option Pattern :=
  if piece.depth ≤ depthLimit && piece.size.fits then some piece.pattern else none

end Piece

end SqlTemplate.Pattern
