import SqlTemplate.Text.Cut

/-!
# Property paths

A property path such as `order.lines[0].price` is a sequence of **segments** between dots. A segment
has a name and, from its first opening bracket on, an index; closing brackets at its end are not
part of the index.
-/

namespace SqlTemplate

/-- A segment of a property path. -/
structure Segment where
  name : String
  index : Option String
  deriving DecidableEq, Repr

namespace Segment

/-- The segment that stands between two dots. -/
def ofPiece (piece : List Char) : Segment :=
  let (name, index) := Text.cut (· == '[') piece
  { name := String.ofList name
    index := index.map fun index =>
      String.ofList (index.reverse.dropWhile (· == ']')).reverse }

/-- The segments of a property path. -/
def ofPath (path : String) : List Segment := (Text.pieces '.' path.toList).map ofPiece

end Segment

end SqlTemplate
