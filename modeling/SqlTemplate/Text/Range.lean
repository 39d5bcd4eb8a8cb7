/-!
# Classes of characters

A class of characters that no short rule describes is a table of ranges of code points, each
range with its two ends. `covers` asks whether a code point lies in one of the ranges. The tables
for texts and expressions are those of Unicode 17; patterns have sets of their own, those of
Unicode 16.
-/

namespace SqlTemplate.Text

/-- A table of ranges of code points, the ends included. -/
abbrev RangeTable := List (Nat × Nat)

/-- Whether a code point lies in one of the ranges. -/
def RangeTable.covers (table : RangeTable) (c : Char) : Bool :=
  table.any fun range => range.1 ≤ c.toNat && c.toNat ≤ range.2

end SqlTemplate.Text
