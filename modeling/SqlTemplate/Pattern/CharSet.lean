import SqlTemplate.Text.Range

/-!
# Sets of characters

A set of characters is kept as ranges of code points in ascending order, none of which touches the
next, so that equal sets have equal ranges. `ofRanges` brings any table into this form. The other
operations come down to joining tables and to `complement`, which is made of the gaps.
-/

namespace SqlTemplate

open Text

/-- A set of characters. -/
structure CharSet where
  ranges : RangeTable
  deriving DecidableEq, Repr

namespace CharSet

/-- The greatest code point. -/
def lastCodePoint : Nat := 0x10ffff

/-! ## Sets from tables -/

/-- Joins the ranges that overlap or touch; they come in the order of their lower ends. -/
def joined : RangeTable → RangeTable
  | (a, b) :: (c, d) :: rest =>
    if c ≤ b + 1 then joined ((a, max b d) :: rest) else (a, b) :: joined ((c, d) :: rest)
  | table => table
termination_by table => table.length

/-- The set of the characters in a table. -/
def ofRanges (table : RangeTable) : CharSet :=
  ⟨joined (table.mergeSort fun r q => decide (r.1 ≤ q.1))⟩

/-- The set of no character. -/
def empty : CharSet := ⟨[]⟩

/-- The set of the characters between two code points. -/
def range (low high : Nat) : CharSet := ⟨[(low, high)]⟩

/-- The set of one character. -/
def single (c : Char) : CharSet := range c.toNat c.toNat

/-! ## Operations -/

/-- The characters in either of two sets. -/
def union (a b : CharSet) : CharSet := ofRanges (a.ranges ++ b.ranges)

/-- What a table leaves out from the code point `low` on. -/
def gaps (low : Nat) : RangeTable → RangeTable
  | [] => if low ≤ lastCodePoint then [(low, lastCodePoint)] else []
  | (a, b) :: rest => if low < a then (low, a - 1) :: gaps (b + 1) rest else gaps (b + 1) rest

/-- The characters that are not in a set. -/
def complement (a : CharSet) : CharSet := ⟨gaps 0 a.ranges⟩

/-- The characters in both of two sets. -/
def inter (a b : CharSet) : CharSet := complement (union (complement a) (complement b))

/-- The characters in the first of two sets but not in the second. -/
def without (a b : CharSet) : CharSet := inter a (complement b)

/-- The characters in exactly one of two sets. -/
def eitherOnly (a b : CharSet) : CharSet := union (without a b) (without b a)

/-! ## Questions -/

/-- Whether a character is in a set. -/
def has (s : CharSet) (c : Char) : Bool := s.ranges.covers c

/-- Whether all characters of a set are below U+0080. -/
def isAscii (s : CharSet) : Bool := s.ranges.all fun range => decide (range.2 < 0x80)

/-- The characters below U+0080 that are in a set. -/
def ascii (s : CharSet) : CharSet := inter s (range 0 0x7f)

end CharSet

end SqlTemplate
