/-!
# The shortest decimal inside an interval

A binary floating-point number stands for every real number that rounds to it: an **interval**
around its value. To write it with as few digits as possible one looks for the coarsest grid
`c · 10 ^ k` that has a point in the interval, and takes the point nearest to the value. Where two
points are equally near, a `Tie` says which one it is.

All numbers here are natural numbers over a common `unit`, so the search is exact. If a grid
has a point in the interval, then one of the two grid points next to the value is in it;
`Interval.nearest?` looks at these two only. The search starts at the first power of ten above the
value, and seventeen digits are always enough for a number of 53 bits.
-/

namespace SqlTemplate

/-- Which of two neighbours is taken that are equally near. -/
inductive Tie where
  | upper
  | even
  deriving DecidableEq, Repr

/-- Whether the upper one of `below` and `below + 1` is taken. -/
def Tie.isUpper (tie : Tie) (below : Nat) : Bool :=
  match tie with
  | upper => true
  | even => below % 2 == 1

/-- A positive value between two bounds, all three in multiples of `1 / unit`. -/
structure Interval where
  low : Nat
  value : Nat
  high : Nat
  unit : Nat
  /-- Whether the bounds belong to the interval. -/
  closed : Bool

namespace Interval

/-- The same interval measured in multiples of `10 ^ k`. -/
def inPowersOfTen (i : Interval) (k : Int) : Interval :=
  let up := Nat.pow 10 (-k).toNat
  { low := i.low * up, value := i.value * up, high := i.high * up,
    unit := i.unit * Nat.pow 10 k.toNat, closed := i.closed }

/-- Whether the whole number `c` lies in the interval. -/
def admits (i : Interval) (c : Nat) : Bool :=
  if i.closed then i.low ≤ c * i.unit && c * i.unit ≤ i.high
  else i.low < c * i.unit && c * i.unit < i.high

/-- The whole number in the interval that is nearest to the value, if there is one. -/
def nearest? (i : Interval) (tie : Tie) : Option Nat :=
  let below := i.value / i.unit
  match i.admits below, i.admits (below + 1) with
  | true, true =>
    let toBelow := i.value - below * i.unit
    let toAbove := (below + 1) * i.unit - i.value
    if toAbove < toBelow || (toAbove == toBelow && tie.isUpper below) then some (below + 1)
    else some below
  | true, false => some below
  | false, true => some (below + 1)
  | false, false => none

/-- The least `e` with `value < 10 ^ e`. -/
def magnitude (i : Interval) : Int :=
  if i.unit ≤ i.value then (Nat.toDigits 10 (i.value / i.unit)).length
  else
    let places := (Nat.toDigits 10 (i.unit / i.value)).length
    if i.unit ≤ i.value * Nat.pow 10 (places - 1) then 2 - (places : Int) else 1 - (places : Int)

/-- The digits `c` and the power `k` of the shortest `c · 10 ^ k` in the interval. -/
def shortest (i : Interval) (tie : Tie) : Nat × Int :=
  let candidates := (List.range 18).findSome? fun (n : Nat) =>
    let k := i.magnitude - (n : Int)
    ((i.inPowersOfTen k).nearest? tie).map fun c => (c, k)
  candidates.getD (i.value / i.unit, 0)

end Interval

end SqlTemplate
