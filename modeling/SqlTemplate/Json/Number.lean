/-!
# Numbers in JSON

A JSON number is read as one of three kinds: an integer of 64 bits with sign, a **large** integer
that only fits 64 bits without sign, or a floating-point number. Every number that has a fraction
or an exponent is of the third kind, and so are minus zero and the integers beyond 64 bits.

A **numeral** is such a number as it is written. `Numeral.toNumber?` gathers its digits into a
significand of at most 64 bits: the digits of the whole part that no longer fit each count as a
factor of ten, those of the fraction are dropped. The significand is then multiplied or divided
once by a power of ten, after divisions by `10 ^ 308` where one power is not enough. A number beyond
the largest floating-point number is an error, one below the smallest is zero.
-/

namespace SqlTemplate.Json

/-- A number of a JSON document. -/
inductive Number where
  | int (n : Int64)
  | large (n : Nat) (fits : 0x8000000000000000 ≤ n ∧ n ≤ 0xffffffffffffffff)
  | float (x : Float)

/-- A number as it is written: its sign, the digits before and after the point, and the exponent
with its sign and digits. -/
structure Numeral where
  negative : Bool
  whole : List Char
  fraction : Option (List Char)
  exponent : Option (Bool × List Char)

/-! ## Floating-point values -/

/-- The largest significand. -/
def maxSignificand : Nat := 0xffffffffffffffff

/-- The significand after one more digit, while it fits. -/
def pushDigit? (significand : Nat) (digit : Char) : Option Nat :=
  let next := 10 * significand + (digit.toNat - '0'.toNat)
  if next ≤ maxSignificand then some next else none

/-- Gathers the digits of a whole part; also counts those from the first that no longer fits. -/
def gatherWhole (significand : Nat) : List Char → Nat × Nat
  | [] => (significand, 0)
  | c :: rest =>
    match pushDigit? significand c with
    | some next => gatherWhole next rest
    | none => (significand, rest.length + 1)

/-- Gathers the digits of a fraction up to the first that no longer fits, and counts them. -/
def gatherFraction (significand : Nat) : List Char → Nat × Nat
  | [] => (significand, 0)
  | c :: rest =>
    match pushDigit? significand c with
    | some next =>
      let (s, n) := gatherFraction next rest
      (s, n + 1)
    | none => (significand, 0)

/-- The number `10 ^ n` as a floating-point number. -/
def powerOfTen (n : Nat) : Float := Float.ofScientific 1 false n

/-- `x · 10 ^ power`, or nothing when that is too large. -/
def scale? (x : Float) (power : Int) : Option Float :=
  if power.natAbs ≤ 308 then
    if 0 ≤ power then
      let y := x * powerOfTen power.natAbs
      if y.isInf then none else some y
    else some (x / powerOfTen power.natAbs)
  else if x == 0.0 then some x
  else if 0 ≤ power then none
  else scale? (x / powerOfTen 308) (power + 308)
termination_by power.natAbs

namespace Numeral

/-- The power of ten that the exponent part stands for. -/
def power (n : Numeral) : Int :=
  match n.exponent with
  | none => 0
  | some (negative, digits) =>
    let value : Int := Nat.ofDigitChars 10 digits 0
    if negative then -value else value

/-- The floating-point value of a numeral, if it is in range. -/
def toFloat? (n : Numeral) : Option Float :=
  let (significand, extra) := gatherWhole 0 n.whole
  let (significand, places) := gatherFraction significand (n.fraction.getD [])
  (scale? (Float.ofNat significand) (n.power + extra - places)).map fun x =>
    if n.negative then -x else x

/-- The number that a numeral stands for, if it is in range. -/
def toNumber? (n : Numeral) : Option Number :=
  let value := Nat.ofDigitChars 10 n.whole 0
  if n.fraction.isSome || n.exponent.isSome then n.toFloat?.map .float
  else if n.negative then
    if 0 < value && value ≤ 0x8000000000000000 then some (.int (Int64.ofInt (-value)))
    else n.toFloat?.map .float
  else if value < 0x8000000000000000 then some (.int (Int64.ofInt value))
  else if fits : 0x8000000000000000 ≤ value ∧ value ≤ 0xffffffffffffffff then
    some (.large value fits)
  else n.toFloat?.map .float

end Numeral

end SqlTemplate.Json
