import SqlTemplate.Number.Decimal
import SqlTemplate.Number.Shortest

/-!
# Floating-point numbers as text

A finite `Float` is `± mantissa · 2 ^ exponent`, read off its 64 bits (`Double.Shape`). Its text has
the shortest digits that read back as the same number, a tie going up, and its decimal is the
number that this text shows.

* `Double.toText` writes them in positional notation whatever the exponent, whole numbers without
  a point, and the sign of zero is kept.
* `Double.toDecimal?` is the number that the text shows; only finite numbers have one.
* `Double.read?` reads a number with or without an exponent, rounding to the nearest.
-/

namespace SqlTemplate

namespace Double

/-! ## Bits -/

/-- What the 64 bits of a floating-point number say. -/
inductive Shape where
  | nan
  | infinite (negative : Bool)
  | zero (negative : Bool)
  /-- The number `± mantissa · 2 ^ exponent`. The neighbour below is half as far away as the
  one above when the number is `lowest` among those with its exponent. -/
  | finite (negative : Bool) (mantissa : Nat) (exponent : Int) (lowest : Bool)

/-- The shape of a floating-point number. -/
def shape (x : Float) : Shape :=
  let bits := x.toBits.toNat
  let negative := bits / 0x8000000000000000 == 1
  let biased : Nat := bits / 0x10000000000000 % 0x800
  let fraction : Nat := bits % 0x10000000000000
  if biased == 0x7ff then (if fraction == 0 then .infinite negative else .nan)
  else if biased == 0 then
    if fraction == 0 then .zero negative else .finite negative fraction (-1074) false
  else
    .finite negative (0x10000000000000 + fraction) ((biased : Int) - 1075)
      (fraction == 0 && 1 < biased)

/-- The real numbers that round to `mantissa · 2 ^ exponent`, in quarters of the last place. -/
def interval (mantissa : Nat) (exponent : Int) (lowest : Bool) : Interval :=
  let up := Nat.pow 2 (exponent - 2).toNat
  { low := (4 * mantissa - if lowest then 1 else 2) * up
    value := 4 * mantissa * up
    high := (4 * mantissa + 2) * up
    unit := Nat.pow 2 (2 - exponent).toNat
    closed := mantissa % 2 == 0 }

/-! ## Text -/

/-- `digits · 10 ^ power` in positional notation. -/
def positional (digits : List Char) (power : Int) : List Char :=
  if 0 ≤ power then digits ++ List.replicate power.toNat '0'
  else Decimal.withPoint digits (-power).toNat

/-- A text with a minus sign before it, if asked for. -/
def signed (negative : Bool) (text : List Char) : String :=
  String.ofList (if negative then '-' :: text else text)

/-- The text of a floating-point number, in positional notation. -/
def toText (x : Float) : String :=
  match shape x with
  | .nan => "NaN"
  | .infinite negative => signed negative ['i', 'n', 'f']
  | .zero negative => signed negative ['0']
  | .finite negative mantissa exponent lowest =>
    let (c, power) := (interval mantissa exponent lowest).shortest .upper
    signed negative (positional (Nat.toDigits 10 c) power)

/-- The decimal that the text of a finite number shows. -/
def toDecimal? (x : Float) : Option Decimal :=
  match shape x with
  | .nan | .infinite _ => none
  | .zero _ => some ⟨0, 0⟩
  | .finite negative mantissa exponent lowest =>
    let (c, power) := (interval mantissa exponent lowest).shortest .upper
    let digits : Int := (c * Nat.pow 10 power.toNat : Nat)
    some ⟨if negative then -digits else digits, (-power).toNat⟩

/-! ## Reading -/

/-- The number nearest to `digits · 10 ^ power`. Powers far outside the range of floating-point
numbers are cut short, so that no needless power of ten is computed. -/
def ofDecimal (digits : Nat) (power : Int) : Float :=
  let places : Int := (Nat.toDigits 10 digits).length
  if digits == 0 || places + power < -400 then 0.0
  else if 400 < places + power then 1.0 / 0.0
  else if 0 ≤ power then Float.ofScientific digits false power.toNat
  else Float.ofScientific digits true (-power).toNat

/-- The optional sign before a number: whether it is a minus, and what follows. -/
def takeSign : List Char → Bool × List Char
  | '-' :: rest => (true, rest)
  | '+' :: rest => (false, rest)
  | text => (false, text)

/-- The exponent part of a number: nothing, or a mark, an optional sign and digits. -/
def readExponent? : List Char → Option Int
  | [] => some 0
  | c :: rest =>
    if c == 'e' || c == 'E' then
      let (negative, digits) := takeSign rest
      if digits.isEmpty || !digits.all Char.isDigit then none
      else
        let n : Int := Nat.ofDigitChars 10 digits 0
        some (if negative then -n else n)
    else none

/-- The digits after a point, if the text goes on with one. -/
def takeFraction : List Char → List Char × List Char
  | '.' :: rest => (rest.takeWhile Char.isDigit, rest.dropWhile Char.isDigit)
  | text => ([], text)

/-- Reads a number without sign: the words for infinity and for no number, or digits with an
optional fraction and an optional exponent. -/
def readMagnitude? (text : List Char) : Option Float :=
  let word := text.map Char.toLower
  if word == "inf".toList || word == "infinity".toList then some (1.0 / 0.0)
  else if word == "nan".toList then some (0.0 / 0.0)
  else
    let whole := text.takeWhile Char.isDigit
    let (fraction, rest) := takeFraction (text.dropWhile Char.isDigit)
    if whole.isEmpty && fraction.isEmpty then none
    else
      (readExponent? rest).map fun exponent =>
        ofDecimal (Nat.ofDigitChars 10 (whole ++ fraction) 0) (exponent - fraction.length)

/-- Reads a number, rounding to the nearest. -/
def read? (text : String) : Option Float :=
  let (negative, magnitude) := takeSign text.toList
  (readMagnitude? magnitude).map fun x => if negative then -x else x

end Double

end SqlTemplate
