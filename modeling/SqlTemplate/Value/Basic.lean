import SqlTemplate.Keyed
import SqlTemplate.Number.Double

/-!
# Values

A **value** is what a template can see: the parameter it is expanded for, what is bound to a name,
and what an expression evaluates to. Numbers come in three kinds, and `toDecimal?` gives what they
have in common: the exact decimal that each of them stands for.

Lists and arrays hold the same things and differ only in kind. The entries of a map stand in
ascending order of their keys (`Keyed`).
-/

namespace SqlTemplate

/-- A dynamically typed value. -/
inductive Value where
  | null
  | bool (b : Bool)
  | int (n : Int64)
  | float (x : Float)
  | decimal (d : Decimal)
  | text (s : String)
  | bytes (bytes : List UInt8)
  | list (items : List Value)
  | array (items : List Value)
  | map (entries : List (String × Value))
  deriving Inhabited

/-- The kinds of values. -/
inductive Kind where
  | null
  | bool
  | int
  | float
  | decimal
  | text
  | bytes
  | list
  | array
  | map
  deriving DecidableEq, Repr

/-- The word for a kind. -/
def Kind.name : Kind → String
  | .null => "null"
  | .bool => "bool"
  | .int => "int"
  | .float => "float"
  | .decimal => "decimal"
  | .text => "text"
  | .bytes => "bytes"
  | .list => "list"
  | .array => "array"
  | .map => "map"

namespace Value

/-- The kind of a value. -/
def kind : Value → Kind
  | null => .null
  | bool _ => .bool
  | int _ => .int
  | float _ => .float
  | decimal _ => .decimal
  | text _ => .text
  | bytes _ => .bytes
  | list _ => .list
  | array _ => .array
  | map _ => .map

/-- Whether a value is null. -/
def isNull : Value → Bool
  | null => true
  | _ => false

/-- Whether a value binds as a single parameter: it is not a list, an array or a map. -/
def isScalar : Value → Bool
  | list _ | array _ | map _ => false
  | _ => true

/-- Whether a value is a number of any kind. -/
def isNumber : Value → Bool
  | int _ | float _ | decimal _ => true
  | _ => false

/-- The exact decimal that a finite number stands for. -/
def toDecimal? : Value → Option Decimal
  | int n => some (Decimal.ofInt n.toInt)
  | float x => Double.toDecimal? x
  | decimal d => some d
  | _ => none

/-- The text of a text. -/
def text? : Value → Option String
  | text s => some s
  | _ => none

/-- The value of a key, if the value is a map that has it. -/
def get? (key : String) : Value → Option Value
  | map entries => Keyed.get? key entries
  | _ => none

/-- Reading a value as a condition: a boolean is itself, a number is true unless it is exactly
zero, anything else is true unless it is null. -/
def truthy : Value → Bool
  | bool b => b
  | int n => n != 0
  | float x => (Double.toDecimal? x).all fun d => !d.isZero
  | decimal d => !d.isZero
  | null => false
  | _ => true

/-! ## Equality -/

mutual

/-- Whether two values of one kind are equal. Decimals are compared as numbers, floating-point
numbers as such: no number equals one of another kind here, and what is not a number does not equal
itself. -/
def same : Value → Value → Bool
  | null, null => true
  | bool a, bool b => a == b
  | int a, int b => a == b
  | float a, float b => a == b
  | decimal a, decimal b => Decimal.same a b
  | text a, text b => a == b
  | bytes a, bytes b => a == b
  | list a, list b => sameItems a b
  | array a, array b => sameItems a b
  | map a, map b => sameEntries a b
  | _, _ => false

/-- Whether two sequences are equal item by item. -/
def sameItems : List Value → List Value → Bool
  | [], [] => true
  | a :: as, b :: bs => same a b && sameItems as bs
  | _, _ => false

/-- Whether two maps have the same keys with equal values. -/
def sameEntries : List (String × Value) → List (String × Value) → Bool
  | [], [] => true
  | (j, a) :: as, (k, b) :: bs => j == k && same a b && sameEntries as bs
  | _, _ => false

end

/-- Whether two values are equal in an expression: numbers of any kind as exact decimals, all
other values as `same` has it. -/
def equal (a b : Value) : Bool :=
  match a.toDecimal?, b.toDecimal? with
  | some a, some b => Decimal.same a b
  | _, _ => same a b

/-- The order of two values: numbers of any kind as exact decimals, texts by code points. Other
pairs have none. -/
def compare? (a b : Value) : Option Ordering :=
  match a.toDecimal?, b.toDecimal? with
  | some a, some b => some (Decimal.compare a b)
  | _, _ =>
    match a, b with
    | text a, text b => some (Ord.compare a b)
    | _, _ => none

end Value

end SqlTemplate
