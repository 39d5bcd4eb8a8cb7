import SqlTemplate.Json.Writer
import SqlTemplate.Value.Text

/-!
# Values and JSON

`ofJson` takes a JSON value as a parameter: integers keep their value exactly, those beyond 64 bits
with sign as decimals. `toJson` goes the other way: decimals become texts, bytes become arrays of
numbers, and numbers without a decimal form become null. `toCompactJson` writes a value as a JSON
text without going through a JSON value first.
-/

namespace SqlTemplate.Value

mutual

/-- A JSON value as a value. -/
def ofJson : Json → Value
  | .null => null
  | .bool b => bool b
  | .number (.int n) => int n
  | .number (.large n _) => decimal (Decimal.ofInt n)
  | .number (.float x) => float x
  | .text s => text s
  | .array items => list (ofJsonItems items)
  | .object members => map (ofJsonMembers members)

/-- The items of a JSON array as values. -/
def ofJsonItems : List Json → List Value
  | [] => []
  | item :: rest => ofJson item :: ofJsonItems rest

/-- The members of a JSON object as entries. -/
def ofJsonMembers : List (String × Json) → List (String × Value)
  | [] => []
  | (key, value) :: rest => (key, ofJson value) :: ofJsonMembers rest

end

/-- A floating-point number as a JSON value; JSON has finite numbers only. -/
def floatJson (x : Float) : Json := if x.isFinite then .number (.float x) else .null

/-- A byte as a JSON value. -/
def byteJson (b : UInt8) : Json := .number (.int (Int64.ofNat b.toNat))

mutual

/-- A value as a JSON value. -/
def toJson : Value → Json
  | null => .null
  | bool b => .bool b
  | int n => .number (.int n)
  | float x => floatJson x
  | decimal d => .text d.toText
  | text s => .text s
  | bytes bs => .array (bs.map byteJson)
  | list items => .array (toJsonItems items)
  | array items => .array (toJsonItems items)
  | map entries => .object (toJsonMembers entries)

/-- The items of a sequence as JSON values. -/
def toJsonItems : List Value → List Json
  | [] => []
  | item :: rest => toJson item :: toJsonItems rest

/-- The entries of a map as members of a JSON object. -/
def toJsonMembers : List (String × Value) → List (String × Json)
  | [] => []
  | (key, value) :: rest => (key, toJson value) :: toJsonMembers rest

end

mutual

/-- A value as a JSON text without gaps. -/
def toCompactJson : Value → String
  | null => "null"
  | bool b => if b then "true" else "false"
  | int n => toString n.toInt
  | float x => Json.floatText x
  | decimal d => Json.quoted d.toText
  | text s => Json.quoted s
  | bytes bs => "[" ++ ",".intercalate (bs.map fun b => toString b.toNat) ++ "]"
  | list items => "[" ++ ",".intercalate (compactJsonItems items) ++ "]"
  | array items => "[" ++ ",".intercalate (compactJsonItems items) ++ "]"
  | map entries => "\x7b" ++ ",".intercalate (compactJsonEntries entries) ++ "\x7d"

/-- The items of a sequence as JSON texts. -/
def compactJsonItems : List Value → List String
  | [] => []
  | item :: rest => toCompactJson item :: compactJsonItems rest

/-- The entries of a map as members of a JSON object. -/
def compactJsonEntries : List (String × Value) → List String
  | [] => []
  | (key, value) :: rest =>
    (Json.quoted key ++ ":" ++ toCompactJson value) :: compactJsonEntries rest

end

end SqlTemplate.Value
