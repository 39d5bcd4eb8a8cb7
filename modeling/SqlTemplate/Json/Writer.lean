import SqlTemplate.Json.Basic
import SqlTemplate.Number.Double

/-!
# Writing JSON

A JSON value becomes a text in two steps. `Json.toDocument` decides how each number is written;
`Document.compact` then writes the document without any gap, and `Document.pretty` with one item or
member on each line. Texts are quoted with as few escapes as JSON allows: the quote, the backslash
and the characters below the space.

A floating-point number has the shortest digits that read back, of two equally near ones the even
one. It is positional, with at least one digit after the point, while its first digit stands for at
least `10 ^ -5` and for less than `10 ^ 16`; beyond that it has one digit before the point and a
signed exponent. JSON has no infinite numbers; they, and what is not a number, are written as
`null`.
-/

namespace SqlTemplate.Json

/-! ## Texts and numerals -/

/-- How a character is written inside a text. -/
def escapeChar (c : Char) : List Char :=
  match c with
  | '"' => ['\\', '"']
  | '\\' => ['\\', '\\']
  | '\x08' => ['\\', 'b']
  | '\x0c' => ['\\', 'f']
  | '\n' => ['\\', 'n']
  | '\r' => ['\\', 'r']
  | '\t' => ['\\', 't']
  | c =>
    if c.toNat < 0x20 then
      ['\\', 'u', '0', '0', Nat.digitChar (c.toNat / 16), Nat.digitChar (c.toNat % 16)]
    else [c]

/-- A text between quotes. -/
def quoted (text : String) : String :=
  String.ofList ('"' :: text.toList.flatMap escapeChar ++ ['"'])

/-- The text of a numeral. -/
def Numeral.toText (n : Numeral) : String :=
  let sign := if n.negative then ['-'] else []
  let fraction := match n.fraction with
    | some digits => '.' :: digits
    | none => []
  let exponent := match n.exponent with
    | some (negative, digits) => 'e' :: (if negative then '-' else '+') :: digits
    | none => []
  String.ofList (sign ++ n.whole ++ fraction ++ exponent)

/-- The numeral of an integer. -/
def Numeral.ofInt (n : Int) : Numeral :=
  { negative := n < 0, whole := Nat.toDigits 10 n.natAbs, fraction := none, exponent := none }

/-- The numeral for `± digits · 10 ^ power`. -/
def Numeral.ofDigits (negative : Bool) (digits : List Char) (power : Int) : Numeral :=
  let leading := power + digits.length - 1
  if leading < -5 || 16 ≤ leading then
    { negative, whole := digits.take 1
      fraction := if digits.length ≤ 1 then none else some (digits.drop 1)
      exponent := some (leading < 0, Nat.toDigits 10 leading.natAbs) }
  else if 0 ≤ power then
    { negative, whole := digits ++ List.replicate power.toNat '0'
      fraction := some ['0'], exponent := none }
  else
    let places := (-power).toNat
    if places < digits.length then
      { negative, whole := digits.take (digits.length - places)
        fraction := some (digits.drop (digits.length - places)), exponent := none }
    else
      { negative, whole := ['0']
        fraction := some (List.replicate (places - digits.length) '0' ++ digits)
        exponent := none }

/-- The numeral of a floating-point number, if it is finite. -/
def Numeral.ofFloat? (x : Float) : Option Numeral :=
  match Double.shape x with
  | .nan | .infinite _ => none
  | .zero negative => some { negative, whole := ['0'], fraction := some ['0'], exponent := none }
  | .finite negative mantissa exponent lowest =>
    let (c, power) := (Double.interval mantissa exponent lowest).shortest .even
    some (Numeral.ofDigits negative (Nat.toDigits 10 c) power)

/-- The text of a floating-point number. -/
def floatText (x : Float) : String :=
  match Numeral.ofFloat? x with
  | some n => n.toText
  | none => "null"

/-- The document of a number. -/
def Number.toDocument : Number → Document
  | .int n => .number (Numeral.ofInt n.toInt)
  | .large n _ => .number (Numeral.ofInt n)
  | .float x =>
    match Numeral.ofFloat? x with
    | some n => .number n
    | none => .null

mutual

/-- How a value is written. -/
def toDocument : Json → Document
  | .null => .null
  | .bool b => .bool b
  | .number n => n.toDocument
  | .text s => .text (some s)
  | .array items => .array (toDocuments items)
  | .object members => .object (toMembers members)

/-- How the items of an array are written. -/
def toDocuments : List Json → List Document
  | [] => []
  | item :: rest => toDocument item :: toDocuments rest

/-- How the members of an object are written. -/
def toMembers : List (String × Json) → Members
  | [] => []
  | (key, value) :: rest => (some key, toDocument value) :: toMembers rest

end

/-! ## Documents -/

namespace Document

/-- A text between quotes; a text without characters is left empty. -/
def quotedText (content : Option String) : String := quoted (content.getD "")

mutual

/-- A document without gaps. -/
def compact : Document → String
  | .null => "null"
  | .bool true => "true"
  | .bool false => "false"
  | .number n => n.toText
  | .text content => quotedText content
  | .array items => "[" ++ ",".intercalate (compactItems items) ++ "]"
  | .object members => "\x7b" ++ ",".intercalate (compactMembers members) ++ "\x7d"

/-- The items of an array without gaps. -/
def compactItems : List Document → List String
  | [] => []
  | item :: rest => compact item :: compactItems rest

/-- The members of an object without gaps. -/
def compactMembers : Members → List String
  | [] => []
  | (key, value) :: rest => (quotedText key ++ ":" ++ compact value) :: compactMembers rest

end

/-- A line end and the gap before what stands at a level of nesting. -/
def lineBreak (level : Nat) : String := String.ofList ('\n' :: List.replicate (2 * level) ' ')

/-- Parts between brackets, each on its own line one level deeper. -/
def block (opening closing : String) (level : Nat) (parts : List String) : String :=
  if parts.isEmpty then opening ++ closing
  else
    opening ++ lineBreak (level + 1) ++ ("," ++ lineBreak (level + 1)).intercalate parts ++
      lineBreak level ++ closing

mutual

/-- A document at a level of nesting, with one item or member on each line. -/
def prettyAt (level : Nat) : Document → String
  | .array items => block "[" "]" level (prettyItems (level + 1) items)
  | .object members => block "\x7b" "\x7d" level (prettyMembers (level + 1) members)
  | .null => "null"
  | .bool true => "true"
  | .bool false => "false"
  | .number n => n.toText
  | .text content => quotedText content

/-- The items of an array. -/
def prettyItems (level : Nat) : List Document → List String
  | [] => []
  | item :: rest => prettyAt level item :: prettyItems level rest

/-- The members of an object. -/
def prettyMembers (level : Nat) : Members → List String
  | [] => []
  | (key, value) :: rest =>
    (quotedText key ++ ": " ++ prettyAt level value) :: prettyMembers level rest

end

/-- A document with one item or member on each line. -/
def pretty (document : Document) : String := prettyAt 0 document

end Document

/-- A value as a text without gaps. -/
def compact (value : Json) : String := value.toDocument.compact

end SqlTemplate.Json
