import SqlTemplate.Value.Basic

/-!
# The text of a value

`toText` shows a value of any kind: sequences between brackets, maps between braces with an equals
sign between key and value, bytes as a hexadecimal literal. `substitution` is what takes the
place of a substitution in a template: the same text, except that null leaves nothing.
-/

namespace SqlTemplate.Value

/-- A byte as two hexadecimal digits. -/
def hexByte (b : UInt8) : List Char :=
  [Nat.digitChar (b.toNat / 16), Nat.digitChar (b.toNat % 16)].map Char.toUpper

mutual

/-- The text of a value. -/
def toText : Value → String
  | null => "null"
  | bool true => "true"
  | bool false => "false"
  | int n => toString n.toInt
  | float x => Double.toText x
  | decimal d => d.toText
  | text s => s
  | bytes bs => String.ofList ('X' :: '\'' :: bs.flatMap hexByte ++ ['\''])
  | list items => "[" ++ ", ".intercalate (itemTexts items) ++ "]"
  | array items => "[" ++ ", ".intercalate (itemTexts items) ++ "]"
  | map entries => "\x7b" ++ ", ".intercalate (entryTexts entries) ++ "\x7d"

/-- The texts of the items of a sequence. -/
def itemTexts : List Value → List String
  | [] => []
  | item :: rest => toText item :: itemTexts rest

/-- The texts of the entries of a map. -/
def entryTexts : List (String × Value) → List String
  | [] => []
  | (key, value) :: rest => (key ++ "=" ++ toText value) :: entryTexts rest

end

/-- The text that a value leaves in a template. -/
def substitution : Value → String
  | null => ""
  | value => value.toText

end SqlTemplate.Value
