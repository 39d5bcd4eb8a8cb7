import SqlTemplate.Number.Decimal
import SqlTemplate.Text.Quoted

/-!
# Tokens of expressions

An expression is a sequence of tokens: names, numbers without sign, quoted texts, punctuation, the
six comparisons and the three connectives. `Token.describe` shows a token the way it appears in
messages.
-/

namespace SqlTemplate

/-- The six comparisons. -/
inductive Comparison where
  | eq
  | ne
  | lt
  | le
  | gt
  | ge
  deriving DecidableEq, Repr

/-- The name of a comparison. -/
def Comparison.name : Comparison → String
  | .eq => "Eq"
  | .ne => "Ne"
  | .lt => "Lt"
  | .le => "Le"
  | .gt => "Gt"
  | .ge => "Ge"

/-- A token of an expression. -/
inductive Token where
  | name (name : String)
  | int (n : Int64)
  | decimal (d : Decimal)
  | text (s : String)
  | dot
  | minus
  | openBracket
  | closeBracket
  | openParen
  | closeParen
  | compare (c : Comparison)
  | and
  | or
  | not
  deriving DecidableEq

namespace Token

/-- The digits of a number to the base `2 ^ 64`, the lowest first; `steps` bounds their count. -/
def limbs (steps n : Nat) : List Nat :=
  match steps with
  | 0 => []
  | steps + 1 =>
    if n = 0 then [] else n % 0x10000000000000000 :: limbs steps (n / 0x10000000000000000)

/-- A decimal by its parts: sign, scale and the digits to the base `2 ^ 64`. -/
def describeDecimal (d : Decimal) : String :=
  let sign := if d.digits = 0 then "NoSign" else if d.digits < 0 then "Minus" else "Plus"
  let digits := (limbs (d.digits.natAbs.log2 + 1) d.digits.natAbs).map toString
  "BigDecimal(sign=" ++ sign ++ ", scale=" ++ toString d.scale ++ ", digits=[" ++
    ", ".intercalate digits ++ "])"

/-- How a token appears in a message. -/
def describe : Token → String
  | name s => "Ident(" ++ Text.quote s ++ ")"
  | int n => "Int(" ++ toString n.toInt ++ ")"
  | decimal d => "Decimal(" ++ describeDecimal d ++ ")"
  | text s => "Text(" ++ Text.quote s ++ ")"
  | dot => "Dot"
  | minus => "Minus"
  | openBracket => "LBracket"
  | closeBracket => "RBracket"
  | openParen => "LParen"
  | closeParen => "RParen"
  | compare c => "Compare(" ++ c.name ++ ")"
  | and => "And"
  | or => "Or"
  | not => "Not"

/-- How a place where a token may stand appears in a message. -/
def describeFound : Option Token → String
  | none => "None"
  | some token => "Some(" ++ token.describe ++ ")"

end Token

end SqlTemplate
