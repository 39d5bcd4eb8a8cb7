import SqlTemplate.Expr.Token
import SqlTemplate.Value.Basic

/-!
# What can go wrong in an expression

A text is no expression because of a character, a quoted text without end, or a token in the wrong
place, or because it is nested too deeply. A well-formed expression has no value where it asks for
the order of two values without one, for a property that a value does not have, or for an index into
a value that has no items. `Fault.message` words each of these.
-/

namespace SqlTemplate

/-- Why a text has no value as an expression. -/
inductive Fault where
  /-- A character that starts no token, at a place counted in bytes. -/
  | strayCharacter (c : Char) (position : Nat)
  | unterminatedText
  /-- A token where an operand should start. -/
  | noOperand (found : Option Token)
  /-- A minus sign that no number follows. -/
  | noNumber (found : Option Token)
  /-- A dot that no name follows. -/
  | noPropertyName
  /-- A bracket or parenthesis that is not closed. -/
  | unclosed (expected : Token) (found : Option Token)
  /-- A token after a complete expression. -/
  | trailing (found : Token)
  | nestedTooDeeply
  | unordered (left right : Kind)
  | noProperty (name : String) (kind : Kind)
  | noIndex (kind index : Kind)
  deriving DecidableEq

/-- The wording of a fault. -/
def Fault.message : Fault → String
  | strayCharacter c position =>
    "unexpected '" ++ String.singleton c ++ "' at " ++ toString position
  | unterminatedText => "unterminated string"
  | noOperand found => "unexpected " ++ Token.describeFound found
  | noNumber found => "expected number after '-', found " ++ Token.describeFound found
  | noPropertyName => "expected property name after '.'"
  | unclosed expected found =>
    "expected " ++ expected.describe ++ ", found " ++ Token.describeFound found
  | trailing found => "unexpected " ++ found.describe ++ " after end of expression"
  | nestedTooDeeply => "expression nested too deeply"
  | unordered left right => "cannot order " ++ left.name ++ " and " ++ right.name
  | noProperty name kind => "no property '" ++ name ++ "' on " ++ kind.name ++ " value"
  | noIndex kind index => "cannot index " ++ kind.name ++ " value with " ++ index.name

end SqlTemplate
