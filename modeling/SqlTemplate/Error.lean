import SqlTemplate.Engine

/-!
# Errors

Everything that can stop the expansion of a template or the binding of its placeholders is an
`Error`; `Error.message` words it. Text that is quoted in a message appears there as it is.
-/

namespace SqlTemplate

/-- Why a template has no SQL for a parameter. -/
inductive Error where
  /-- The content of a placeholder has a fault at a place counted in bytes. -/
  | malformedPlaceholder (content : String) (position : Nat)
  /-- A loop over null. -/
  | nullCollection (expression : String)
  /-- A loop over a single value, given by its text. -/
  | noCollection (expression value : String)
  /-- The engine has no value for an expression. -/
  | evaluation (e : EvaluationError)
  /-- A placeholder has an attribute of an unknown name. -/
  | unknownAttribute (name content : String)
  /-- An attribute of a placeholder has a value that means nothing. -/
  | badAttribute (name value content : String)
  /-- A substituted text does not pass the filter. -/
  | rejectedSubstitution (expression text : String)
  deriving DecidableEq, Repr

namespace Error

/-- The names of the attributes that a placeholder may have, as messages list them. -/
def attributeNames : List String :=
  ["javaType", "jdbcType", "mode", "numericScale", "resultMap", "typeHandler", "jdbcTypeName"]

/-- A text in braces. -/
def braced (text : String) : String := "\x7b" ++ text ++ "\x7d"

/-- The wording of an error. -/
def message : Error → String
  | malformedPlaceholder content position =>
    "parsing error in " ++ braced content ++ " in position " ++ toString position
  | nullCollection expression =>
    "the expression '" ++ expression ++ "' evaluated to a null value"
  | noCollection expression value =>
    "error evaluating expression '" ++ expression ++ "': return value (" ++ value ++
      ") was not iterable"
  | evaluation e => e.text
  | unknownAttribute name content =>
    "an invalid property '" ++ name ++ "' was found in mapping #" ++ braced content ++
      "; valid properties are " ++ ",".intercalate attributeNames
  | badAttribute name value content =>
    "invalid value '" ++ value ++ "' for '" ++ name ++ "' in mapping #" ++ braced content
  | rejectedSubstitution expression text =>
    "value (" ++ text ++ ") substituted for '" ++ expression ++
      "' is not allowed by the injection filter"

end Error

namespace Engine

/-- The value of an expression. -/
def value (engine : Engine) (expression : String) (scope : Scope) : Except Error Value :=
  (engine expression scope).mapError .evaluation

/-- The value of an expression, read as a condition. -/
def condition (engine : Engine) (expression : String) (scope : Scope) : Except Error Bool :=
  (engine.value expression scope).map Value.truthy

/-- The value of an expression, read as a collection. -/
def collection (engine : Engine) (expression : String) (scope : Scope) :
    Except Error Collection := do
  let value ← engine.value expression scope
  match Collection.ofValue? value with
  | some collection => .ok collection
  | none =>
    if value.isNull then .error (.nullCollection expression)
    else .error (.noCollection expression value.toText)

end Engine

end SqlTemplate
