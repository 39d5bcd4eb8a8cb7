import SqlTemplate.Error
import SqlTemplate.Json.Writer
import SqlTemplate.Placeholder
import SqlTemplate.Schema.Registry

/-!
# Mappings

A mapping says how one parameter of a statement is bound: where its value comes from, which
types it is declared with, in which direction it goes. It is made from a placeholder, each of whose
entries fills one field; an entry of another name is an error, and so is a direction or a scale
that cannot be read. A type that is not declared is looked up in a schema, if there is one.
-/

namespace SqlTemplate

/-- The direction of a parameter. -/
inductive Mode where
  | input
  | output
  | both
  deriving DecidableEq, Repr

namespace Mode

/-- The word for a direction. -/
def toText : Mode → String
  | input => "IN"
  | output => "OUT"
  | both => "INOUT"

/-- The direction that a word stands for. -/
def ofText? (word : String) : Option Mode :=
  if word = "IN" then some input
  else if word = "OUT" then some output
  else if word = "INOUT" then some both
  else none

theorem ofText?_toText (m : Mode) : ofText? m.toText = some m := by cases m <;> rfl

end Mode

/-- How one parameter of a statement is bound. -/
structure Mapping where
  property : Option String := none
  expression : Option String := none
  valueType : Option String := none
  jdbcType : Option String := none
  jdbcTypeName : Option String := none
  mode : Mode := .input
  numericScale : Option Nat := none
  typeHandler : Option String := none
  resultMap : Option String := none
  deriving DecidableEq, Repr

namespace Mapping

/-- A scale: digits after an optional plus sign, of 32 bits. -/
def scale? (text : String) : Option Nat :=
  let digits := match text.toList with
    | '+' :: rest => rest
    | chars => chars
  if digits.isEmpty || !digits.all Char.isDigit then none
  else
    let n := Nat.ofDigitChars 10 digits 0
    if n ≤ 0xffffffff then some n else none

/-- Fills the field of one entry; `content` is the content of the placeholder. -/
def fill (content : String) (m : Mapping) (key value : String) : Except Error Mapping :=
  let bad : Error := .badAttribute key value content
  if key = Placeholder.propertyKey then .ok { m with property := some value }
  else if key = Placeholder.expressionKey then .ok { m with expression := some value }
  else if key = Placeholder.typeKey then .ok { m with jdbcType := some value }
  else if key = "javaType" then .ok { m with valueType := some value }
  else if key = "jdbcTypeName" then .ok { m with jdbcTypeName := some value }
  else if key = "mode" then
    match Mode.ofText? value with
    | some mode => .ok { m with mode := mode }
    | none => .error bad
  else if key = "numericScale" then
    match scale? value with
    | some n => .ok { m with numericScale := some n }
    | none => .error bad
  else if key = "typeHandler" then .ok { m with typeHandler := some value }
  else if key = "resultMap" then .ok { m with resultMap := some value }
  else .error (.unknownAttribute key content)

/-- The type of a property according to a schema, starting at the type that is named with it. -/
def declaredType? (schema : Option (Registry × String)) (property : Option String) :
    Option String := do
  let (registry, root) ← schema
  return (← registry.typeOf? root (← property)).toText

/-- The mapping of a placeholder with this content. -/
def ofContent (schema : Option (Registry × String)) (content : String) :
    Except Error Mapping := do
  match Placeholder.parse content with
  | .error position => .error (.malformedPlaceholder content position)
  | .ok placeholder =>
    let m ← placeholder.entries.foldlM (fun m entry => fill content m entry.1 entry.2) {}
    return { m with valueType := m.valueType.or (declaredType? schema m.property) }

/-! ## As JSON -/

open Json (Document)

/-- A text or null. -/
def optionalText (value : Option String) : Document :=
  match value with
  | some s => .text (some s)
  | none => .null

/-- A mapping as a JSON document. -/
def toDocument (m : Mapping) : Document :=
  .object
    [(some "property", optionalText m.property),
      (some "expression", optionalText m.expression),
      (some "value_type", optionalText m.valueType),
      (some "jdbc_type", optionalText m.jdbcType),
      (some "jdbc_type_name", optionalText m.jdbcTypeName),
      (some "mode", .text (some m.mode.toText)),
      (some "numeric_scale", match m.numericScale with
        | some n => .number (Json.Numeral.ofInt n)
        | none => .null),
      (some "type_handler", optionalText m.typeHandler),
      (some "result_map", optionalText m.resultMap)]

end Mapping

end SqlTemplate
