import SqlTemplate.Statement.Mapping
import SqlTemplate.Template.Expand
import SqlTemplate.Value.Json

/-!
# Statements

A statement is SQL with question marks and, for each of them in order, a mapping and a value.

`Prepared.ofSql` turns every placeholder of a text into a question mark and a mapping. Where asked
to, it first replaces each run of spaces by a single one. `Source.statement` expands a template for
a parameter, prepares the result and reads the value of each mapping from the bindings that the
expansion has left:

* An output parameter has no value.
* An expression is evaluated.
* A property is read from the parameter itself if that is a single value, unless the first name of
  the property is bound. Else it is evaluated.
-/

namespace SqlTemplate

/-- SQL with a mapping for each question mark. -/
structure Prepared where
  sql : String
  mappings : List Mapping
  deriving DecidableEq, Repr

/-- Turns the placeholders of a text into question marks. -/
def Prepared.ofSql (schema : Option (Registry × String)) (shrink : Bool) (sql : String) :
    Except Error Prepared := do
  let sql := if shrink then String.ofList (Text.collapse sql.toList) else sql
  let split := Markers.placeholder.split sql
  let mappings ← split.contents.mapM (Mapping.ofContent schema)
  return { sql := split.join fun _ => "?", mappings }

/-- SQL with a mapping and a value for each question mark. -/
structure Statement where
  sql : String
  mappings : List Mapping
  parameters : List Value

namespace Statement

/-- The value of a mapping. -/
def value (engine : Engine) (bindings : Bindings) (m : Mapping) : Except Error Value :=
  if m.mode = .output then .ok .null
  else
    match m.expression, m.property with
    | some expression, _ => engine.value expression bindings.lookup
    | none, none => .ok .null
    | none, some property =>
      let first := ((Segment.ofPath property).head?.map Segment.name).getD property
      if !bindings.has first && bindings.parameter.isScalar then .ok bindings.parameter
      else engine.value property bindings.lookup

open Json (Document)

/-- A statement as a JSON document. -/
def toDocument (s : Statement) : Document :=
  .object
    [(some "sql", .text (some s.sql)),
      (some "mappings", .array (s.mappings.map Mapping.toDocument)),
      (some "parameters", .array (s.parameters.map fun v => v.toJson.toDocument))]

end Statement

/-- A template with what its statements have in common. -/
structure Source where
  template : Template
  filter : Option (String → Bool) := none
  /-- The types of the parameter's properties, and the name of its own type. -/
  schema : Option (Registry × String) := none
  database : Option String := none
  /-- Whether runs of spaces in the SQL are replaced by single ones. -/
  shrink : Bool := false

namespace Source

/-- Expands the template for a parameter. -/
def expand (source : Source) (engine : Engine) (parameter : Value) :
    Except Error Bool × Context :=
  (source.template.expand { engine, filter := source.filter }).applyTo
    (Context.ofParameter parameter source.database)

/-- The statement for a parameter. -/
def statement (source : Source) (engine : Engine) (parameter : Value) :
    Except Error Statement := do
  match source.expand engine parameter with
  | (.error e, _) => .error e
  | (.ok _, context) =>
    let prepared ← Prepared.ofSql source.schema source.shrink context.sql
    let parameters ← prepared.mappings.mapM (Statement.value engine context.bindings)
    return { sql := prepared.sql, mappings := prepared.mappings, parameters }

end Source

end SqlTemplate
