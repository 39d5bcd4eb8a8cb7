import SqlTemplate.Expr.Basic

/-!
# Bindings

The bindings of an expansion are a parameter and a table of values bound to names. The name
`_parameter` always stands for the parameter, whatever the table says. A name that is not bound
stands for the property of that name of the parameter (`Bindings.lookup`).
-/

namespace SqlTemplate

/-- A parameter, and values bound to names. -/
structure Bindings where
  parameter : Value
  table : Keyed Value

namespace Bindings

/-- The name of the parameter. -/
def parameterName : String := "_parameter"

/-- The name under which the database is known. -/
def databaseName : String := "_databaseId"

/-- The bindings of a parameter alone. -/
def ofParameter (parameter : Value) : Bindings := ⟨parameter, []⟩

/-- The value bound to a name. -/
def get? (b : Bindings) (name : String) : Option Value :=
  if name = parameterName then some b.parameter else Keyed.get? name b.table

/-- Whether a name is bound. -/
def has (b : Bindings) (name : String) : Bool :=
  name == parameterName || Keyed.has name b.table

/-- What a name stands for: the value bound to it, or else the property of the parameter. -/
def lookup (b : Bindings) : Scope := fun name => (b.get? name).or (b.parameter.get? name)

/-- Binds a name to a value. -/
def bind (b : Bindings) (name : String) (value : Value) : Bindings :=
  { b with table := Keyed.insert name value b.table }

/-- Removes the value bound to a name from the table. -/
def unbind (b : Bindings) (name : String) : Bindings :=
  { b with table := Keyed.erase name b.table }

end Bindings

end SqlTemplate
