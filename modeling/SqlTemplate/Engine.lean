import SqlTemplate.Expr.Parser
import SqlTemplate.Value.Text

/-!
# Engines

A template never looks into an expression itself; it hands the text to an **engine** together with
the scope of the place where it stands. `Engine.paths` is the engine for the expression language of
this library. A template reads the value as a condition (`Value.truthy`) or as a collection
(`Collection.ofValue`), whose elements it goes through with their positions or keys.
-/

namespace SqlTemplate

/-- Why an engine has no value for an expression. -/
structure EvaluationError where
  expression : String
  message : String
  deriving DecidableEq, Repr

/-- The wording of the error. -/
def EvaluationError.text (e : EvaluationError) : String :=
  "failed to evaluate '" ++ e.expression ++ "': " ++ e.message

/-- Gives the values of expressions. -/
abbrev Engine := String → Scope → Except EvaluationError Value

namespace Engine

/-- The engine for property paths, comparisons and conditions. -/
def paths : Engine := fun expression scope =>
  match Expr.evalText expression scope with
  | .ok value => .ok value
  | .error fault => .error ⟨expression, fault.message⟩

/-- The engine for which every expression has the same value. -/
def constant (value : Value) : Engine := fun _ _ => .ok value

/-- The engine for which no expression has a value. -/
def failing (message : String) : Engine := fun expression _ => .error ⟨expression, message⟩

/-- The engine that takes an expression as a name, or else as its own text. -/
def names : Engine := fun expression scope => .ok ((scope expression).getD (.text expression))

end Engine

/-- What a loop goes through. -/
inductive Collection where
  | items (items : List Value)
  | entries (entries : List (String × Value))

namespace Collection

/-- The number of elements. -/
def size : Collection → Nat
  | items xs => xs.length
  | entries es => es.length

/-- The elements, each with its position or key before it. -/
def elements : Collection → List (Value × Value)
  | items xs => xs.zipIdx.map fun (x, i) => (.int (Int64.ofNat i), x)
  | entries es => es.map fun (key, x) => (.text key, x)

/-- A value as a collection: the items of a list or an array, the entries of a map. -/
def ofValue? : Value → Option Collection
  | .list xs => some (items xs)
  | .array xs => some (items xs)
  | .map es => some (entries es)
  | _ => none

end Collection

end SqlTemplate
