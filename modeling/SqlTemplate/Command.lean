import SqlTemplate.Pattern.Matching
import SqlTemplate.Pattern.Parser
import SqlTemplate.Statement.Basic
import SqlTemplate.Template.Json

/-!
# The command

The command reads a template and the parameter for it, and prints either the expanded SQL or the
statement: as SQL with one comment line for each parameter, or as JSON. What the files hold is
given to `Command.run`, so that everything but reading and printing is a function.

The files and the filter are looked at in a fixed order, and the first thing that is wrong is what
the command fails with.
-/

namespace SqlTemplate

namespace Command

/-- A file that the command was given: its name, and its text if it could be read. -/
structure File where
  path : String
  text : Option String
  deriving DecidableEq, Repr

/-- What the command is to print. -/
inductive Action where
  | render (database : Option String) (shrink json : Bool)
  | expand
  deriving DecidableEq, Repr

/-- What the command was asked to do. -/
structure Request where
  template : File
  parameters : Option File
  /-- The pattern that substituted texts have to match. -/
  filter : Option String
  action : Action
  deriving DecidableEq, Repr

/-- Why the command fails. -/
inductive Failure where
  | unreadableTemplate (path : String)
  | invalidTemplate (path : String)
  | invalidFilter
  | unreadableParameters (path : String)
  | invalidParameters (path : String)
  | template (e : Error)
  deriving DecidableEq, Repr

/-- The wording of a failure. -/
def Failure.message : Failure → String
  | unreadableTemplate path => "failed to read template " ++ path
  | invalidTemplate path => "invalid template " ++ path
  | invalidFilter => "invalid injection filter"
  | unreadableParameters path => "failed to read parameters " ++ path
  | invalidParameters path => "invalid parameters " ++ path
  | template e => e.message

/-- Gives what is there, or fails. -/
def orFail {α : Type} (failure : Failure) : Option α → Except Failure α
  | some a => .ok a
  | none => .error failure

/-- The template of a file. -/
def readTemplate (file : File) : Except Failure Template := do
  let text ← orFail (.unreadableTemplate file.path) file.text
  orFail (.invalidTemplate file.path) (Template.read? text)

/-- The filter of a pattern, if there is one. -/
def readFilter : Option String → Except Failure (Option (String → Bool))
  | none => .ok none
  | some text => do
    let pattern ← orFail .invalidFilter (Pattern.read? text)
    return some pattern.occursIn

/-- The parameter of a file; null if there is none. -/
def readParameter : Option File → Except Failure Value
  | none => .ok .null
  | some file => do
    let text ← orFail (.unreadableParameters file.path) file.text
    let json ← orFail (.invalidParameters file.path) (Json.read? text)
    return Value.ofJson json

/-- The comment lines for the parameters of a statement, counted from `number` on. -/
def commentLines (number : Nat) : List (Mapping × Value) → List String
  | [] => []
  | (m, v) :: rest =>
    let name := (m.property.or m.expression).getD ""
    ("-- " ++ toString number ++ ": " ++ name ++ " = " ++ v.toText) ::
      commentLines (number + 1) rest

/-- A statement as SQL with a comment line for each parameter. -/
def statementText (s : Statement) : String :=
  "\n".intercalate (s.sql :: commentLines 1 (s.mappings.zip s.parameters))

/-- What the command prints, without the line end after it. -/
def run (r : Request) : Except Failure String := do
  let template ← readTemplate r.template
  let filter ← readFilter r.filter
  let parameter ← readParameter r.parameters
  match r.action with
  | .render database shrink json =>
    let source : Source := { template, filter, database, shrink }
    let statement ← (source.statement Engine.paths parameter).mapError .template
    return if json then statement.toDocument.pretty else statementText statement
  | .expand =>
    let source : Source := { template, filter }
    match source.expand Engine.paths parameter with
    | (.error e, _) => .error (.template e)
    | (.ok _, context) => return context.sql

end Command

end SqlTemplate
