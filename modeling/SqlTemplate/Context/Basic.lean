import SqlTemplate.Context.Bindings
import SqlTemplate.Context.Layer
import SqlTemplate.Error

/-!
# Contexts

A context is the state of one expansion: its bindings, the SQL written so far, the number of the
next loop iteration, and the layers that a fragment passes on its way to the SQL. Bindings and
numbers do not depend on the layers; there is one table and one counter.

An `Expansion` changes a context and may fail. What it changed before it failed stays changed;
`inside` takes the layers away again in both cases.
-/

namespace SqlTemplate

/-- The state of an expansion. -/
structure Context where
  bindings : Bindings
  sql : String
  next : Nat
  /-- The layers around this place, the innermost first. -/
  layers : List Layer

namespace Context

/-- The context of a parameter, with the name of the database if there is one. -/
def ofParameter (parameter : Value) (database : Option String) : Context :=
  let bindings := Bindings.ofParameter parameter
  { bindings := match database with
      | some name => bindings.bind Bindings.databaseName (.text name)
      | none => bindings
    sql := ""
    next := 0
    layers := [] }

/-- Binds a name to a value. -/
def bind (c : Context) (name : String) (value : Value) : Context :=
  { c with bindings := c.bindings.bind name value }

/-- Removes the value bound to a name. -/
def unbind (c : Context) (name : String) : Context :=
  { c with bindings := c.bindings.unbind name }

/-- Writes a fragment of SQL, through all layers. -/
def append (c : Context) (sql : String) : Context :=
  let (layers, fragments) := Layer.pass c.layers [sql]
  { c with sql := c.sql ++ String.join fragments, layers := layers }

end Context

/-- A change of a context that may fail. -/
abbrev Expansion := ExceptT Error (StateM Context)

namespace Expansion

/-- Applies an expansion to a context. -/
def applyTo {α : Type} (e : Expansion α) (c : Context) : Except Error α × Context :=
  StateT.run (ExceptT.run e) c

@[simp] theorem applyTo_pure {α : Type} (a : α) (c : Context) :
    (pure a : Expansion α).applyTo c = (.ok a, c) := rfl

@[simp] theorem applyTo_throw {α : Type} (e : Error) (c : Context) :
    (throw e : Expansion α).applyTo c = (.error e, c) := rfl

@[simp] theorem applyTo_modify (f : Context → Context) (c : Context) :
    (modify f : Expansion Unit).applyTo c = (.ok (), f c) := rfl

@[simp] theorem applyTo_get (c : Context) : (get : Expansion Context).applyTo c = (.ok c, c) := rfl

theorem applyTo_bind {α β : Type} (e : Expansion α) (f : α → Expansion β) (c : Context) :
    (e >>= f).applyTo c =
      match e.applyTo c with
      | (.ok a, c') => (f a).applyTo c'
      | (.error error, c') => (.error error, c') := by
  unfold applyTo ExceptT.run StateT.run
  simp only [bind, ExceptT.bind, ExceptT.mk, StateT.bind, ExceptT.bindCont]
  cases e c with
  | mk result next => cases result <;> rfl

/-- Takes the number of the next iteration. -/
def takeNumber : Expansion Nat :=
  modifyGet fun c => (c.next, { c with next := c.next + 1 })

/-- Writes a fragment, if there is one. -/
def append? (sql : Option String) : Expansion Unit :=
  match sql with
  | some sql => modify (·.append sql)
  | none => pure ()

/-- Removes the value bound to a name, if there is one. -/
def unbind? (name : Option String) : Expansion Unit :=
  match name with
  | some name => modify (·.unbind name)
  | none => pure ()

/-- Runs an expansion inside more layers and takes them away afterwards; gives the layers as they
are at its end. -/
def inside {α : Type} (layers : List Layer) (body : Expansion α) : Expansion (α × List Layer) :=
  ExceptT.mk fun c =>
    let (result, c') := body.applyTo { c with layers := layers ++ c.layers }
    let added := c'.layers.take layers.length
    (result.map (·, added), { c' with layers := c'.layers.drop layers.length })

end Expansion

end SqlTemplate
