import SqlTemplate.Context.Basic
import SqlTemplate.Template.Basic

/-!
# Expanding a template

Expanding a template writes its SQL into a context.

**Texts.** A text without substitutions is written as it stands. In a dynamic text every
substitution gives way to the text of its value, and the result is written as one fragment, once
all values are known. Where a filter is given, each of these texts has to pass it. A dynamic text
also binds the parameter to the name `value` when it is a single value.

**Loops.** The collection is evaluated once. For each element a number is taken; position and
element are bound to the names of the loop and to the names of that iteration, and the contents
are expanded inside a separator and a renaming layer. The separator is empty until an element has
written something that is not blank. A loop over nothing writes nothing. At its end a loop
removes the names of its variables, but the names of the iterations stay bound.

**Failure.** The first error ends the expansion and leaves the context as it is there.
-/

namespace SqlTemplate

/-- What an expansion needs to know beside the template: the engine, and the filter for
substituted texts. -/
structure Settings where
  engine : Engine
  filter : Option (String → Bool)

namespace Settings

/-- Asks an engine in the scope of the context. -/
def ask {α : Type} (question : Scope → Except Error α) : Expansion α := do
  match question (← get).bindings.lookup with
  | .ok answer => pure answer
  | .error e => throw e

/-- The text that takes the place of a substitution. -/
def substitute (s : Settings) (scope : Scope) (expression : String) : Except Error String := do
  let text := (← s.engine.value expression scope).substitution
  match s.filter with
  | some passes =>
    if passes text then .ok text else .error (.rejectedSubstitution expression text)
  | none => .ok text

end Settings

namespace Template

/-- Expands a text. -/
def expandText (s : Settings) (text : String) : Expansion Unit :=
  if isDynamic text then do
    let parameter := (← get).bindings.parameter
    if parameter.isScalar then modify (·.bind "value" parameter)
    let sql ← Settings.ask fun scope => Markers.substitution.replaceM (s.substitute scope) text
    modify (·.append sql)
  else modify (·.append text)

end Template

namespace Loop

/-- Binds a value to the name of a loop variable and to its name in this iteration. -/
def bindVariable (name : Option String) (value : Value) (number : Nat) : Expansion Unit :=
  match name with
  | some name =>
    modify fun c => (c.bind (Renaming.iterationName name number) value).bind name value
  | none => pure ()

/-- Expands the body of a loop for one element; tells whether it wrote anything not blank. -/
def expandElement (l : Loop) (body : Expansion Unit) (isFirst : Bool) (element : Value × Value) :
    Expansion Bool := do
  let number ← Expansion.takeNumber
  bindVariable l.index element.1 number
  bindVariable l.item element.2 number
  let separator := if isFirst then "" else l.separator.getD ""
  let (_, layers) ← Expansion.inside
    [.rename ⟨l.item, l.index, number⟩, .separator separator false] body
  return layers.any Layer.isApplied

/-- Expands the body of a loop for the elements; `isFirst` holds until one has written anything
not blank. -/
def expandElements (l : Loop) (body : Expansion Unit) (isFirst : Bool) :
    List (Value × Value) → Expansion Unit
  | [] => pure ()
  | element :: rest => do
    let written ← l.expandElement body isFirst element
    l.expandElements body (isFirst && !written) rest

/-- Expands a loop with this body. -/
def expand (s : Settings) (l : Loop) (body : Expansion Unit) : Expansion Unit := do
  let collection ← Settings.ask (s.engine.collection l.collection)
  if collection.size = 0 then pure ()
  else
    Expansion.append? l.opening
    l.expandElements body true collection.elements
    Expansion.append? l.closing
    Expansion.unbind? l.item
    Expansion.unbind? l.index

end Loop

namespace Template

mutual

/-- Expands a template; tells whether it took part, which only a condition that does not hold
denies. -/
def expand (s : Settings) : Template → Expansion Bool
  | text t => do
    expandText s t
    return true
  | mixed parts => do
    expandAll s parts
    return true
  | condition test contents => do
    if ← Settings.ask (s.engine.condition test) then
      expandAll s contents
      return true
    else return false
  | loop l contents => do
    l.expand s (expandAll s contents)
    return true

/-- Expands templates one after another. -/
def expandAll (s : Settings) : List Template → Expansion Unit
  | [] => pure ()
  | part :: rest => do
    discard (expand s part)
    expandAll s rest

end

end Template

end SqlTemplate
