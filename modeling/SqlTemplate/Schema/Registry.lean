import SqlTemplate.Keyed
import SqlTemplate.Schema.Path

/-!
# Schemas

A schema says what type a property has before any value is seen. A **descriptor** declares the
properties of a named type, a **registry** holds one descriptor for each name, the last one
registered.

* `Registry.typeOf?` follows a property path: through an object to the declared property, through a
  map to its values, and through `any` to `any`. An index takes one more step into a list or map.
* `Registry.spelling?` finds how a property path is declared when case is left aside; it stops where
  the path leaves the registered types.
-/

namespace SqlTemplate

/-- The declared type of a property. -/
inductive PropertyType where
  | bool
  | int
  | float
  | decimal
  | text
  | bytes
  | list (item : PropertyType)
  | map (value : PropertyType)
  | object (name : String)
  | any
  deriving DecidableEq, Repr

namespace PropertyType

/-- The text of a type. -/
def toText : PropertyType → String
  | bool => "bool"
  | int => "int"
  | float => "float"
  | decimal => "decimal"
  | text => "text"
  | bytes => "bytes"
  | list item => "list<" ++ item.toText ++ ">"
  | map value => "map<" ++ value.toText ++ ">"
  | object name => name
  | any => "any"

/-- The type that an index leads to. -/
def indexed : PropertyType → PropertyType
  | list item => item
  | map value => value
  | type => type

end PropertyType

/-- The declared properties of a named type. -/
structure Descriptor where
  name : String
  properties : Keyed PropertyType
  deriving DecidableEq, Repr

namespace Descriptor

/-- A descriptor without properties. -/
def empty (name : String) : Descriptor := ⟨name, []⟩

/-- Declares a property. -/
def declare (d : Descriptor) (name : String) (type : PropertyType) : Descriptor :=
  { d with properties := Keyed.insert name type d.properties }

/-- The declared type of a property. -/
def typeOf? (d : Descriptor) (name : String) : Option PropertyType := Keyed.get? name d.properties

end Descriptor

/-- Descriptors by the names of their types. -/
structure Registry where
  types : Keyed Descriptor
  deriving DecidableEq, Repr

namespace Registry

/-- A registry without types. -/
def empty : Registry := ⟨[]⟩

/-- Registers a descriptor, in the place of an earlier one of that name. -/
def register (r : Registry) (d : Descriptor) : Registry := ⟨Keyed.insert d.name d r.types⟩

/-- The descriptor of a type. -/
def descriptor? (r : Registry) (name : String) : Option Descriptor := Keyed.get? name r.types

/-! ## The type of a path -/

/-- The type that a property name leads to. -/
def propertyOf? (r : Registry) (type : PropertyType) (name : String) : Option PropertyType :=
  match type with
  | .object typeName => do (← r.descriptor? typeName).typeOf? name
  | .map value => some value
  | _ => none

/-- The type that a sequence of segments leads to. -/
def follow? (r : Registry) (type : PropertyType) : List Segment → Option PropertyType
  | [] => some type
  | segment :: rest =>
    if type = .any then some .any
    else do
      let next ← r.propertyOf? type segment.name
      r.follow? (if segment.index.isSome then next.indexed else next) rest

/-- The type of a property path that starts at a named type. -/
def typeOf? (r : Registry) (typeName path : String) : Option PropertyType :=
  r.follow? (.object typeName) (Segment.ofPath path)

/-- Whether a property path leads to a type. -/
def resolves (r : Registry) (typeName path : String) : Bool := (r.typeOf? typeName path).isSome

/-! ## The declared spelling of a path -/

/-- Whether two names differ at most in the case of the letters `a` to `z`. -/
def sameName (a b : String) : Bool := a.toList.map Char.toLower == b.toList.map Char.toLower

/-- The declared spellings of the names in a path, as far as they lead through registered types. -/
def spellings (r : Registry) (typeName : String) : List (List Char) → List String
  | [] => []
  | part :: rest =>
    match r.descriptor? typeName with
    | none => []
    | some d =>
      match d.properties.find? fun property => sameName property.1 (String.ofList part) with
      | none => []
      | some (declared, .object next) => declared :: r.spellings next rest
      | some (declared, _) => [declared]

/-- The declared spelling of a property path, whatever its case. Underscores are dropped first if
`camelCase` is set, so that `user_name` finds `userName`. -/
def spelling? (r : Registry) (typeName path : String) (camelCase : Bool) : Option String :=
  let chars := if camelCase then path.toList.filter (· != '_') else path.toList
  match r.spellings typeName (Text.pieces '.' chars) with
  | [] => none
  | found => some (".".intercalate found)

end Registry

end SqlTemplate
