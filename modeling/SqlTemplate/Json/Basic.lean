import SqlTemplate.Keyed
import SqlTemplate.Json.Document

/-!
# JSON values

A JSON value is a `Document` with its contents interpreted: numbers are in range, texts have their
characters, and an object is a table in which the last of several members with one key counts. The
values that are kept may be nested `maxDepth` deep, arrays and objects together.
-/

namespace SqlTemplate

/-- A JSON value. -/
inductive Json where
  | null
  | bool (b : Bool)
  | number (n : Json.Number)
  | text (s : String)
  | array (items : List Json)
  | object (members : List (String × Json))

namespace Json

/-- How deep arrays and objects may be nested. -/
def maxDepth : Nat := 127

mutual

/-- Interprets a document with `room` levels of nesting left. -/
def ofDocument? (room : Nat) : Document → Option Json
  | .null => some .null
  | .bool b => some (.bool b)
  | .number n => n.toNumber?.map .number
  | .text content => content.map .text
  | .array items =>
    if room = 0 then none else (ofItems? (room - 1) items).map .array
  | .object members =>
    if room = 0 then none
    else (ofMembers? (room - 1) members).map fun members => .object (Keyed.ofList members)

/-- Interprets the items of an array. -/
def ofItems? (room : Nat) : List Document → Option (List Json)
  | [] => some []
  | item :: rest => do
    let item ← ofDocument? room item
    let rest ← ofItems? room rest
    return item :: rest

/-- Interprets the members of an object. -/
def ofMembers? (room : Nat) : Members → Option (List (String × Json))
  | [] => some []
  | (key, value) :: rest => do
    let key ← key
    let value ← ofDocument? room value
    let rest ← ofMembers? room rest
    return (key, value) :: rest

end

/-- Reads a JSON text as a value. -/
def read? (text : String) : Option Json := do ofDocument? maxDepth (← Document.read? text)

end Json

end SqlTemplate
