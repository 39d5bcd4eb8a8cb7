import SqlTemplate.Json.Writer
import SqlTemplate.Template.Basic

/-!
# Templates as JSON

A template is stored as an object with one member, whose key says what the template is: a `text`,
a `mixed` sequence, an `if` or a `foreach`. The latter two are objects in turn; their optional
members may be absent or null, and members of unknown names are left aside. No known member may
come twice.

`toDocument` writes a template in this form, leaving out what is absent, and `ofDocument?` reads
it. Where `positional` is set, an `if` or a `foreach` may also be an array of all its members in
order. `ofJson?` takes a JSON value, which has no repeated members and is never positional. `read?`
reads a JSON text, which may be positional and is limited in depth; only what belongs to the
template counts for the depth.
-/

namespace SqlTemplate.Template

open Json (Document Members)

/-! ## Writing -/

/-- A member with a text. -/
def textMember (key value : String) : Option String × Document := (some key, .text (some value))

/-- A member with a text, if there is one. -/
def optionalMember (key : String) (value : Option String) : Members :=
  (value.map (textMember key)).toList

/-- The members of a loop, without its contents. -/
def loopMembers (l : Loop) : Members :=
  textMember "collection" l.collection :: optionalMember "item" l.item ++
    optionalMember "index" l.index ++ optionalMember "open" l.opening ++
    optionalMember "close" l.closing ++ optionalMember "separator" l.separator

/-- An object with one member. -/
def tagged (key : String) (value : Document) : Document := .object [(some key, value)]

mutual

/-- A template as a JSON document. -/
def toDocument : Template → Document
  | text t => tagged "text" (.text (some t))
  | mixed parts => tagged "mixed" (.array (toDocuments parts))
  | condition test contents =>
    tagged "if" (.object
      [textMember "test" test, (some "contents", .array (toDocuments contents))])
  | loop l contents =>
    tagged "foreach" (.object
      (loopMembers l ++ [(some "contents", .array (toDocuments contents))]))

/-- Templates as JSON documents. -/
def toDocuments : List Template → List Document
  | [] => []
  | part :: rest => toDocument part :: toDocuments rest

end

/-! ## Reading -/

/-- A text. -/
def ofText? : Document → Option String
  | .text content => content
  | _ => none

/-- A text or nothing. -/
def ofOptionalText? : Document → Option (Option String)
  | .null => some none
  | document => (ofText? document).map some

/-- The members of an `if` or a `foreach` that have been read so far. -/
structure Fields where
  texts : List (String × Option String)
  contents : Option (List Template)

namespace Fields

/-- No members. -/
def empty : Fields := ⟨[], none⟩

/-- The text of a member, if it has one. -/
def text? (f : Fields) (key : String) : Option String := (f.texts.lookup key).join

/-- Adds a text that has to be there, unless the key has one. -/
def addRequired? (f : Fields) (key : String) (value : Document) : Option Fields := do
  if (f.texts.lookup key).isSome then none
  else return { f with texts := (key, some (← ofText? value)) :: f.texts }

/-- Adds a text that may be absent, unless the key has one. -/
def addOptional? (f : Fields) (key : String) (value : Document) : Option Fields := do
  if (f.texts.lookup key).isSome then none
  else return { f with texts := (key, ← ofOptionalText? value) :: f.texts }

/-- Adds the contents, unless there are some. -/
def addContents? (f : Fields) (contents : List Template) : Option Fields :=
  if f.contents.isSome then none else some { f with contents := some contents }

/-- The condition with these members. -/
def toCondition? (f : Fields) : Option Template := do
  return condition (← f.text? "test") (← f.contents)

/-- The loop with these members. -/
def toLoop? (f : Fields) : Option Template := do
  return loop
    { collection := ← f.text? "collection"
      item := f.text? "item"
      index := f.text? "index"
      opening := f.text? "open"
      closing := f.text? "close"
      separator := f.text? "separator" }
    (← f.contents)

end Fields

/-- What kind of member a key names. -/
inductive Role where
  | requiredText
  | optionalText
  | contents
  deriving DecidableEq

/-- The members of a condition, in order. -/
def conditionRoles : List (String × Role) := [("test", .requiredText), ("contents", .contents)]

/-- The members of a loop, in order. -/
def loopRoles : List (String × Role) :=
  [("collection", .requiredText), ("item", .optionalText), ("index", .optionalText),
    ("open", .optionalText), ("close", .optionalText), ("separator", .optionalText),
    ("contents", .contents)]

mutual

/-- Reads a template. -/
def ofDocument? (positional : Bool) : Document → Option Template
  | .object [(some key, value)] =>
    if key = "text" then (ofText? value).map text
    else if key = "mixed" then (ofContents? positional value).map mixed
    else if key = "if" then do (← ofFields? positional conditionRoles value).toCondition?
    else if key = "foreach" then do (← ofFields? positional loopRoles value).toLoop?
    else none
  | _ => none

/-- Reads a sequence of templates. -/
def ofContents? (positional : Bool) : Document → Option (List Template)
  | .array items => ofDocuments? positional items
  | _ => none

/-- Reads templates. -/
def ofDocuments? (positional : Bool) : List Document → Option (List Template)
  | [] => some []
  | item :: rest => do
    let part ← ofDocument? positional item
    let rest ← ofDocuments? positional rest
    return part :: rest

/-- Reads the members of a condition or a loop. -/
def ofFields? (positional : Bool) (roles : List (String × Role)) : Document → Option Fields
  | .object members => ofMembers? positional roles .empty members
  | .array items => if positional then ofItems? positional .empty roles items else none
  | _ => none

/-- Reads members with keys and adds them to those before. -/
def ofMembers? (positional : Bool) (roles : List (String × Role)) (fields : Fields) :
    Members → Option Fields
  | [] => some fields
  | (key, value) :: rest => do
    let key ← key
    let fields ← match roles.lookup key with
      | some .requiredText => fields.addRequired? key value
      | some .optionalText => fields.addOptional? key value
      | some .contents => do fields.addContents? (← ofContents? positional value)
      | none => some fields
    ofMembers? positional roles fields rest

/-- Reads members in their order and adds them to those before. -/
def ofItems? (positional : Bool) (fields : Fields) (roles : List (String × Role)) :
    List Document → Option Fields
  | [] => if roles.isEmpty then some fields else none
  | value :: rest => do
    let (key, role) ← roles.head?
    let fields ← match role with
      | .requiredText => fields.addRequired? key value
      | .optionalText => fields.addOptional? key value
      | .contents => do fields.addContents? (← ofContents? positional value)
    ofItems? positional fields roles.tail rest

end

mutual

/-- How deep the JSON form of a template is nested. -/
def depth : Template → Nat
  | text _ => 1
  | mixed parts => 2 + depths parts
  | condition _ contents => 3 + depths contents
  | loop _ contents => 3 + depths contents

/-- How deep the JSON form of the deepest of some templates is nested. -/
def depths : List Template → Nat
  | [] => 0
  | part :: rest => max (depth part) (depths rest)

end

/-- The template that a JSON value stands for. -/
def ofJson? (json : Json) : Option Template := ofDocument? false json.toDocument

/-- Reads a template from a JSON text. -/
def read? (text : String) : Option Template := do
  let template ← ofDocument? true (← Document.read? text)
  if template.depth ≤ Json.maxDepth then some template else none

end SqlTemplate.Template
