import SqlTemplate.Json.Token

/-!
# JSON documents as they are written

A `Document` is the tree of a JSON text before anything in it is interpreted: numbers are numerals,
the members of an object stand in the order of the text with repeated keys kept, and a text may
have no characters to it. Whether a member is used or skipped is for the reader of the document to
decide, and only what is used has to make sense.

The tree is built token by token. The state of the builder says what may come next, and holds the
values that are still open as a stack of `Pending` places; each place is waiting for one value.
-/

namespace SqlTemplate.Json

/-- A JSON text as a tree. -/
inductive Document where
  | null
  | bool (b : Bool)
  | number (n : Numeral)
  | text (content : Option String)
  | array (items : List Document)
  | object (members : List (Option String × Document))
  deriving Inhabited

/-- The members of an object, with their keys. -/
abbrev Members := List (Option String × Document)

/-- A place in an open array or object that waits for a value; what stands before it is kept last
first. -/
inductive Pending where
  | item (before : List Document)
  | member (before : Members) (key : Option String)

/-- What may come next. -/
inductive Builder where
  /-- A value. -/
  | value (places : List Pending)
  /-- The first item of an array, or its end. -/
  | firstItem (places : List Pending)
  /-- A comma after an item, or the end of the array. -/
  | afterItem (items : List Document) (places : List Pending)
  /-- The first key of an object, or its end. -/
  | firstKey (places : List Pending)
  /-- A key. -/
  | nextKey (members : Members) (places : List Pending)
  /-- The colon after a key. -/
  | colon (members : Members) (key : Option String) (places : List Pending)
  /-- A comma after a member, or the end of the object. -/
  | afterMember (members : Members) (places : List Pending)
  /-- Nothing. -/
  | done (document : Document)

namespace Builder

/-- Puts a complete value into the place that waits for it. -/
def finish (value : Document) : List Pending → Builder
  | [] => .done value
  | .item before :: rest => .afterItem (value :: before) rest
  | .member before key :: rest => .afterMember ((key, value) :: before) rest

/-- Begins a value with its first token. -/
def begin? (places : List Pending) : Token → Option Builder
  | .null => some (finish .null places)
  | .bool b => some (finish (.bool b) places)
  | .number n => some (finish (.number n) places)
  | .text content => some (finish (.text content) places)
  | .openArray => some (.firstItem places)
  | .openObject => some (.firstKey places)
  | _ => none

/-- Takes one token. -/
def step? : Builder → Token → Option Builder
  | .value places, token => begin? places token
  | .firstItem places, .closeArray => some (finish (.array []) places)
  | .firstItem places, token => begin? (.item [] :: places) token
  | .afterItem items places, .comma => some (.value (.item items :: places))
  | .afterItem items places, .closeArray => some (finish (.array items.reverse) places)
  | .firstKey places, .closeObject => some (finish (.object []) places)
  | .firstKey places, .text key => some (.colon [] key places)
  | .nextKey members places, .text key => some (.colon members key places)
  | .colon members key places, .colon => some (.value (.member members key :: places))
  | .afterMember members places, .comma => some (.nextKey members places)
  | .afterMember members places, .closeObject => some (finish (.object members.reverse) places)
  | _, _ => none

/-- Takes the tokens of a whole text. -/
def run? (builder : Builder) (tokens : List Token) : Option Document := do
  match ← tokens.foldlM step? builder with
  | .done document => some document
  | _ => none

end Builder

/-- Reads a JSON text. -/
def Document.read? (text : String) : Option Document := do
  Builder.run? (.value []) (← tokens? text.toList)

end SqlTemplate.Json
