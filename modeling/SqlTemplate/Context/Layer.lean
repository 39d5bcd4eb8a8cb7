import SqlTemplate.Span
import SqlTemplate.Text.Blank
import SqlTemplate.Text.Cut

/-!
# Layers around a context

While the body of a loop is expanded, its SQL passes through two **layers** on its way out, and
through those of the loops around it.

* A `Renaming` replaces, inside placeholders, each reference to a loop variable by the name that
  belongs to the present iteration.
* A separator is put before the first fragment that is not blank, and stays pending until then.

`Layer.pass` sends fragments through a stack of layers, the innermost first. A separator passes the
outer layers as a fragment of its own, ahead of the fragment that called for it.
-/

namespace SqlTemplate

/-- The loop variables of an iteration with the number that tells it from all others. -/
structure Renaming where
  item : Option String
  index : Option String
  number : Nat
  deriving DecidableEq, Repr

namespace Renaming

open Text

/-- The name of a loop variable in the iteration with this number. -/
def iterationName (name : String) (number : Nat) : String :=
  "__frch_" ++ name ++ "_" ++ toString number

/-- Whether a reference to a name can end before this text. -/
def endsReference : List Char → Bool
  | [] => true
  | c :: _ => c == '.' || c == ',' || c == ':' || isSpace c

/-- What follows the name at the start of a content that refers to it. -/
def afterReference? (name : String) (content : List Char) : Option (List Char) :=
  match after? name.toList (trimStart content) with
  | some rest => if endsReference rest then some rest else none
  | none => none

/-- The loop variables, the item before the index. -/
def names (r : Renaming) : List String := r.item.toList ++ r.index.toList

/-- The content of a placeholder with a reference to a loop variable renamed. -/
def content (r : Renaming) (content : String) : String :=
  let renamed := r.names.findSome? fun name =>
    (afterReference? name content.toList).map fun rest =>
      iterationName name r.number ++ String.ofList rest
  renamed.getD content

/-- A fragment with the contents of its placeholders renamed. -/
def fragment (r : Renaming) (sql : String) : String :=
  Markers.placeholder.replace (fun c => Markers.placeholder.enclose (r.content c)) sql

end Renaming

/-- A layer that SQL passes through. -/
inductive Layer where
  | rename (r : Renaming)
  /-- A text to put before the first fragment that is not blank; `applied` tells whether that
  has been done. -/
  | separator (text : String) (applied : Bool)
  deriving DecidableEq, Repr

namespace Layer

/-- Whether a fragment is blank. -/
def isBlankText (sql : String) : Bool := sql.toList.all Text.isBlank

/-- What a layer makes of a fragment, and the layer afterwards. -/
def through (layer : Layer) (sql : String) : Layer × List String :=
  match layer with
  | rename r => (layer, [r.fragment sql])
  | separator text applied =>
    if !applied && !isBlankText sql then (separator text true, [text, sql]) else (layer, [sql])

/-- What a layer makes of fragments that come one after another. -/
def throughAll (layer : Layer) : List String → Layer × List String
  | [] => (layer, [])
  | sql :: rest =>
    let (layer, out) := layer.through sql
    let (layer, more) := layer.throughAll rest
    (layer, out ++ more)

/-- Sends fragments through layers, the innermost first: the layers afterwards, and the fragments
that come out, in order. -/
def pass : List Layer → List String → List Layer × List String
  | [], fragments => ([], fragments)
  | layer :: outer, fragments =>
    let (layer, out) := layer.throughAll fragments
    let (outer, out) := pass outer out
    (layer :: outer, out)

/-- Whether a separator has been put before a fragment. -/
def isApplied : Layer → Bool
  | separator _ applied => applied
  | rename _ => false

end Layer

end SqlTemplate
