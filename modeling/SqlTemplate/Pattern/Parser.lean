import SqlTemplate.Pattern.Class
import SqlTemplate.Pattern.Piece
import SqlTemplate.Text.Cut
import SqlTemplate.Text.Letter
import SqlTemplate.Text.Numeric

/-!
# Reading patterns

The text of a pattern is a row of **items**: atoms, classes, repetitions, bars, parentheses and
settings of flags. They are read one by one and put together on a stack of open groups, each with
the flags that are on in it. `Pattern.read?` fails where an item is unknown, a class or a group is
not closed, a group is closed that is not open, a repetition has nothing to repeat, two groups have
one name, or the pattern is beyond a limit.
-/

namespace SqlTemplate.Pattern

open Text

/-- An item of the text of a pattern. -/
inductive Item where
  | piece (piece : Piece)
  | repetition (low : Nat) (high : Option Nat)
  | bar
  /-- An opening parenthesis, with the flags in the group; a group whose place is kept may have a
  name. -/
  | openGroup (flags : Flags) (captured : Bool) (name : Option (List Char))
  /-- Flags for the rest of the group. -/
  | setting (flags : Flags)
  | closeGroup

/-! ## Pieces -/

/-- The set of a character by itself. Without characters beyond U+007F, two hexadecimal digits stand
for a byte, and a byte from 80 on is not a character. -/
def charSet? (flags : Flags) (c : Char) (byte : Bool) : Option CharSet :=
  if byte && !flags.unicode && 0x80 ≤ c.toNat then none else some (flags.fold (.single c))

/-- The piece of an atom. -/
def pieceOf? (flags : Flags) : Atom → Option Piece
  | .char c byte => (charSet? flags c byte).map fun s => .ofSet s 0
  | .chars s => some (.ofSet s 0)
  | .anchor a => some (.ofAnchor a)

/-- The set of the dot: all characters, but for line ends unless a flag includes them. -/
def dot? (flags : Flags) : Option CharSet :=
  let lineEnds :=
    if flags.dotAll then CharSet.empty
    else if flags.returns then .union (.single '\n') (.single '\r')
    else .single '\n'
  flags.negate? true lineEnds

/-! ## Repetitions -/

/-- Drops the question mark that asks for the shortest repetition; what matches stays the same. -/
def dropLazy : List Char → List Char
  | '?' :: rest => rest
  | text => text

/-- A number of repetitions, with white space around it; it is less than `2 ^ 32`. -/
def count? (text : List Char) : Option Nat :=
  let digits := ((text.dropWhile isSpace).reverse.dropWhile isSpace).reverse
  if digits.isEmpty || digits.any (!·.isDigit) then none
  else
    let n := Nat.ofDigitChars 10 digits 0
    if n < 0x100000000 then some n else none

/-- The bounds between the braces of a repetition: `n`, `n,` or `n,m`. -/
def bounds? (text : List Char) : Option (Nat × Option Nat) := do
  let (low, high) := cut (· == ',') text
  let low ← count? low
  match high with
  | none => return (low, some low)
  | some [] => return (low, none)
  | some high =>
    let high ← count? high
    if low ≤ high then some (low, some high) else none

/-! ## Groups -/

/-- Whether a character may begin the name of a group. -/
def beginsName (c : Char) : Bool := c == '_' || isLetter c

/-- Whether a character may stand inside of the name of a group. -/
def continuesName (c : Char) : Bool :=
  c == '_' || c == '.' || c == '[' || c == ']' || isLetter c || isNumeral c

/-- Reads the name of a group up to the closing angle bracket. -/
def takeGroupName? (text : List Char) : Option (List Char × List Char) :=
  match cut (· == '>') text with
  | (c :: name, some after) =>
    if beginsName c && name.all continuesName then some (c :: name, after) else none
  | _ => none

/-- Reads what follows an opening parenthesis and a question mark. -/
def takeGroup? (flags : Flags) (text : List Char) : Option (Item × List Char) :=
  let named (rest : List Char) : Option (Item × List Char) :=
    (takeGroupName? rest).map fun (name, after) => (.openGroup flags true (some name), after)
  match text with
  | '=' :: _ => none
  | '!' :: _ => none
  | '<' :: '=' :: _ => none
  | '<' :: '!' :: _ => none
  | '<' :: rest => named rest
  | 'P' :: '<' :: rest => named rest
  | text =>
    match takeFlags? true false [] text with
    | none => none
    | some (settings, .colon, after) =>
      some (.openGroup (settings.foldl .switch flags) false none, after)
    | some ([], .parenthesis, _) => none
    | some (settings, .parenthesis, after) => some (.setting (settings.foldl .switch flags), after)

/-! ## Items -/

/-- Reads the item that starts with `c`. -/
def takeItem? (flags : Flags) (c : Char) (rest : List Char) : Option (Item × List Char) :=
  match c with
  | '^' =>
    let a := if flags.multiLine then .lineStart flags.returns else .start
    some (.piece (.ofAnchor a), rest)
  | '$' =>
    let a := if flags.multiLine then .lineFinish flags.returns else .finish
    some (.piece (.ofAnchor a), rest)
  | '.' => (dot? flags).map fun s => (.piece (.ofSet s 0), rest)
  | '|' => some (.bar, rest)
  | ')' => some (.closeGroup, rest)
  | '*' => some (.repetition 0 none, dropLazy rest)
  | '+' => some (.repetition 1 none, dropLazy rest)
  | '?' => some (.repetition 0 (some 1), dropLazy rest)
  | '\x7b' =>
    (takeBraced? flags.verbose rest).bind fun (text, after) =>
      (bounds? text).map fun (low, high) =>
        (.repetition low high, dropLazy (skipped flags.verbose after))
  | '[' => (takeClass? flags rest).map fun (s, after) => (.piece (.ofSet s.chars s.depth), after)
  | '(' =>
    match skipped flags.verbose rest with
    | '?' :: rest => takeGroup? flags rest
    | rest => some (.openGroup flags true none, rest)
  | c =>
    (takeAtom? flags (c :: rest)).bind fun (atom, after) =>
      (pieceOf? flags atom).map fun piece => (.piece piece, after)

/-! ## An item does not give text back -/

theorem length_dropLazy_le (text : List Char) : (dropLazy text).length ≤ text.length := by
  unfold dropLazy
  split <;> simp

theorem length_of_takeGroupName? {text name after : List Char}
    (h : takeGroupName? text = some (name, after)) : after.length < text.length := by
  unfold takeGroupName? at h
  grind [→ length_of_cut]

theorem length_of_takeGroup? {flags : Flags} {text after : List Char} {item : Item}
    (h : takeGroup? flags text = some (item, after)) : after.length ≤ text.length := by
  unfold takeGroup? at h
  grind [Option.map_eq_some_iff, → length_of_takeGroupName?, → length_of_takeFlags?]

theorem length_of_takeItem? {flags : Flags} {c : Char} {rest after : List Char} {item : Item}
    (h : takeItem? flags c rest = some (item, after)) : after.length ≤ rest.length := by
  unfold takeItem? at h
  split at h
  case h_9 =>
    obtain ⟨⟨_, after⟩, hb, h⟩ := Option.bind_eq_some_iff.1 h
    have := length_of_takeBraced? hb
    have := length_skipped_le flags.verbose after
    have := length_dropLazy_le (skipped flags.verbose after)
    grind [Option.map_eq_some_iff]
  all_goals
    grind [Option.map_eq_some_iff, Option.bind_eq_some_iff, length_dropLazy_le, length_skipped_le,
      → length_of_takeClassFrom?, → length_of_takeGroup?, → length_of_takeAtom?, takeClass?]

/-! ## Groups that are open -/

/-- An open group: the flags that are on, its alternatives but for the last, and the parts of this
one, all of them last first. -/
structure Group where
  flags : Flags := {}
  captured : Bool := false
  alternatives : List Piece := []
  parts : List Piece := []

namespace Group

/-- The piece of a group. -/
def piece (g : Group) : Piece :=
  .choice ((.sequence g.parts.reverse :: g.alternatives).reverse)

/-- Adds a part to the last alternative. -/
def add (g : Group) (part : Piece) : Group := { g with parts := part :: g.parts }

/-- Repeats the last part, if there is one that can be repeated. -/
def repeatLast? (g : Group) (low : Nat) (high : Option Nat) : Option Group :=
  match g.parts with
  | [] => none
  | part :: rest =>
    if part.isSetting then none else some { g with parts := part.repeated low high :: rest }

/-- Begins another alternative. -/
def bar (g : Group) : Group :=
  { g with alternatives := .sequence g.parts.reverse :: g.alternatives, parts := [] }

end Group

/-- The groups that are open, the innermost apart, and the names of groups so far. -/
structure State where
  inner : Group := {}
  outer : List Group := []
  names : List (List Char) := []

/-- Takes one item. -/
def State.step? (state : State) : Item → Option State
  | .piece piece => some { state with inner := state.inner.add piece }
  | .repetition low high =>
    (state.inner.repeatLast? low high).map fun inner => { state with inner }
  | .bar => some { state with inner := state.inner.bar }
  | .openGroup flags captured name =>
    if name.any state.names.contains then none
    else
      some { inner := { flags, captured }
             outer := state.inner :: state.outer
             names := name.toList ++ state.names }
  | .setting flags =>
    some { state with inner := { state.inner.add .setting with flags } }
  | .closeGroup =>
    match state.outer with
    | [] => none
    | around :: outer =>
      let piece := .group state.inner.captured state.inner.piece
      some { state with inner := around.add piece, outer }

/-- Reads the rest of a pattern: the piece for all of it. -/
def readFrom? (state : State) (text : List Char) : Option Piece :=
  match _h : skipped state.inner.flags.verbose text with
  | [] => if state.outer.isEmpty then some state.inner.piece else none
  | c :: rest =>
    match _hi : takeItem? state.inner.flags c rest with
    | none => none
    | some (item, after) =>
      match state.step? item with
      | none => none
      | some next => readFrom? next after
termination_by text.length
decreasing_by
  have := length_skipped_le state.inner.flags.verbose text
  have := length_of_takeItem? _hi
  grind

/-- Reads the text of a pattern. -/
def read? (text : String) : Option Pattern := (readFrom? {} text.toList).bind Piece.accepted?

end SqlTemplate.Pattern
