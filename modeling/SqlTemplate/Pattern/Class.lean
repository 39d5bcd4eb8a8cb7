import SqlTemplate.Pattern.Escape

/-!
# Classes

A **class** is a set of characters between brackets. It has characters, ranges, escapes, named
classes such as `[:alpha:]` and classes of its own, and it is made of one or several unions of
these with operators between them: `&&` keeps what is on both sides, `--` takes away what is on the
right, `~~` keeps what is on one side only. The operators are applied from left to right. A caret at
the start of a class stands for the complement; hyphens that follow, or else one closing bracket,
stand for themselves.

`takeClass?` reads a class after its opening bracket, on a stack of open brackets. A `Nested` set
knows how deeply classes, unions and operators are nested in it.
-/

namespace SqlTemplate.Pattern

/-! ## Nested sets -/

/-- A set with the depth of what it is made of; a character, a range and an escape have depth 0. -/
structure Nested where
  chars : CharSet
  depth : Nat

/-- The depth of the deepest of some sets. -/
def deepest (parts : List Nested) : Nat := (parts.map (·.depth)).foldl max 0

/-- The union of some sets, one level deeper if they are several. -/
def Nested.ofParts (flags : Flags) (parts : List Nested) : Nested :=
  let chars := flags.fold (.ofRanges (parts.flatMap (·.chars.ranges)))
  ⟨chars, if parts.length < 2 then deepest parts else deepest parts + 1⟩

/-- An operator between two sets. -/
inductive SetOperator where
  | inter
  | without
  | eitherOnly

/-- What an operator makes of two sets. -/
def SetOperator.apply (left right : Nested) : SetOperator → Nested
  | inter => ⟨left.chars.inter right.chars, max left.depth right.depth + 1⟩
  | without => ⟨left.chars.without right.chars, max left.depth right.depth + 1⟩
  | eitherOnly => ⟨left.chars.eitherOnly right.chars, max left.depth right.depth + 1⟩

/-! ## Open brackets -/

/-- A class that has been opened: what stands before the last operator, with this operator, and the
parts after it. A class is fresh as long as only hyphens stand in it. -/
structure Bracket where
  negated : Bool := false
  fresh : Bool := true
  left : Option (Nested × SetOperator) := none
  parts : List Nested := []

namespace Bracket

/-- Adds a part. -/
def add (b : Bracket) (part : Nested) : Bracket :=
  { b with fresh := false, parts := part :: b.parts }

/-- What stands in a class so far. -/
def content (flags : Flags) (b : Bracket) : Nested :=
  let right := Nested.ofParts flags b.parts
  match b.left with
  | none => right
  | some (left, operator) => operator.apply left right

/-- Takes an operator. -/
def apply (flags : Flags) (b : Bracket) (operator : SetOperator) : Bracket :=
  { b with fresh := false, left := some (b.content flags, operator), parts := [] }

/-- The set of a class that is closed. -/
def close? (flags : Flags) (b : Bracket) : Option Nested :=
  let content := b.content flags
  (flags.negate? b.negated content.chars).map fun chars => ⟨chars, content.depth + 1⟩

end Bracket

/-! ## Parts -/

/-- The characters of a named class. -/
def namedRanges? (name : List Char) : Option Text.RangeTable :=
  match String.ofList name with
  | "alnum" => some [(0x30, 0x39), (0x41, 0x5a), (0x61, 0x7a)]
  | "alpha" => some [(0x41, 0x5a), (0x61, 0x7a)]
  | "ascii" => some [(0, 0x7f)]
  | "blank" => some [(0x9, 0x9), (0x20, 0x20)]
  | "cntrl" => some [(0, 0x1f), (0x7f, 0x7f)]
  | "digit" => some [(0x30, 0x39)]
  | "graph" => some [(0x21, 0x7e)]
  | "lower" => some [(0x61, 0x7a)]
  | "print" => some [(0x20, 0x7e)]
  | "punct" => some [(0x21, 0x2f), (0x3a, 0x40), (0x5b, 0x60), (0x7b, 0x7e)]
  | "space" => some [(0x9, 0xd), (0x20, 0x20)]
  | "upper" => some [(0x41, 0x5a)]
  | "word" => some [(0x30, 0x39), (0x41, 0x5a), (0x5f, 0x5f), (0x61, 0x7a)]
  | "xdigit" => some [(0x30, 0x39), (0x41, 0x46), (0x61, 0x66)]
  | _ => none

/-- Reads a named class after its opening bracket: whether it is negated, and its characters. -/
def takeNamed? (text : List Char) : Option (Bool × CharSet × List Char) :=
  match text with
  | ':' :: rest =>
    let (negated, rest) := match rest with
      | '^' :: rest => (true, rest)
      | rest => (false, rest)
    match rest.dropWhile (· != ':') with
    | ':' :: ']' :: after =>
      (namedRanges? (rest.takeWhile (· != ':'))).map fun ranges =>
        (negated, CharSet.ofRanges ranges, after)
    | _ => none
  | _ => none

/-- The code point of a character in a class. Without characters beyond U+007F a class cannot have
one. -/
def classChar? (flags : Flags) : Atom → Option Nat
  | .char c _ => if flags.unicode || c.toNat < 0x80 then some c.toNat else none
  | _ => none

/-- The set of an atom in a class; places have none. -/
def atomChars? (flags : Flags) : Atom → Option CharSet
  | .chars s => some s
  | atom => (classChar? flags atom).map fun n => .range n n

/-- Reads a character, an escape or a range. A hyphen makes a range of the characters beside it
unless a closing bracket or another hyphen follows. -/
def takePart? (flags : Flags) (text : List Char) : Option (CharSet × List Char) := do
  let (first, rest) ← takeAtom? flags text
  match skipped flags.verbose rest with
  | '-' :: after =>
    if peek? flags.verbose after == some ']' || peek? flags.verbose after == some '-' then
      (atomChars? flags first).map fun s => (s, '-' :: after)
    else
      let (last, rest) ← takeAtom? flags (skipped flags.verbose after)
      let low ← classChar? flags first
      let high ← classChar? flags last
      if low ≤ high then some (.range low high, rest) else none
  | rest => (atomChars? flags first).map fun s => (s, rest)

/-! ## Steps -/

/-- What a step through a class leads to: the class is closed, or its brackets are those given. -/
inductive ClassStep where
  | closed (s : Nested)
  | goOn (inner : Bracket) (outer : List Bracket)

/-- Reads the next part of a class, or a bracket, or an operator. -/
def classStep? (flags : Flags) (inner : Bracket) (outer : List Bracket) (c : Char)
    (rest : List Char) : Option (ClassStep × List Char) :=
  let part (s : CharSet) (rest : List Char) : Option (ClassStep × List Char) :=
    some (.goOn (inner.add ⟨s, 0⟩) outer, rest)
  let operator (op : SetOperator) (rest : List Char) : Option (ClassStep × List Char) :=
    some (.goOn (inner.apply flags op) outer, rest)
  let first := inner.fresh && inner.parts.isEmpty
  if first && !inner.negated && c == '^' then
    some (.goOn { inner with negated := true } outer, rest)
  else if first && c == ']' then part (.single ']') rest
  else if inner.fresh && c == '-' then
    some (.goOn { inner with parts := ⟨.single '-', 0⟩ :: inner.parts } outer, rest)
  else
    match c, rest with
    | '[', rest =>
      match takeNamed? rest with
      | some (negated, s, after) =>
        (flags.negate? negated (flags.fold s)).bind fun s => part s after
      | none => some (.goOn {} (inner :: outer), rest)
    | ']', rest =>
      (inner.close? flags).map fun s =>
        match outer with
        | [] => (.closed s, rest)
        | around :: outer => (.goOn (around.add s) outer, rest)
    | '&', '&' :: rest => operator .inter rest
    | '-', '-' :: rest => operator .without rest
    | '~', '~' :: rest => operator .eitherOnly rest
    | c, rest => (takePart? flags (c :: rest)).bind fun (s, rest) => part s rest

/-! ## Nothing is given back -/

theorem length_of_takeNamed? {text after : List Char} {negated : Bool} {s : CharSet}
    (h : takeNamed? text = some (negated, s, after)) : after.length ≤ text.length := by
  unfold takeNamed? at h
  have hle := Text.length_dropWhile_le (· != ':')
  split at h
  · rename_i rest
    have := hle rest
    have := hle rest.tail
    grind [Option.map_eq_some_iff]
  · contradiction

theorem length_of_takePart? {flags : Flags} {text after : List Char} {s : CharSet}
    (h : takePart? flags text = some (s, after)) : after.length < text.length := by
  obtain ⟨⟨first, rest⟩, hfirst, h⟩ := by
    simpa only [takePart?, Option.bind_eq_bind, Option.bind_eq_some_iff] using h
  have hrest := length_of_takeAtom? hfirst
  have hle := length_skipped_le flags.verbose rest
  split at h
  · rename_i hafter heq
    have := length_skipped_le flags.verbose hafter
    split at h
    · grind [Option.map_eq_some_iff]
    · obtain ⟨⟨_, _⟩, hlast, _, _, _, _, h⟩ := by
        simpa only [Option.bind_eq_bind, Option.bind_eq_some_iff] using h
      grind [→ length_of_takeAtom?]
  · grind [Option.map_eq_some_iff]

theorem length_of_classStep? {flags : Flags} {inner : Bracket} {outer : List Bracket} {c : Char}
    {rest after : List Char} {step : ClassStep}
    (h : classStep? flags inner outer c rest = some (step, after)) :
    after.length ≤ rest.length := by
  unfold classStep? at h
  grind [Option.map_eq_some_iff, Option.bind_eq_some_iff, → length_of_takePart?,
    → length_of_takeNamed?]

/-! ## Whole classes -/

/-- Reads a class to its closing bracket, within the brackets that are open. -/
def takeClassFrom? (flags : Flags) (inner : Bracket) (outer : List Bracket) (text : List Char) :
    Option (Nested × List Char) :=
  match _h : skipped flags.verbose text with
  | [] => none
  | c :: rest =>
    match _hs : classStep? flags inner outer c rest with
    | none => none
    | some (.closed s, after) => some (s, after)
    | some (.goOn inner outer, after) => takeClassFrom? flags inner outer after
termination_by text.length
decreasing_by
  have := length_skipped_le flags.verbose text
  have := length_of_classStep? _hs
  grind

/-- Reads a class after its opening bracket. -/
def takeClass? (flags : Flags) (text : List Char) : Option (Nested × List Char) :=
  takeClassFrom? flags {} [] text

theorem length_of_takeClassFrom? {flags : Flags} {inner : Bracket} {outer : List Bracket}
    {text after : List Char} {s : Nested}
    (h : takeClassFrom? flags inner outer text = some (s, after)) :
    after.length ≤ text.length := by
  fun_induction takeClassFrom? flags inner outer text <;>
    grind [length_skipped_le, → length_of_classStep?]

end SqlTemplate.Pattern
