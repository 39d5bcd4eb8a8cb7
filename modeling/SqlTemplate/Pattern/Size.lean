import SqlTemplate.Pattern.CharSet

/-!
# The size of a pattern

Patterns are limited by the size of the automata that read the bytes of a text for them, one
forwards and one backwards. An automaton has a state for each byte of a character and each place,
and further states where ways part and meet; a repetition has the states of the repeated pattern as
many times as it may be taken. A state takes 32 bytes, and each further way out of it 8 bytes if
it is for a range of bytes, and 4 bytes if it is for any.

`CharSet.size` counts the states for a set of characters. Backwards, sequences of bytes share their
states as far as they begin alike; forwards, they do as far as they may go on alike.
-/

namespace SqlTemplate

/-- A range of bytes, the ends included. -/
abbrev ByteRange := Nat × Nat

/-! ## Characters as bytes -/

namespace ByteRange

/-- The bytes that carry on a character. -/
def continuation : ByteRange := (0x80, 0xbf)

/-- The sequences of byte ranges for the numbers from `low` to `high`, written with a leading byte
from `lead` on and `more` bytes of six bits each after it. -/
def sequencesFrom (lead : Nat) : (more low high : Nat) → List (List ByteRange)
  | 0, low, high => [[(lead + low, lead + high)]]
  | more + 1, low, high =>
    let unit := Nat.pow 64 (more + 1)
    let full (a b : Nat) := (lead + a, lead + b) :: List.replicate (more + 1) continuation
    let a := low / unit
    let b := high / unit
    let beginsUnit := low % unit == 0
    let endsUnit := high % unit == unit - 1
    if beginsUnit && endsUnit then [full a b]
    else if a == b then
      (sequencesFrom 0x80 more (low % unit) (high % unit)).map ((lead + a, lead + a) :: ·)
    else
      let first :=
        if beginsUnit then []
        else (sequencesFrom 0x80 more (low % unit) (unit - 1)).map ((lead + a, lead + a) :: ·)
      let last :=
        if endsUnit then []
        else (sequencesFrom 0x80 more 0 (high % unit)).map ((lead + b, lead + b) :: ·)
      let a := if beginsUnit then a else a + 1
      let b := if endsUnit then b else b - 1
      first ++ (if a ≤ b then [full a b] else []) ++ last

/-- The stretches of code points that are written alike: the leading byte of zero, the number of
bytes after it, and the two ends. -/
def stretches : List (Nat × Nat × Nat × Nat) :=
  [(0, 0, 0, 0x7f), (0xc0, 1, 0x80, 0x7ff), (0xe0, 2, 0x800, 0xd7ff), (0xe0, 2, 0xe000, 0xffff),
   (0xf0, 3, 0x10000, 0x10ffff)]

/-- The sequences of byte ranges for the characters of a range, in ascending order. -/
def sequences (range : Nat × Nat) : List (List ByteRange) :=
  stretches.flatMap fun (lead, more, low, high) =>
    let low := max low range.1
    let high := min high range.2
    if low ≤ high then sequencesFrom lead more low high else []

end ByteRange

/-! ## States -/

/-- The bytes that a state takes. -/
def stateSize : Nat := 32

/-- The number of elements that two lists have in common at their starts. -/
def commonLength : List ByteRange → List ByteRange → Nat
  | a :: as, b :: bs => if a = b then commonLength as bs + 1 else 0
  | _, _ => 0

/-- The number of states that share beginnings, after a sequence that has its states already. -/
def sharedBeginnings (last : List ByteRange) : List (List ByteRange) → Nat
  | [] => 0
  | s :: rest => s.length - commonLength last s + sharedBeginnings s rest

/-- The sequences that go on after each of their first ranges; sequences that begin alike stand
together. -/
def branches : List (List ByteRange) → List (List (List ByteRange))
  | [] => []
  | [] :: rest => branches rest
  | (a :: s) :: rest =>
    match rest with
    | (b :: _) :: _ =>
      match a == b, branches rest with
      | true, branch :: more => (s :: branch) :: more
      | _, more => [s] :: more
    | _ => [s] :: branches rest

/-- What may follow after up to `depth` bytes, but for the ends. -/
def endings : (depth : Nat) → List (List ByteRange) → List (List (List ByteRange))
  | 0, _ => []
  | depth + 1, sequences =>
    if sequences.all List.isEmpty then []
    else sequences :: (branches sequences).flatMap (endings depth)

/-- The bytes that the states take that share endings. -/
def sharedEndings (sequences : List (List ByteRange)) : Nat :=
  (endings 4 sequences).eraseDups.foldr
    (fun ending size => stateSize + 8 * (branches ending).length + size) 0

/-! ## Sizes -/

/-- The bytes that the automata of a pattern take, and what is known of the texts it matches. -/
structure Size where
  forward : Nat
  backward : Nat
  /-- Only the empty text matches. -/
  onlyEmpty : Bool
  /-- The empty text does not match. -/
  neverEmpty : Bool

/-- The size of a set of several characters. Characters below U+0080 have one state for all their
ranges, in both directions. -/
def CharSet.severalSize (s : CharSet) : Size :=
  let sequences := s.ranges.flatMap ByteRange.sequences
  if s.isAscii then
    ⟨2 * stateSize + 8 * sequences.length, 2 * stateSize + 8 * sequences.length, false, true⟩
  else
    ⟨stateSize + sharedEndings sequences,
      2 * stateSize + stateSize * sharedBeginnings [] sequences + 4 * sequences.length, false, true⟩

/-- The size of a set of characters. One character has a state for each of its bytes. -/
def CharSet.size (s : CharSet) : Size :=
  match s.ranges with
  | [] => ⟨stateSize, stateSize, false, true⟩
  | [(low, high)] =>
    if low = high then
      let bytes := (Char.ofNat low).utf8Size
      ⟨stateSize * bytes, stateSize * bytes, false, true⟩
    else s.severalSize
  | _ => s.severalSize

namespace Size

/-- The size of a pattern that reads nothing. -/
def place : Size := ⟨stateSize, stateSize, true, false⟩

/-- Adds some bytes to both automata. -/
def add (a : Size) (n : Nat) : Size :=
  { a with forward := a.forward + n, backward := a.backward + n }

/-- The size of one pattern after another. -/
def seq (a b : Size) : Size :=
  ⟨a.forward + b.forward, a.backward + b.backward, a.onlyEmpty && b.onlyEmpty,
    a.neverEmpty || b.neverEmpty⟩

/-- The size of alternatives: two states where the ways part and meet, with a way for each. -/
def alternatives (sizes : List Size) : Size :=
  sizes.foldr (fun a b => ⟨a.forward + 4 + b.forward, a.backward + 4 + b.backward,
    a.onlyEmpty && b.onlyEmpty, a.neverEmpty && b.neverEmpty⟩)
    ⟨2 * stateSize, 2 * stateSize, true, true⟩

/-- The size of a group whose place is kept: the forward automaton has two states for it. -/
def captured (a : Size) : Size := { a with forward := a.forward + 2 * stateSize }

/-- The bytes that a state takes where two ways part. -/
def forkSize : Nat := stateSize + 8

/-- The size of `n` copies. -/
def copies (n : Nat) (a : Size) : Size :=
  { a with forward := n * a.forward, backward := n * a.backward }

/-- The size of a repetition. -/
def repeated (a : Size) (low : Nat) (high : Option Nat) : Size :=
  let size :=
    match low, high with
    | _, some 0 => place
    | 1, some 1 => a
    | 0, some 1 => a.add (forkSize + stateSize)
    | 0, none => a.add (if a.neverEmpty then forkSize else 2 * forkSize + stateSize)
    | low, none => (a.copies low).add forkSize
    | low, some high =>
      if low = high then a.copies low
      else
        ((a.copies low).seq ((a.add forkSize).copies (high - low))).add
          (if low = 0 then 2 * stateSize else stateSize)
  { size with onlyEmpty := a.onlyEmpty || high == some 0, neverEmpty := a.neverEmpty && low != 0 }

/-- The most bytes that an automaton may take: ten mebibytes. -/
def limit : Nat := 10 * 1024 * 1024

/-- Whether the automata are within the limit. -/
def fits (a : Size) : Bool := a.forward ≤ limit && a.backward ≤ limit

end Size

end SqlTemplate
