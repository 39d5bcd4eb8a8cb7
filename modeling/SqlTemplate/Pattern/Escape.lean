import SqlTemplate.Pattern.Basic
import SqlTemplate.Pattern.Flags
import SqlTemplate.Pattern.Verbose
import SqlTemplate.Text.Hex

/-!
# Escapes

A backslash gives the character after it another meaning: signs stand for themselves, some letters
stand for a control character, for a class such as `\d`, or for a place such as `\b`; `\x`, `\u` and
`\U` introduce the code point of a character, `\p` and `\P` the name of a property. An **atom** is
what an escape or a plain character stands for, inside of a class or outside. `takeAtom?` reads one;
it fails at an escape that is unknown.
-/

namespace SqlTemplate.Pattern

open Text

/-- What a character or an escape stands for. -/
inductive Atom where
  /-- A character; `byte` tells whether it is given by two hexadecimal digits. -/
  | char (c : Char) (byte : Bool)
  | chars (s : CharSet)
  | anchor (a : Anchor)

/-! ## Characters -/

/-- The control character that a letter stands for. -/
def control? : Char → Option Char
  | 'a' => some '\x07'
  | 'f' => some '\x0c'
  | 't' => some '\t'
  | 'n' => some '\n'
  | 'r' => some '\r'
  | 'v' => some '\x0b'
  | _ => none

/-- Whether an escaped character stands for itself: the signs up to U+007F do, but for the angle
brackets. -/
def isLiteral (c : Char) : Bool := c.toNat < 0x80 && !c.isAlphanum && c != '<' && c != '>'

/-- The character with a code point, if there is one. -/
def ofCodePoint? (n : Nat) : Option Char := if n.isValidChar then some (Char.ofNat n) else none

/-- The character whose code point hexadecimal digits give. -/
def ofHex? (digits : List Char) : Option Char :=
  if digits.isEmpty then none else (hexNumber? digits).bind ofCodePoint?

/-- Takes a number of characters, passing over what does not count between them. -/
def takeCounted? (verbose : Bool) : Nat → List Char → Option (List Char × List Char)
  | 0, text => some ([], text)
  | n + 1, text =>
    match skipped verbose text with
    | [] => none
    | c :: rest => (takeCounted? verbose n rest).map fun (taken, after) => (c :: taken, after)

/-- Reads a code point: any number of digits between braces, or exactly `width` of them. -/
def takeCodePoint? (verbose : Bool) (width : Nat) (text : List Char) :
    Option (Atom × List Char) :=
  match skipped verbose text with
  | '\x7b' :: rest => do
    let (digits, after) ← takeBraced? verbose rest
    let c ← ofHex? digits
    return (.char c false, after)
  | text => do
    let (digits, after) ← takeCounted? verbose width text
    let c ← ofHex? digits
    return (.char c (width == 2), after)

/-! ## Classes -/

/-- The set of a letter that stands for one. -/
def class? : Char → Option CharSet
  | 'd' => some .digit
  | 's' => some .space
  | 'w' => some .word
  | _ => none

/-- The set that a letter stands for, the complement of that of the small letter if it is a capital
one. -/
def classOf? (flags : Flags) (c : Char) : Option CharSet := do
  let s ← class? c.toLower
  flags.negate? c.isUpper (if flags.unicode then s else s.ascii)

/-- Reads the name of a property: one character, or what stands between braces. -/
def takeName? (verbose : Bool) (text : List Char) : Option (List Char × List Char) :=
  match skipped verbose text with
  | [] => none
  | '\\' :: _ => none
  | '\x7b' :: rest => takeBraced? verbose rest
  | c :: rest => some ([c], rest)

/-- Reads the set of a property; `negated` and `!=` in the name both ask for the characters without
it, and together for those with it. Without characters beyond U+007F there are no properties. -/
def takeProperty? (flags : Flags) (negated : Bool) (text : List Char) :
    Option (Atom × List Char) := do
  let (name, after) ← takeName? flags.verbose text
  let (differs, s) ← Property.read? name
  let s ← flags.negate? (negated != differs) (flags.fold s)
  if flags.unicode then some (.chars s, after) else none

/-! ## Places -/

/-- The places with respect to words that have a name. -/
def edge? (name : List Char) : Option WordEdge :=
  if name == "start".toList then some .start
  else if name == "end".toList then some .finish
  else if name == "start-half".toList then some .startHalf
  else if name == "end-half".toList then some .finishHalf
  else none

/-- Reads what may follow `\b`: the name of a place between braces. A brace that no name follows
asks for a repetition. -/
def takeEdge? (verbose : Bool) (text : List Char) : Option (WordEdge × List Char) :=
  match text with
  | '\x7b' :: rest =>
    match skipped verbose rest with
    | [] => none
    | c :: _ =>
      if c.isAlpha || c == '-' then do
        let (name, after) ← takeBraced? verbose rest
        let edge ← edge? name
        return (edge, after)
      else some (.boundary, text)
  | _ => some (.boundary, text)

/-- The place that a character stands for. -/
def place? (unicode : Bool) : Char → Option Anchor
  | 'A' => some .start
  | 'z' => some .finish
  | 'B' => some (.word .noBoundary !unicode)
  | '<' => some (.word .start !unicode)
  | '>' => some (.word .finish !unicode)
  | _ => none

/-! ## Atoms -/

/-- Reads what follows a backslash. -/
def takeEscape? (flags : Flags) : List Char → Option (Atom × List Char)
  | [] => none
  | c :: rest =>
    match c with
    | 'x' => takeCodePoint? flags.verbose 2 rest
    | 'u' => takeCodePoint? flags.verbose 4 rest
    | 'U' => takeCodePoint? flags.verbose 8 rest
    | 'p' => takeProperty? flags false rest
    | 'P' => takeProperty? flags true rest
    | 'b' =>
      (takeEdge? flags.verbose rest).map fun (edge, after) =>
        (.anchor (.word edge !flags.unicode), after)
    | c =>
      if isLiteral c then some (.char c false, rest)
      else
        ((control? c).map fun c => (.char c false, rest)).or <|
          ((classOf? flags c).map fun s => (.chars s, rest)).or <|
            (place? flags.unicode c).map fun a => (.anchor a, rest)

/-- Reads a character or an escape. -/
def takeAtom? (flags : Flags) : List Char → Option (Atom × List Char)
  | [] => none
  | '\\' :: rest => takeEscape? flags rest
  | c :: rest => some (.char c false, rest)

/-! ## Nothing is given back -/

theorem length_of_takeCounted? {verbose : Bool} {n : Nat} {text taken after : List Char}
    (h : takeCounted? verbose n text = some (taken, after)) : after.length ≤ text.length := by
  fun_induction takeCounted? verbose n text generalizing taken <;>
    grind [Option.map_eq_some_iff, length_skipped_le]

theorem length_of_takeCodePoint? {verbose : Bool} {width : Nat} {text after : List Char}
    {atom : Atom} (h : takeCodePoint? verbose width text = some (atom, after)) :
    after.length ≤ text.length := by
  have hle := length_skipped_le verbose text
  unfold takeCodePoint? at h
  split at h
  · rename_i heq
    obtain ⟨⟨_, _⟩, hb, _, _, h⟩ := by
      simpa only [Option.bind_eq_bind, Option.bind_eq_some_iff] using h
    cases h
    have := length_of_takeBraced? hb
    grind
  · obtain ⟨⟨_, _⟩, hc, _, _, h⟩ := by
      simpa only [Option.bind_eq_bind, Option.bind_eq_some_iff] using h
    cases h
    exact Nat.le_trans (length_of_takeCounted? hc) hle

theorem length_of_takeName? {verbose : Bool} {text name after : List Char}
    (h : takeName? verbose text = some (name, after)) : after.length ≤ text.length := by
  have hle := length_skipped_le verbose text
  unfold takeName? at h
  split at h <;> grind [→ length_of_takeBraced?]

theorem length_of_takeProperty? {flags : Flags} {negated : Bool} {text after : List Char}
    {atom : Atom} (h : takeProperty? flags negated text = some (atom, after)) :
    after.length ≤ text.length := by
  unfold takeProperty? at h
  obtain ⟨⟨_, _⟩, hn, _, _, _, _, h⟩ := by
    simpa only [Option.bind_eq_bind, Option.bind_eq_some_iff] using h
  split at h
  · cases h
    exact length_of_takeName? hn
  · contradiction

theorem length_of_takeEdge? {verbose : Bool} {text after : List Char} {edge : WordEdge}
    (h : takeEdge? verbose text = some (edge, after)) : after.length ≤ text.length := by
  unfold takeEdge? at h
  split at h
  · split at h
    · contradiction
    · split at h
      · obtain ⟨⟨_, _⟩, hb, _, _, h⟩ := by
          simpa only [Option.bind_eq_bind, Option.bind_eq_some_iff] using h
        cases h
        have := length_of_takeBraced? hb
        grind
      · cases h
        exact Nat.le_refl _
  · cases h
    exact Nat.le_refl _

theorem length_of_takeEscape? {flags : Flags} {text after : List Char} {atom : Atom}
    (h : takeEscape? flags text = some (atom, after)) : after.length < text.length := by
  unfold takeEscape? at h
  split at h
  · contradiction
  · split at h <;>
      grind [Option.map_eq_some_iff, Option.or_eq_some_iff, → length_of_takeCodePoint?,
        → length_of_takeProperty?, → length_of_takeEdge?]

theorem length_of_takeAtom? {flags : Flags} {text after : List Char} {atom : Atom}
    (h : takeAtom? flags text = some (atom, after)) : after.length < text.length := by
  unfold takeAtom? at h
  split at h <;> grind [→ length_of_takeEscape?]

end SqlTemplate.Pattern
