import SqlTemplate.Json.Number
import SqlTemplate.Text.Cut
import SqlTemplate.Text.Hex

/-!
# The tokens of a JSON text

A JSON text is a sequence of **tokens**: brackets, commas, colons, the three words, numerals and
texts. Between two tokens stand blanks, tabs and line ends, nothing else.

In a text, an escape such as `\u00e9` gives one unit of sixteen bits; two of them in a row may
form one character. A text with a half of such a pair standing alone is still a token, but there
is no sequence of characters that it stands for.
-/

namespace SqlTemplate.Json

/-- A token of a JSON text. -/
inductive Token where
  | openArray
  | closeArray
  | openObject
  | closeObject
  | comma
  | colon
  | null
  | bool (b : Bool)
  | number (n : Numeral)
  /-- A text, with its characters if its escapes form characters. -/
  | text (content : Option String)

/-! ## Texts -/

/-- A piece of a text between quotes: a character, or a unit of sixteen bits. -/
inductive Piece where
  | char (c : Char)
  | unit (n : Nat)

/-- The character that a backslash and a letter stand for. -/
def shortEscape? : Char → Option Char
  | '"' => some '"'
  | '\\' => some '\\'
  | '/' => some '/'
  | 'b' => some '\x08'
  | 'f' => some '\x0c'
  | 'n' => some '\n'
  | 'r' => some '\r'
  | 't' => some '\t'
  | _ => none

/-- Reads a text up to its closing quote. -/
def takeText : List Char → Option (List Piece × List Char)
  | [] => none
  | '"' :: rest => some ([], rest)
  | '\\' :: 'u' :: a :: b :: c :: d :: rest => do
    let n ← Text.hexNumber? [a, b, c, d]
    let (pieces, rest) ← takeText rest
    return (.unit n :: pieces, rest)
  | '\\' :: c :: rest => do
    let c ← shortEscape? c
    let (pieces, rest) ← takeText rest
    return (.char c :: pieces, rest)
  | c :: rest =>
    if c.toNat < 0x20 then none
    else do
      let (pieces, rest) ← takeText rest
      return (.char c :: pieces, rest)

/-- Whether a unit is the first half of a pair. -/
def isLead (n : Nat) : Bool := 0xd800 ≤ n && n ≤ 0xdbff

/-- Whether a unit is the second half of a pair. -/
def isTrail (n : Nat) : Bool := 0xdc00 ≤ n && n ≤ 0xdfff

/-- The characters that the pieces of a text form, if no half of a pair stands alone. -/
def decodePieces : List Piece → Option (List Char)
  | [] => some []
  | .char c :: rest => (decodePieces rest).map (c :: ·)
  | .unit a :: .unit b :: rest =>
    if isLead a && isTrail b then
      (decodePieces rest).map
        (Char.ofNat (0x10000 + (a - 0xd800) * 0x400 + (b - 0xdc00)) :: ·)
    else if isLead a || isTrail a then none
    else (decodePieces (.unit b :: rest)).map (Char.ofNat a :: ·)
  | .unit a :: rest =>
    if isLead a || isTrail a then none else (decodePieces rest).map (Char.ofNat a :: ·)

/-! ## Numerals -/

/-- Splits a text after the digits at its start. -/
def takeDigits (text : List Char) : List Char × List Char :=
  (text.takeWhile Char.isDigit, text.dropWhile Char.isDigit)

/-- Reads the exponent of a numeral, if there is one. -/
def takeExponent? : List Char → Option (Option (Bool × List Char) × List Char)
  | [] => some (none, [])
  | c :: rest =>
    if c == 'e' || c == 'E' then
      let (negative, rest) := match rest with
        | '-' :: rest => (true, rest)
        | '+' :: rest => (false, rest)
        | rest => (false, rest)
      let (digits, rest) := takeDigits rest
      if digits.isEmpty then none else some (some (negative, digits), rest)
    else some (none, c :: rest)

/-- Reads the fraction of a numeral, if there is one. -/
def takeFraction? : List Char → Option (Option (List Char) × List Char)
  | '.' :: rest =>
    let (digits, rest) := takeDigits rest
    if digits.isEmpty then none else some (some digits, rest)
  | text => some (none, text)

/-- Reads a numeral without its sign. A whole part that starts with a zero has no other digit. -/
def takeNumeral? (negative : Bool) (text : List Char) : Option (Numeral × List Char) := do
  let (whole, rest) := takeDigits text
  if whole.isEmpty || (whole.head? == some '0' && 1 < whole.length) then none
  else
    let (fraction, rest) ← takeFraction? rest
    let (exponent, rest) ← takeExponent? rest
    return ({ negative, whole, fraction, exponent }, rest)

/-! ## The whole text -/

/-- Whether a character may stand between two tokens. -/
def isGap (c : Char) : Bool := c == ' ' || c == '\n' || c == '\t' || c == '\r'

/-- Reads the token that starts with `c`. -/
def takeToken? (c : Char) (rest : List Char) : Option (Token × List Char) :=
  match c with
  | '[' => some (.openArray, rest)
  | ']' => some (.closeArray, rest)
  | '\x7b' => some (.openObject, rest)
  | '\x7d' => some (.closeObject, rest)
  | ',' => some (.comma, rest)
  | ':' => some (.colon, rest)
  | '"' => (takeText rest).map fun (pieces, rest) =>
      (.text ((decodePieces pieces).map String.ofList), rest)
  | '-' => (takeNumeral? true rest).map fun (n, rest) => (.number n, rest)
  | 'n' => (Text.after? ['u', 'l', 'l'] rest).map fun rest => (.null, rest)
  | 't' => (Text.after? ['r', 'u', 'e'] rest).map fun rest => (.bool true, rest)
  | 'f' => (Text.after? ['a', 'l', 's', 'e'] rest).map fun rest => (.bool false, rest)
  | c => if c.isDigit then (takeNumeral? false (c :: rest)).map fun (n, rest) => (.number n, rest)
    else none

/-! ## A token does not give text back -/

theorem length_of_takeText {text after : List Char} {pieces : List Piece}
    (h : takeText text = some (pieces, after)) : after.length < text.length := by
  fun_induction takeText text generalizing pieces with
  | case1 => contradiction
  | case2 rest => cases h; simp
  | case3 a b c d rest ih =>
    simp only [Option.bind_eq_bind, Option.bind_eq_some_iff] at h
    obtain ⟨_, _, ⟨_, _⟩, h', heq⟩ := h
    cases heq
    exact Nat.lt_of_lt_of_le (ih h') (by simp only [List.length_cons]; omega)
  | case4 c rest _ ih =>
    simp only [Option.bind_eq_bind, Option.bind_eq_some_iff] at h
    obtain ⟨_, _, ⟨_, _⟩, h', heq⟩ := h
    cases heq
    exact Nat.lt_of_lt_of_le (ih h') (by simp only [List.length_cons]; omega)
  | case5 => contradiction
  | case6 c rest _ _ _ _ ih =>
    simp only [Option.bind_eq_bind, Option.bind_eq_some_iff] at h
    obtain ⟨⟨_, _⟩, h', heq⟩ := h
    cases heq
    exact Nat.lt_of_lt_of_le (ih h') (by simp)

theorem length_of_takeFraction? {text after : List Char} {fraction : Option (List Char)}
    (h : takeFraction? text = some (fraction, after)) : after.length ≤ text.length := by
  unfold takeFraction? takeDigits at h
  have := Text.length_dropWhile_le Char.isDigit
  grind

theorem length_of_takeExponent? {text after : List Char} {exponent : Option (Bool × List Char)}
    (h : takeExponent? text = some (exponent, after)) : after.length ≤ text.length := by
  unfold takeExponent? takeDigits at h
  have := Text.length_dropWhile_le Char.isDigit
  grind

theorem length_of_takeNumeral? {negative : Bool} {text after : List Char} {n : Numeral}
    (h : takeNumeral? negative text = some (n, after)) : after.length < text.length := by
  unfold takeNumeral? takeDigits at h
  dsimp only at h
  split at h
  · contradiction
  · next hw =>
    simp only [Option.bind_eq_bind, Option.bind_eq_some_iff] at h
    obtain ⟨⟨_, _⟩, hf, ⟨_, _⟩, he, heq⟩ := h
    cases heq
    refine Nat.lt_of_le_of_lt (length_of_takeExponent? he)
      (Nat.lt_of_le_of_lt (length_of_takeFraction? hf) ?_)
    have hsum := congrArg List.length
      (List.takeWhile_append_dropWhile (p := Char.isDigit) (l := text))
    have hne : text.takeWhile Char.isDigit ≠ [] := by
      intro hnil
      simp [hnil] at hw
    have := List.length_pos_iff.2 hne
    rw [List.length_append] at hsum
    omega

theorem length_of_takeToken? {c : Char} {rest after : List Char} {token : Token}
    (h : takeToken? c rest = some (token, after)) : after.length ≤ rest.length := by
  unfold takeToken? at h
  split at h
  all_goals first | (cases h; exact Nat.le_refl _) | skip
  case h_7 =>
    obtain ⟨⟨_, _⟩, h', heq⟩ := Option.map_eq_some_iff.1 h
    cases heq
    exact Nat.le_of_lt (length_of_takeText h')
  case h_8 =>
    obtain ⟨⟨_, _⟩, h', heq⟩ := Option.map_eq_some_iff.1 h
    cases heq
    exact Nat.le_of_lt (length_of_takeNumeral? h')
  case h_12 =>
    split at h
    · obtain ⟨⟨_, _⟩, h', heq⟩ := Option.map_eq_some_iff.1 h
      cases heq
      exact Nat.le_of_lt_succ (length_of_takeNumeral? h')
    · contradiction
  all_goals
    obtain ⟨_, h', heq⟩ := Option.map_eq_some_iff.1 h
    cases heq
    exact Text.length_of_after? h'

/-! ## The tokens of a text -/

/-- The tokens of a JSON text. -/
def tokens? : List Char → Option (List Token)
  | [] => some []
  | c :: rest =>
    if isGap c then tokens? rest
    else
      match _h : takeToken? c rest with
      | none => none
      | some (token, after) => (tokens? after).map (token :: ·)
termination_by text => text.length
decreasing_by
  · simp
  · have := length_of_takeToken? _h
    simp only [List.length_cons]
    omega

end SqlTemplate.Json
