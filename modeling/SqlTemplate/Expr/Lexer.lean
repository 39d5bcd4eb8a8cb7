import SqlTemplate.Expr.Fault
import SqlTemplate.Text.Blank
import SqlTemplate.Text.Cut
import SqlTemplate.Text.Letter
import SqlTemplate.Text.Numeric

/-!
# Cutting an expression into tokens

Tokens are taken from left to right, each as long as it can be; spaces between them are skipped.

* A **name** starts with a letter, an underscore or a dollar sign and goes on with these and
  numerals. Three names are connectives.
* A **number** is a run of digits, with a fraction if a point and another digit follow. Without a
  fraction it is an integer while it fits 64 bits with sign, and a decimal beyond that.
* A **text** stands between two equal quotes, single or double; a backslash takes the next
  character as it is.
-/

namespace SqlTemplate

namespace Token

open Text

/-- Whether a name can start with this character. -/
def startsName (c : Char) : Bool := isLetter c || c == '_' || c == '$'

/-- Whether a name can go on with this character. -/
def continuesName (c : Char) : Bool := isLetter c || isNumeral c || c == '_' || c == '$'

/-- The token that a word is. -/
def ofWord (word : String) : Token :=
  if word = "and" then and
  else if word = "or" then or
  else if word = "not" then not
  else name word

/-- The token of a number with these digits, and a fraction if there is a point. -/
def ofDigits (whole : List Char) : Option (List Char) → Token
  | some fraction => decimal ⟨Nat.ofDigitChars 10 (whole ++ fraction) 0, fraction.length⟩
  | none =>
    let n := Nat.ofDigitChars 10 whole 0
    if n < 0x8000000000000000 then int (Int64.ofNat n) else decimal (Decimal.ofInt n)

/-- The digits after a point, if a point with a digit after it comes next. -/
def takeFraction : List Char → Option (List Char) × List Char
  | '.' :: d :: rest =>
    if d.isDigit then (some (d :: rest.takeWhile Char.isDigit), rest.dropWhile Char.isDigit)
    else (none, '.' :: d :: rest)
  | rest => (none, rest)

/-- The characters of a text up to its closing quote, and what follows it. -/
def takeQuoted (quote : Char) : List Char → Option (List Char × List Char)
  | [] => none
  | '\\' :: c :: rest => (takeQuoted quote rest).map fun (s, after) => (c :: s, after)
  | c :: rest =>
    if c = quote then some ([], rest)
    else (takeQuoted quote rest).map fun (s, after) => (c :: s, after)

/-- Why no token can be taken. -/
inductive Stop where
  /-- No token starts here. -/
  | stray
  /-- A text has no closing quote. -/
  | unterminated

/-- A token of two equal characters. -/
def takePair (token : Token) (c : Char) : List Char → Except Stop (Token × List Char)
  | d :: rest => if d = c then .ok (token, rest) else .error .stray
  | [] => .error .stray

/-- A comparison that may go on with an equals sign. -/
def takeComparison (alone withEquals : Token) : List Char → Except Stop (Token × List Char)
  | '=' :: rest => .ok (withEquals, rest)
  | rest => .ok (alone, rest)

/-- Takes the token that starts with `c`. -/
def take (c : Char) (rest : List Char) : Except Stop (Token × List Char) :=
  match c with
  | '.' => .ok (dot, rest)
  | '-' => .ok (minus, rest)
  | '[' => .ok (openBracket, rest)
  | ']' => .ok (closeBracket, rest)
  | '(' => .ok (openParen, rest)
  | ')' => .ok (closeParen, rest)
  | '=' => takePair (compare .eq) '=' rest
  | '!' => takeComparison not (compare .ne) rest
  | '<' => takeComparison (compare .lt) (compare .le) rest
  | '>' => takeComparison (compare .gt) (compare .ge) rest
  | '&' => takePair and '&' rest
  | '|' => takePair or '|' rest
  | c =>
    if c == '\'' || c == '"' then
      match takeQuoted c rest with
      | some (s, after) => .ok (text (String.ofList s), after)
      | none => .error .unterminated
    else if c.isDigit then
      let (fraction, after) := takeFraction (rest.dropWhile Char.isDigit)
      .ok (ofDigits (c :: rest.takeWhile Char.isDigit) fraction, after)
    else if startsName c then
      .ok (ofWord (String.ofList (c :: rest.takeWhile continuesName)), rest.dropWhile continuesName)
    else .error .stray

/-! ## A token does not give text back -/

theorem length_of_takeQuoted {quote : Char} {text s after : List Char}
    (h : takeQuoted quote text = some (s, after)) : after.length ≤ text.length := by
  fun_induction takeQuoted quote text generalizing s with
  | case1 => contradiction
  | case2 c rest ih =>
    obtain ⟨⟨s', after'⟩, h', heq⟩ := Option.map_eq_some_iff.1 h
    cases heq
    have := ih h'
    simp only [List.length_cons]
    omega
  | case3 rest => cases h; simp
  | case4 c rest _ _ ih =>
    obtain ⟨⟨s', after'⟩, h', heq⟩ := Option.map_eq_some_iff.1 h
    cases heq
    have := ih h'
    simp only [List.length_cons]
    omega

theorem length_takeFraction (text : List Char) : (takeFraction text).2.length ≤ text.length := by
  unfold takeFraction
  split
  · split
    · have := length_dropWhile_le Char.isDigit ‹_›
      simp only [List.length_cons]
      omega
    · simp
  · simp

theorem length_of_take {c : Char} {rest after : List Char} {token : Token}
    (h : take c rest = .ok (token, after)) : after.length ≤ rest.length := by
  unfold take at h
  split at h
  all_goals first | (cases h; exact Nat.le_refl _) | skip
  all_goals first | (unfold takePair at h; grind) | (unfold takeComparison at h; grind) | skip
  split at h
  · split at h
    · next hq => cases h; exact length_of_takeQuoted hq
    · contradiction
  · split at h
    · cases h
      exact Nat.le_trans (length_takeFraction _) (length_dropWhile_le _ _)
    · split at h
      · cases h; exact length_dropWhile_le _ _
      · contradiction

/-! ## The tokens of a text -/

/-- The tokens of what is left of a text with `total` bytes. -/
def ofCharsFrom (total : Nat) : List Char → Except Fault (List Token)
  | [] => .ok []
  | c :: rest =>
    if isSpace c then ofCharsFrom total rest
    else
      match _h : take c rest with
      | .error .stray => .error (.strayCharacter c (total - byteLength (c :: rest)))
      | .error .unterminated => .error .unterminatedText
      | .ok (token, after) => (ofCharsFrom total after).map (token :: ·)
termination_by text => text.length
decreasing_by
  · simp
  · have := length_of_take _h
    simp only [List.length_cons]
    omega

/-- The tokens of an expression. -/
def ofText (text : String) : Except Fault (List Token) :=
  ofCharsFrom (byteLength text.toList) text.toList

end Token

end SqlTemplate
