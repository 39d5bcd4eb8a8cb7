/-!
# Blanks, spaces and words

Two notions of empty room are told apart. A **blank** is a character up to U+0020, controls
included; placeholders are trimmed of blanks. A **space** is a character with the Unicode property
*White_Space*; expressions skip spaces and SQL text is shortened at them.

`words` cuts a text at its spaces and drops the empty pieces; `collapse` joins the words again with
single spaces.
-/

namespace SqlTemplate.Text

/-- Whether a character is at most U+0020. -/
def isBlank (c : Char) : Bool := c.toNat ≤ 0x20

/-- Whether a character is white space. -/
def isSpace (c : Char) : Bool :=
  let n := c.toNat
  (9 ≤ n && n ≤ 13) || n == 0x20 || n == 0x85 || n == 0xa0 || n == 0x1680 ||
    (0x2000 ≤ n && n ≤ 0x200a) || n == 0x2028 || n == 0x2029 || n == 0x202f || n == 0x205f ||
    n == 0x3000

/-- A text without the blanks at its two ends. -/
def trimBlanks (text : List Char) : List Char :=
  ((text.dropWhile isBlank).reverse.dropWhile isBlank).reverse

/-- A text without the spaces at its start. -/
def trimStart (text : List Char) : List Char := text.dropWhile isSpace

/-- The words of `text`, the first of them continuing `word` (kept in reverse). -/
def wordsFrom (word : List Char) : List Char → List (List Char)
  | [] => if word.isEmpty then [] else [word.reverse]
  | c :: rest =>
    if isSpace c then
      if word.isEmpty then wordsFrom [] rest else word.reverse :: wordsFrom [] rest
    else wordsFrom (c :: word) rest

/-- The pieces of a text between its spaces, without the empty ones. -/
def words (text : List Char) : List (List Char) := wordsFrom [] text

/-- The words of a text joined by single spaces. -/
def collapse (text : List Char) : List Char := [' '].intercalate (words text)

end SqlTemplate.Text
