import SqlTemplate.Text.Printable

/-!
# Quoted text

`quote` shows a text inside double quotes in such a way that every character can be seen: a quote
and a backslash are preceded by a backslash, five controls have a letter of their own, and all
other characters that are not printable are given by their code point, as in `\u{a0}`.
-/

namespace SqlTemplate.Text

/-- The written form of one character between double quotes. -/
def escape (c : Char) : List Char :=
  match c with
  | '"' => ['\\', '"']
  | '\\' => ['\\', '\\']
  | '\n' => ['\\', 'n']
  | '\r' => ['\\', 'r']
  | '\t' => ['\\', 't']
  | '\x00' => ['\\', '0']
  | c =>
    if isPrintable c then [c]
    else ['\\', 'u', '\x7b'] ++ Nat.toDigits 16 c.toNat ++ ['\x7d']

/-- A text between double quotes, with all its characters visible. -/
def quote (text : String) : String :=
  String.ofList ('"' :: text.toList.flatMap escape ++ ['"'])

end SqlTemplate.Text
