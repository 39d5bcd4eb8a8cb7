import SqlTemplate.Text.Blank
import SqlTemplate.Text.Cut

/-!
# Placeholders

The content of a placeholder describes one parameter of a statement:

    content   = head (':' type)? (',' name '=' value)*
    head      = property | '(' expression ')'

A property goes up to the first comma or colon, an expression to the parenthesis that closes the
first one, a type up to the next comma, a name up to the next equals sign, and a value up to the
next comma. Everything but an expression is taken without the blanks around it, and a comma after
which only blanks follow is allowed.

A placeholder is a list of entries, each a key with a text: the head under `property` or
`expression`, the type under `jdbcType`, then the attributes. A key that comes again keeps its first
place and takes its last text.

`parse` fails with the place of the fault, counted in bytes: the end of the text where it ends too
early, the parenthesis that is never closed, the character that does not belong after a complete
expression, or the place right after the colon of a type that is missing.
-/

namespace SqlTemplate

/-- The parsed content of a placeholder. -/
structure Placeholder where
  entries : List (String × String)
  deriving DecidableEq, Repr

namespace Placeholder

/-- The key of a property. -/
def propertyKey : String := "property"

/-- The key of an expression. -/
def expressionKey : String := "expression"

/-- The key of a type. -/
def typeKey : String := "jdbcType"

/-- Gives a key a text, in the place that the key has or else at the end. -/
def put (key value : String) : List (String × String) → List (String × String)
  | [] => [(key, value)]
  | (k, v) :: rest => if k = key then (k, value) :: rest else (k, v) :: put key value rest

/-- The text of a key. -/
def get? (p : Placeholder) (key : String) : Option String := p.entries.lookup key

/-- The property path, if there is one. -/
def property? (p : Placeholder) : Option String := p.get? propertyKey

/-- The expression between parentheses, if there is one. -/
def expression? (p : Placeholder) : Option String := p.get? expressionKey

/-- The type, if there is one. -/
def type? (p : Placeholder) : Option String := p.get? typeKey

/-! ## Parsing -/

open Text

/-- A text without the blanks around it. -/
def trimmed (text : List Char) : String := String.ofList (trimBlanks text)

/-- The text up to the parenthesis that closes the one before it, and what follows; `depth` more
parentheses are open. -/
def untilClosed (depth : Nat) : List Char → Option (List Char × List Char)
  | [] => none
  | ')' :: rest =>
    match depth with
    | 0 => some ([], rest)
    | depth + 1 => (untilClosed depth rest).map fun (e, after) => (')' :: e, after)
  | '(' :: rest => (untilClosed (depth + 1) rest).map fun (e, after) => ('(' :: e, after)
  | c :: rest => (untilClosed depth rest).map fun (e, after) => (c :: e, after)

/-- Whether a property ends before this character. -/
def endsProperty (c : Char) : Bool := c == ',' || c == ':'

/-- Reads attributes up to the end of the text; fails where one has no equals sign. -/
def attributes? (text : List Char) : Option (List (String × String)) :=
  match _h : text.dropWhile isBlank with
  | [] => some []
  | c :: rest =>
    match _h' : cut (· == '=') (c :: rest) with
    | (_, none) => none
    | (name, some after) =>
      let entry (value : List Char) := (trimmed name, trimmed value)
      match _h'' : cut (· == ',') after with
      | (value, none) => some [entry value]
      | (value, some after') => (attributes? after').map (entry value :: ·)
termination_by text.length
decreasing_by
  have h₁ : (c :: rest).length ≤ text.length := _h ▸ length_dropWhile_le _ _
  have h₂ : after.length < (c :: rest).length := length_of_cut (congrArg Prod.snd _h')
  have h₃ : after'.length < after.length := length_of_cut (congrArg Prod.snd _h'')
  omega

/-- A fault in a placeholder: its place is the end of `text` less the part that is left. -/
def faultBefore (text left : List Char) : Nat := byteLength text - byteLength left

/-- Reads the attributes after a comma and adds them to the entries. -/
def parseAttributes (text : List Char) (entries : List (String × String)) (rest : List Char) :
    Except Nat Placeholder :=
  match attributes? rest with
  | none => .error (byteLength text)
  | some more => .ok ⟨more.foldl (fun entries entry => put entry.1 entry.2 entries) entries⟩

/-- Reads the type after a colon, and the attributes after it. -/
def parseType (text : List Char) (entries : List (String × String)) (rest : List Char) :
    Except Nat Placeholder :=
  let (type, after) := cut (· == ',') (rest.dropWhile isBlank)
  if type.isEmpty then .error (faultBefore text rest)
  else parseAttributes text (put typeKey (trimmed type) entries) (after.getD [])

/-- Reads what may follow a head. -/
def parseTail (text : List Char) (entries : List (String × String)) (rest : List Char) :
    Except Nat Placeholder :=
  match rest.dropWhile isBlank with
  | [] => .ok ⟨entries⟩
  | ':' :: after => parseType text entries after
  | ',' :: after => parseAttributes text entries after
  | stray => .error (faultBefore text stray)

/-- Parses the content of a placeholder, or gives the place of the first fault. -/
def parseChars (text : List Char) : Except Nat Placeholder :=
  match text.dropWhile isBlank with
  | [] => .error (byteLength text)
  | '(' :: rest =>
    match untilClosed 0 rest with
    | none => .error (faultBefore text ('(' :: rest))
    | some (expression, after) =>
      parseTail text [(expressionKey, String.ofList expression)] after
  | body =>
    parseTail text [(propertyKey, trimmed (body.takeWhile (!endsProperty ·)))]
      (body.dropWhile (!endsProperty ·))

/-- Parses the content of a placeholder, or gives the place of the first fault in bytes. -/
def parse (text : String) : Except Nat Placeholder := parseChars text.toList

end Placeholder

end SqlTemplate
