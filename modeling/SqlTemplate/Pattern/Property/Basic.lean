import SqlTemplate.Text.Range

/-!
# Properties of characters

A **property** is a set of characters that goes by one or several names. Names are compared
loosely: blanks, hyphens and underscores do not count, nor does case, nor a leading `is`, and
characters beyond U+007F are passed over. `looseName` brings a name into the form in which the
tables have theirs. The tables of properties are those of Unicode 16, the edition that patterns
keep to.
-/

namespace SqlTemplate

/-- A property of characters, the names it goes by and the characters that have it. -/
structure Property where
  names : List String
  ranges : Text.RangeTable

namespace Property

/-- Whether a name begins with `is`. -/
def startsWithIs : List Char → Bool
  | i :: s :: _ => i.toLower == 'i' && s.toLower == 's'
  | _ => false

/-- Whether a character counts in a name. -/
def counts (c : Char) : Bool := c.toNat < 0x80 && c != ' ' && c != '_' && c != '-'

/-- A name without what does not count in it. The name `isc` stays as it is: it is the name of
another property than the category `c`. -/
def looseName (name : List Char) : String :=
  let leading := if startsWithIs name then 2 else 0
  let rest := ((name.drop leading).filter counts).map Char.toLower
  String.ofList (if startsWithIs name && rest == ['c'] then ['i', 's', 'c'] else rest)

/-- The first property with a name. -/
def find? (properties : List Property) (name : String) : Option Property :=
  properties.find? fun property => property.names.contains name

end Property

end SqlTemplate
