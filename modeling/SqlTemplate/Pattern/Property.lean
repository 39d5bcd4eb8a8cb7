import SqlTemplate.Pattern.Property.Age
import SqlTemplate.Pattern.Property.SentenceBreak
import SqlTemplate.Text.Cut

/-!
# Naming properties

A pattern names a property in one of two ways: by a name alone, which is a trait, a category or a
script, or by a kind of property and a value, such as `script=greek`. With `!=` between the kind and
the value, the characters are meant that do not have the property. `Property.read?` reads both and
gives the set of the characters that have the property. `CharSet.word`, `CharSet.digit` and
`CharSet.space` are the sets that have an escape of their own.
-/

namespace SqlTemplate

open Text

namespace Property

/-- The characters that have a property. -/
def chars (property : Property) : CharSet := CharSet.ofRanges property.ranges

/-- The characters with the trait, category or script of a name. -/
def ofName? (name : String) : Option CharSet :=
  (find? (Trait.all ++ Category.all ++ Script.all) name).map chars

/-- The characters for which a kind of property has a value. -/
def ofValue? (kind value : String) : Option CharSet :=
  match kind with
  | "gc" | "generalcategory" => (find? Category.all value).map chars
  | "sc" | "script" => (find? Script.all value).map chars
  | "scx" | "scriptextensions" => (find? Script.all value).map Script.extended
  | "age" => Age.upTo? value
  | "gcb" | "graphemeclusterbreak" => (find? GraphemeBreak.all value).map chars
  | "wb" | "wordbreak" => (find? WordBreak.all value).map chars
  | "sb" | "sentencebreak" => (find? SentenceBreak.all value).map chars
  | _ => none

/-- What stands before the first occurrence of a text in another, and what follows it. -/
def splitAt? (lead : List Char) : List Char → Option (List Char × List Char)
  | [] => none
  | c :: rest =>
    match after? lead (c :: rest) with
    | some after => some ([], after)
    | none => (splitAt? lead rest).map fun (before, after) => (c :: before, after)

/-- A kind and a value, and whether the sign between them says that they differ. -/
def kindAndValue? (text : List Char) : Option (Bool × List Char × List Char) :=
  ((splitAt? ['!', '='] text).map (true, ·)).or <|
    ((splitAt? [':'] text).or (splitAt? ['='] text)).map (false, ·)

/-- The characters with the property that a text names, and whether those without it are meant. -/
def read? (text : List Char) : Option (Bool × CharSet) :=
  match kindAndValue? text with
  | some (differs, kind, value) => (ofValue? (looseName kind) (looseName value)).map (differs, ·)
  | none => (ofName? (looseName text)).map (false, ·)

end Property

namespace CharSet

/-- The decimal digits. -/
def digit : CharSet := ofRanges Category.decimalNumber

/-- White space. -/
def space : CharSet := ofRanges Trait.whiteSpace

/-- The characters of words: letters, marks, decimal digits, connecting punctuation such as the
underscore, and the two characters that control how their neighbours are joined. -/
def word : CharSet :=
  ofRanges
    (Trait.alphabetic ++ Category.mark ++ Category.decimalNumber ++
      Category.connectorPunctuation ++ Trait.joinControl)

end CharSet

end SqlTemplate
