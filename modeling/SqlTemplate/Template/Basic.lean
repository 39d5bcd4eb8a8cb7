import SqlTemplate.Span

/-!
# Templates

A template is a text, a sequence of templates, or contents that are taken under a condition or once
for each element of a collection. A text is **dynamic** when it has a substitution; any other text
is taken as it stands.
-/

namespace SqlTemplate

/-- What a loop goes through, the names of its variables, and the texts around and between its
iterations. -/
structure Loop where
  collection : String
  item : Option String
  index : Option String
  opening : Option String
  closing : Option String
  separator : Option String
  deriving DecidableEq, Repr

/-- A template. -/
inductive Template where
  | text (text : String)
  | mixed (parts : List Template)
  | condition (test : String) (contents : List Template)
  | loop (loop : Loop) (contents : List Template)

namespace Template

/-- Whether a text has a substitution. -/
def isDynamic (text : String) : Bool := (Markers.substitution.split text).hasSpan

end Template

end SqlTemplate
