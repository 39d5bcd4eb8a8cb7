import SqlTemplate.Text.Blank

/-!
# Verbose patterns

In a **verbose** pattern white space does not count, and a comment goes from a number sign to the
end of the line. `skipped` is what is left of a text once both have been passed over, and
`takeBraced?` gives what stands before a closing brace without them. In a pattern that is not
verbose, every character counts.
-/

namespace SqlTemplate.Pattern

open Text

/-- A text without the white space and the comments at its start; `comment` tells whether the text
starts inside of a comment. -/
def withoutBlanks (comment : Bool) : List Char → List Char
  | [] => []
  | c :: rest =>
    if comment then withoutBlanks (c != '\n') rest
    else if isSpace c then withoutBlanks false rest
    else if c == '#' then withoutBlanks true rest
    else c :: rest

/-- What comes next in a text. -/
def skipped (verbose : Bool) (text : List Char) : List Char :=
  if verbose then withoutBlanks false text else text

/-- What stands before the next closing brace, and what follows the brace. -/
def takeBracedFrom? (verbose comment : Bool) : List Char → Option (List Char × List Char)
  | [] => none
  | c :: rest =>
    if comment then takeBracedFrom? verbose (c != '\n') rest
    else if verbose && isSpace c then takeBracedFrom? verbose false rest
    else if verbose && c == '#' then takeBracedFrom? verbose true rest
    else if c == '\x7d' then some ([], rest)
    else (takeBracedFrom? verbose false rest).map fun (before, after) => (c :: before, after)

/-- What stands before the closing brace of an open one, and what follows the brace. -/
def takeBraced? (verbose : Bool) (text : List Char) : Option (List Char × List Char) :=
  takeBracedFrom? verbose false text

/-- The character that the next one is followed by. In a verbose pattern white space is passed
over, and one number sign with the white space after it. -/
def peek? (verbose : Bool) (text : List Char) : Option Char :=
  if verbose then
    match text.dropWhile isSpace with
    | '#' :: rest => (rest.dropWhile isSpace).head?
    | text => text.head?
  else text.head?

/-! ## Nothing is given back -/

theorem length_withoutBlanks_le (comment : Bool) (text : List Char) :
    (withoutBlanks comment text).length ≤ text.length := by
  fun_induction withoutBlanks comment text <;> grind

theorem length_skipped_le (verbose : Bool) (text : List Char) :
    (skipped verbose text).length ≤ text.length := by
  unfold skipped
  split
  · exact length_withoutBlanks_le false text
  · exact Nat.le_refl _

theorem length_of_takeBracedFrom? {verbose comment : Bool} {text before after : List Char}
    (h : takeBracedFrom? verbose comment text = some (before, after)) :
    after.length < text.length := by
  fun_induction takeBracedFrom? verbose comment text generalizing before <;>
    grind [Option.map_eq_some_iff]

theorem length_of_takeBraced? {verbose : Bool} {text before after : List Char}
    (h : takeBraced? verbose text = some (before, after)) : after.length < text.length :=
  length_of_takeBracedFrom? h

end SqlTemplate.Pattern
