import SqlTemplate.Pattern.CaseFold

/-!
# Flags

**Flags** change the meaning of what follows them in a pattern. They are written as letters between
a parenthesis with a question mark and a colon, which opens a group that they are good for, or a
closing parenthesis, after which they are good for the rest of the group; letters after a hyphen
switch off. `takeFlags?` reads the letters up to the colon or the parenthesis.
-/

namespace SqlTemplate.Pattern

/-- A flag. -/
inductive Flag where
  /-- Case is left aside. -/
  | foldCase
  /-- The start and the end of the text stand for those of a line. -/
  | multiLine
  /-- The dot stands for a line end, too. -/
  | dotAll
  /-- Repetitions are as short as can be; what matches stays the same. -/
  | lazy
  /-- Classes have characters beyond U+007F. -/
  | unicode
  /-- A carriage return ends a line, too. -/
  | returns
  /-- White space and comments do not count. -/
  | verbose
  deriving DecidableEq

/-- The flag of a letter. -/
def Flag.ofLetter? : Char → Option Flag
  | 'i' => some foldCase
  | 'm' => some multiLine
  | 's' => some dotAll
  | 'U' => some lazy
  | 'u' => some unicode
  | 'R' => some returns
  | 'x' => some verbose
  | _ => none

/-- Which flags are on. -/
structure Flags where
  foldCase : Bool := false
  multiLine : Bool := false
  dotAll : Bool := false
  unicode : Bool := true
  returns : Bool := false
  verbose : Bool := false

namespace Flags

/-- Switches a flag. -/
def switch (flags : Flags) : Flag × Bool → Flags
  | (.foldCase, on) => { flags with foldCase := on }
  | (.multiLine, on) => { flags with multiLine := on }
  | (.dotAll, on) => { flags with dotAll := on }
  | (.lazy, _) => flags
  | (.unicode, on) => { flags with unicode := on }
  | (.returns, on) => { flags with returns := on }
  | (.verbose, on) => { flags with verbose := on }

/-- A set of characters, with those that differ only in case where case is left aside. -/
def fold (flags : Flags) (s : CharSet) : CharSet :=
  if !flags.foldCase then s else if flags.unicode then s.foldCase else s.foldAsciiCase

/-- A set or, if it is negated, the characters that are not in it. Only classes that have characters
beyond U+007F can be negated. -/
def negate? (flags : Flags) (negated : Bool) (s : CharSet) : Option CharSet :=
  if !negated then some s else if flags.unicode then some s.complement else none

end Flags

/-- How the letters of flags end. -/
inductive FlagsEnd where
  | colon
  | parenthesis
  deriving DecidableEq

/-- Reads the letters of flags. `on` tells whether they switch on; `dangling` tells whether the last
character was the hyphen, which letters have to follow; `seen` are the flags so far, last first. -/
def takeFlags? (on dangling : Bool) (seen : List (Flag × Bool)) :
    List Char → Option (List (Flag × Bool) × FlagsEnd × List Char)
  | [] => none
  | c :: rest =>
    if c == ':' || c == ')' then
      if dangling then none
      else some (seen.reverse, if c == ':' then .colon else .parenthesis, rest)
    else if c == '-' then if on then takeFlags? false true seen rest else none
    else
      match Flag.ofLetter? c with
      | none => none
      | some flag =>
        if seen.any (·.1 == flag) then none
        else takeFlags? on false ((flag, on) :: seen) rest

theorem length_of_takeFlags? {on dangling : Bool} {seen settings : List (Flag × Bool)}
    {finish : FlagsEnd} {text after : List Char}
    (h : takeFlags? on dangling seen text = some (settings, finish, after)) :
    after.length < text.length := by
  fun_induction takeFlags? on dangling seen text <;> grind

end SqlTemplate.Pattern
