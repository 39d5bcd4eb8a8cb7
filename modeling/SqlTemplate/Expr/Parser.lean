import SqlTemplate.Expr.Basic
import SqlTemplate.Expr.Lexer

/-!
# Parsing and evaluating a text

The grammar of expressions, lowest binding first:

    disjunction = conjunction (or conjunction)*
    conjunction = negation (and negation)*
    negation    = not negation | comparison
    comparison  = operand (sign operand)?
    operand     = number | minus number | text | null | true | false
                | name ('.' name | '[' disjunction ']')*
                | '(' disjunction ')'

Each `not`, `[` and `(` goes one level deeper, and there are `maxNesting` levels.
A parser is built for each level from the parsers of the level below it (`level`). The loops of the
grammar take at least one token in each round, so the number of tokens bounds their rounds.

A text that breaks off with a syntax fault has been evaluated up to that place: `Broken` holds the
expressions that were complete, in order. The first fault among their values is the fault of
the whole text, and only if they have none is it the syntax fault.
-/

namespace SqlTemplate.Expr

/-- A text that breaks off: the expressions completed before, and the syntax fault. -/
structure Broken where
  complete : List Expr
  fault : Fault

namespace Broken

/-- A fault right after these expressions. -/
def after (complete : List Expr) (fault : Fault) : Except Broken α := .error ⟨complete, fault⟩

/-- Puts an expression before the complete ones. -/
def cons (e : Expr) (b : Broken) : Broken := ⟨e :: b.complete, b.fault⟩

/-- The fault of the text in a scope. -/
def faultIn (scope : Scope) (b : Broken) : Fault :=
  match b.complete.forM (m := Except Fault) fun e => do discard (e.eval scope) with
  | .error fault => fault
  | .ok _ => b.fault

end Broken

/-- Takes an expression off the front of the tokens. -/
abbrev Parser := List Token → Except Broken (Expr × List Token)

/-- The parsers that one level of nesting calls for the level inside it. -/
structure Level where
  negation : Parser
  disjunction : Parser

/-- How deep expressions may be nested. -/
def maxNesting : Nat := 128

/-! ## One level of nesting -/

/-- What may follow an expression with a step: `.name` and `[index]`, as often as it goes. -/
def path (inside : Level) (rounds : Nat) (e : Expr) (tokens : List Token) :
    Except Broken (Expr × List Token) :=
  match rounds with
  | 0 => .ok (e, tokens)
  | rounds + 1 =>
    match tokens with
    | .dot :: .name n :: rest => path inside rounds (.property e n) rest
    | .dot :: _ => Broken.after [e] .noPropertyName
    | .openBracket :: rest =>
      match inside.disjunction rest with
      | .error b => .error (b.cons e)
      | .ok (index, .closeBracket :: rest) => path inside rounds (.item e index) rest
      | .ok (index, rest) => Broken.after [e, index] (.unclosed .closeBracket rest.head?)
    | _ => .ok (e, tokens)

/-- The literal that a name stands for, if it is one of the three. -/
def constant? (name : String) : Option Value :=
  if name = "null" then some .null
  else if name = "true" then some (.bool true)
  else if name = "false" then some (.bool false)
  else none

/-- An operand of a comparison. -/
def operand (inside : Level) : Parser
  | .int n :: rest => .ok (.literal (.int n), rest)
  | .decimal d :: rest => .ok (.literal (.decimal d), rest)
  | .text s :: rest => .ok (.literal (.text s), rest)
  | .minus :: .int n :: rest => .ok (.literal (.int (-n)), rest)
  | .minus :: .decimal d :: rest => .ok (.literal (.decimal d.neg), rest)
  | .minus :: rest => Broken.after [] (.noNumber rest.head?)
  | .openParen :: rest =>
    match inside.disjunction rest with
    | .error b => .error b
    | .ok (e, .closeParen :: rest) => .ok (e, rest)
    | .ok (e, rest) => Broken.after [e] (.unclosed .closeParen rest.head?)
  | .name n :: rest =>
    match constant? n with
    | some v => .ok (.literal v, rest)
    | none => path inside rest.length (.name n) rest
  | tokens => Broken.after [] (.noOperand tokens.head?)

/-- An operand, or two with a comparison between them. -/
def comparison (inside : Level) (tokens : List Token) : Except Broken (Expr × List Token) := do
  match ← operand inside tokens with
  | (left, .compare c :: rest) =>
    match operand inside rest with
    | .error b => .error (b.cons left)
    | .ok (right, rest) => .ok (.compare c left right, rest)
  | (e, rest) => .ok (e, rest)

/-- A comparison, or a negation one level deeper. -/
def negation (inside : Level) : Parser
  | .not :: rest => (inside.negation rest).map fun (e, rest) => (.not e, rest)
  | tokens => comparison inside tokens

/-- What may follow an operand of a chain: a connective and another operand, as often as it goes. -/
def chain (connective : Token) (join : Expr → Expr → Expr) (link : Parser) (rounds : Nat)
    (left : Expr) (tokens : List Token) : Except Broken (Expr × List Token) :=
  match rounds with
  | 0 => .ok (left, tokens)
  | rounds + 1 =>
    match tokens with
    | [] => .ok (left, [])
    | token :: rest =>
      if token = connective then
        match link rest with
        | .error b => .error (b.cons left)
        | .ok (right, rest) => chain connective join link rounds (join left right) rest
      else .ok (left, token :: rest)

/-- Negations with `and` between them. -/
def conjunction (inside : Level) (tokens : List Token) : Except Broken (Expr × List Token) := do
  let (e, rest) ← negation inside tokens
  chain .and .and (negation inside) rest.length e rest

/-- Conjunctions with `or` between them. -/
def disjunction (inside : Level) (tokens : List Token) : Except Broken (Expr × List Token) := do
  let (e, rest) ← conjunction inside tokens
  chain .or .or (conjunction inside) rest.length e rest

/-! ## All levels -/

/-- The parsers that have this many levels, their own included. -/
def level : Nat → Level
  | 0 =>
    { negation := fun _ => Broken.after [] .nestedTooDeeply
      disjunction := fun _ => Broken.after [] .nestedTooDeeply }
  | n + 1 =>
    let inside := level n
    { negation := negation inside, disjunction := disjunction inside }

/-- Parses the tokens of an expression. -/
def parse (tokens : List Token) : Except Broken Expr := do
  match ← (level (maxNesting + 1)).disjunction tokens with
  | (e, []) => .ok e
  | (e, token :: _) => Broken.after [e] (.trailing token)

/-- The value of a text as an expression. -/
def evalText (text : String) (scope : Scope) : Except Fault Value := do
  match parse (← Token.ofText text) with
  | .ok e => e.eval scope
  | .error b => .error (b.faultIn scope)

end SqlTemplate.Expr
