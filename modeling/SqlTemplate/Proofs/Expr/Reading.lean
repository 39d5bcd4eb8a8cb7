import SqlTemplate.Proofs.Expr.Meaning
import SqlTemplate.Proofs.Expr.Nesting

/-!
# Evaluating while parsing

Tokens can be evaluated in one pass, without an expression in between. A `Reading` goes over tokens
and gives a value or a fault. It counts the levels it is inside of: `Reading.nested` goes one level
deeper and comes back, with a value as with a fault, and does not go deeper than `maxNesting`.
Every part of a pass notes the depth at its start and at its end as a `Visit`.

`Steady` says that a pass from a place does what is expected of it and that all its visits are
sound. There is a rule for each way in which passes are put together. What is expected is the
`outcome` of parsing first: the value of the expression, or the first fault of what was complete.
-/

namespace SqlTemplate

open SqlTemplate.Expr (Broken Level Parser maxNesting constant?)
open Token (opening opened)

/-- A part of a pass that has returned: the tokens ahead at its start, and the depth at its start
and at its end. -/
structure Visit where
  ahead : List Token
  before : Nat
  after : Nat

/-- Where a pass stands. -/
structure Gauge where
  ahead : List Token
  depth : Nat
  visits : List Visit

/-- A pass over tokens that gives a value or a fault. -/
abbrev Reading := ExceptT Fault (StateM Gauge)

namespace Reading

/-- Goes on from a place. -/
def runFrom {α : Type} (r : Reading α) (g : Gauge) : Except Fault α × Gauge :=
  StateT.run (ExceptT.run r) g

theorem runFrom_bind {α β : Type} (r : Reading α) (f : α → Reading β) (g : Gauge) :
    (r >>= f).runFrom g =
      match r.runFrom g with
      | (.ok a, g') => (f a).runFrom g'
      | (.error e, g') => (.error e, g') := by
  rw [runFrom, ExceptT.run_bind, StateT.run_bind, runFrom]
  generalize StateT.run r.run g = run
  obtain ⟨_ | a, g'⟩ := run
  · rfl
  · rfl

/-- The tokens ahead. -/
def ahead : Reading (List Token) := do return (← get).ahead

/-- Goes on to these tokens. -/
def goTo (tokens : List Token) : Reading Unit := modify fun g => { g with ahead := tokens }

/-- A value that may be a fault. -/
def ofExcept {α : Type} (x : Except Fault α) : Reading α := ExceptT.mk (pure x)

/-- Goes past a token that has to come next. -/
def expect (close : Token) : Reading Unit := do
  let tokens ← ahead
  if tokens.head? = some close then goTo tokens.tail
  else throw (.unclosed close tokens.head?)

/-- Goes one level deeper, and comes back from there with a value as with a fault. -/
def nested (r : Reading Value) : Reading Value :=
  ExceptT.mk fun g =>
    if maxNesting ≤ g.depth then (.error .nestedTooDeeply, g)
    else
      let (result, g') := r.runFrom { g with depth := g.depth + 1 }
      (result, { g' with depth := g'.depth - 1 })

/-- Notes the depth at the start and at the end. -/
def watched (r : Reading Value) : Reading Value :=
  ExceptT.mk fun g =>
    let (result, g') := r.runFrom g
    (result, { g' with visits := g'.visits ++ [⟨g.ahead, g.depth, g'.depth⟩] })

/-! ## The parts of a pass -/

/-- The passes that are called one level deeper. -/
structure Calls where
  negation : Reading Value
  disjunction : Reading Value

section parts

variable (scope : Scope) (inside : Calls)

/-- The steps that follow a value. -/
def path : Nat → Value → Reading Value
  | 0, v => return v
  | rounds + 1, v => do
    match ← ahead with
    | .dot :: .name n :: rest =>
      goTo rest
      path rounds (← ofExcept (v.property n))
    | .dot :: _ => throw .noPropertyName
    | .openBracket :: rest =>
      goTo rest
      let index ← nested inside.disjunction
      expect .closeBracket
      path rounds (← ofExcept (v.item index))
    | _ => return v

/-- An operand of a comparison. -/
def operand : Reading Value := watched do
  match ← ahead with
  | .int n :: rest =>
    goTo rest
    return .int n
  | .decimal d :: rest =>
    goTo rest
    return .decimal d
  | .text s :: rest =>
    goTo rest
    return .text s
  | .minus :: .int n :: rest =>
    goTo rest
    return .int (-n)
  | .minus :: .decimal d :: rest =>
    goTo rest
    return .decimal d.neg
  | .minus :: rest => throw (.noNumber rest.head?)
  | .openParen :: rest =>
    goTo rest
    let v ← nested inside.disjunction
    expect .closeParen
    return v
  | .name n :: rest =>
    goTo rest
    match constant? n with
    | some v => return v
    | none => watched (path inside rest.length ((scope n).getD .null))
  | tokens => throw (.noOperand tokens.head?)

/-- An operand, or two with a comparison between them. -/
def comparison : Reading Value := watched do
  let left ← operand scope inside
  match ← ahead with
  | .compare c :: rest =>
    goTo rest
    let right ← operand scope inside
    return .bool (← ofExcept (left.compare c right))
  | _ => return left

/-- A comparison, or a negation one level deeper. -/
def negation : Reading Value := watched do
  match ← ahead with
  | .not :: rest =>
    goTo rest
    let v ← nested inside.negation
    return .bool !v.truthy
  | _ => comparison scope inside

/-- The connectives and operands that follow an operand of a chain. -/
def chain (connective : Token) (combine : Bool → Bool → Bool) (link : Reading Value) :
    Nat → Value → Reading Value
  | 0, v => return v
  | rounds + 1, v => do
    match ← ahead with
    | [] => return v
    | token :: rest =>
      if token = connective then
        goTo rest
        let right ← link
        chain connective combine link rounds (.bool (combine v.truthy right.truthy))
      else return v

/-- Negations with `and` between them. -/
def conjunction : Reading Value := watched do
  let v ← negation scope inside
  chain .and and (negation scope inside) (← ahead).length v

/-- Conjunctions with `or` between them. -/
def disjunction : Reading Value := watched do
  let v ← conjunction scope inside
  chain .or or (conjunction scope inside) (← ahead).length v

end parts

/-- The passes that have this many levels inside; `bottom` stands for all below. -/
def calls (scope : Scope) (bottom : Calls) : Nat → Calls
  | 0 => bottom
  | n + 1 => ⟨negation scope (calls scope bottom n), disjunction scope (calls scope bottom n)⟩

/-- Evaluates tokens in one pass. -/
def evaluate (scope : Scope) (bottom : Calls) (tokens : List Token) :
    Except Fault Value × Gauge :=
  let pass : Reading Value := do
    let v ← disjunction scope (calls scope bottom maxNesting)
    match ← ahead with
    | [] => return v
    | token :: _ => throw (.trailing token)
  pass.runFrom ⟨tokens, 0, []⟩

end Reading

/-! ## What is expected -/

namespace Expr

/-- What the tokens that have been parsed come to in a scope, and the tokens left. -/
def outcome (scope : Scope) :
    Except Broken (Expr × List Token) → Except Fault (Value × List Token)
  | .ok (e, rest) => (e.eval scope).map (·, rest)
  | .error b => .error (b.faultIn scope)

/-- The fault of an expression that is complete comes before the one that broke the parse. -/
theorem faultIn_cons (scope : Scope) (e : Expr) (b : Broken) :
    (b.cons e).faultIn scope =
      match e.eval scope with
      | .error fault => fault
      | .ok _ => b.faultIn scope := by
  simp only [Broken.faultIn, Broken.cons, List.forM_eq_forM, List.forM_cons]
  cases e.eval scope with
  | error fault => rfl
  | ok v => rfl

section outcome

variable {scope : Scope} {e : Expr} {v : Value} {f : Fault} {tokens : List Token}

theorem outcome_of_value (h : e.eval scope = .ok v) (rest : List Token) :
    outcome scope (.ok (e, rest)) = .ok (v, rest) := by
  rw [outcome, h]
  rfl

theorem outcome_of_fault (h : e.eval scope = .error f) (rest : List Token) :
    outcome scope (.ok (e, rest)) = .error f := by
  rw [outcome, h]
  rfl

theorem faultIn_cons_of_value (h : e.eval scope = .ok v) (b : Broken) :
    (b.cons e).faultIn scope = b.faultIn scope := by
  rw [faultIn_cons, h]

theorem faultIn_cons_of_fault (h : e.eval scope = .error f) (b : Broken) :
    (b.cons e).faultIn scope = f := by
  rw [faultIn_cons, h]

/-- After a fault in what a path starts from, its steps make no difference. -/
theorem outcome_path_of_fault {inside : Level} (h : e.eval scope = .error f) (rounds : Nat) :
    outcome scope (path inside rounds e tokens) = .error f := by
  induction rounds generalizing e tokens with
  | zero => exact outcome_of_fault h _
  | succ rounds ih =>
    unfold path
    split
    · exact ih (by rw [eval, h]; rfl)
    · exact congrArg Except.error (faultIn_cons_of_fault h ⟨[], _⟩)
    · split
      · next b _ => exact congrArg Except.error (faultIn_cons_of_fault h b)
      · exact ih (by rw [eval, h]; rfl)
      · next index rest _ _ => exact congrArg Except.error (faultIn_cons_of_fault h ⟨[index], _⟩)
    · exact outcome_of_fault h _

/-- After a fault in its first operand, the rest of a chain makes no difference. -/
theorem outcome_chain_of_fault {connective : Token} {join : Expr → Expr → Expr} {link : Parser}
    (hjoin : ∀ a b f, a.eval scope = .error f → (join a b).eval scope = .error f)
    (h : e.eval scope = .error f) (rounds : Nat) :
    outcome scope (chain connective join link rounds e tokens) = .error f := by
  induction rounds generalizing e tokens with
  | zero => exact outcome_of_fault h _
  | succ rounds ih =>
    unfold chain
    split
    · exact outcome_of_fault h _
    · split
      · split
        · next b _ => exact congrArg Except.error (faultIn_cons_of_fault h b)
        · exact ih (hjoin e _ f h)
      · exact outcome_of_fault h _

end outcome

/-! ### By the token that comes next -/

section next

variable {inside : Level} {e i : Expr} {rest rest' : List Token}

theorem path_of_broken {b : Broken} (h : inside.disjunction rest = .error b) (rounds : Nat) :
    path inside (rounds + 1) e (.openBracket :: rest) = .error (b.cons e) := by
  rw [path, h]

theorem path_of_closed (h : inside.disjunction rest = .ok (i, .closeBracket :: rest'))
    (rounds : Nat) :
    path inside (rounds + 1) e (.openBracket :: rest) = path inside rounds (.item e i) rest' := by
  rw [path, h]

theorem path_of_unclosed (h : inside.disjunction rest = .ok (i, rest'))
    (hopen : rest'.head? ≠ some .closeBracket) (rounds : Nat) :
    path inside (rounds + 1) e (.openBracket :: rest) =
      Broken.after [e, i] (.unclosed .closeBracket rest'.head?) := by
  rw [path, h]
  split
  · next heq => cases heq
  · next heq => cases heq; exact absurd rfl hopen
  · next heq => cases heq; rfl

theorem operand_of_broken {b : Broken} (h : inside.disjunction rest = .error b) :
    operand inside (.openParen :: rest) = .error b := by
  rw [operand, h]

theorem operand_of_closed (h : inside.disjunction rest = .ok (i, .closeParen :: rest')) :
    operand inside (.openParen :: rest) = .ok (i, rest') := by
  rw [operand, h]

theorem operand_of_unclosed (h : inside.disjunction rest = .ok (i, rest'))
    (hopen : rest'.head? ≠ some .closeParen) :
    operand inside (.openParen :: rest) =
      Broken.after [i] (.unclosed .closeParen rest'.head?) := by
  rw [operand, h]
  split
  · next heq => cases heq
  · next heq => cases heq; exact absurd rfl hopen
  · next heq => cases heq; rfl

theorem comparison_of_compare {c : Comparison} {tokens : List Token}
    (h : operand inside tokens = .ok (e, .compare c :: rest)) :
    comparison inside tokens =
      match operand inside rest with
      | .error b => .error (b.cons e)
      | .ok (right, rest) => .ok (.compare c e right, rest) := by
  rw [comparison, h]
  rfl

theorem comparison_of_alone {tokens : List Token} (h : operand inside tokens = .ok (e, rest))
    (halone : ∀ c rest', rest ≠ .compare c :: rest') :
    comparison inside tokens = .ok (e, rest) := by
  rw [comparison, h]
  dsimp only [bind, Except.bind]
  split
  · next heq => cases heq; exact absurd rfl (halone _ _)
  · next heq => cases heq; rfl

end next

end Expr

/-! ## Steady passes -/

open SqlTemplate.Expr (outcome)

/-- A part that starts inside as much as the tokens before have left open, and comes back from
there. -/
structure Visit.Sound (tokens : List Token) (v : Visit) : Prop where
  after : v.after = v.before
  limit : v.before ≤ maxNesting
  opened : ∃ taken, tokens = taken ++ v.ahead ∧ v.before = (opened [] taken).length

/-- A pass from a place comes to what is expected, and to the depth of that place. -/
structure Steady (tokens : List Token) (g : Gauge) (run : Except Fault Value × Gauge)
    (expected : Except Fault (Value × List Token)) : Prop where
  result : run.1.map (·, run.2.ahead) = expected
  depth : run.2.depth = g.depth
  visits : ∃ more, run.2.visits = g.visits ++ more ∧ ∀ v ∈ more, v.Sound tokens

/-- The tokens that have been taken have left this open. -/
def At (tokens ahead stack : List Token) : Prop :=
  ∃ taken, tokens = taken ++ ahead ∧ opened [] taken = stack

/-- A place where a part of a pass may start, with `n` levels inside: the depth there is the number
of openings. -/
structure StartsAt (tokens : List Token) (g : Gauge) (stack : List Token) (n : Nat) : Prop where
  place : At tokens g.ahead stack
  depth : g.depth = stack.length
  levels : g.depth + n = maxNesting

namespace At

variable {tokens ahead rest stack : List Token}

theorem take (front : List Token) (h : At tokens (front ++ rest) stack) :
    At tokens rest (opened stack front) := by
  obtain ⟨taken, rfl, rfl⟩ := h
  exact ⟨taken ++ front, by simp, Token.opened_append _ _ _⟩

theorem cons {token : Token} (h : At tokens (token :: rest) stack) :
    At tokens rest (opening stack token) := take [token] h

/-- After a phrase, nothing more is open than negations that it ends in. -/
theorem phrase {k : Category} (h : At tokens ahead stack) (hstarts : k.Starts stack) {p : Phrase k}
    (hp : p.tokens ++ rest = ahead) :
    ∃ m, At tokens rest (Token.inNots m stack) ∧ (k.isClosed → m = 0) := by
  obtain ⟨m, hm, hclosed⟩ := p.exists_opened_tokens stack hstarts
  rw [← hp] at h
  exact ⟨m, hm ▸ h.take p.tokens, hclosed⟩

/-- A closing token ends what has been left open since the opening one. -/
theorem close {first last : Token} {m : Nat}
    (h : At tokens (last :: rest) (Token.inNots m (first :: stack))) (hnot : first ≠ .not)
    (hlast : ∀ s, opening s last = (Token.endNots s).tail) : At tokens rest stack := by
  have hplace := h.cons
  rwa [Token.opening_close hnot hlast] at hplace

end At

namespace Steady

variable {tokens stack rest : List Token} {g : Gauge} {α : Type}
  {expected expected' : Except Fault (Value × List Token)}

/-- The value or fault of a pass. -/
theorem value {run : Except Fault Value × Gauge} {x : Except Fault Value}
    (h : Steady tokens g run (x.map (·, rest))) : run.1 = x := by
  have hresult := h.result
  generalize run.1 = y at hresult
  cases y with
  | error f =>
    cases x with
    | error f' => cases hresult; rfl
    | ok v => cases hresult
  | ok v =>
    cases x with
    | error f => cases hresult
    | ok v' => cases hresult; rfl

theorem pure {v : Value} (h : expected = .ok (v, g.ahead)) :
    Steady tokens g ((Pure.pure v : Reading Value).runFrom g) expected :=
  ⟨h.symm, rfl, [], (List.append_nil _).symm, nofun⟩

theorem throw {f : Fault} (h : expected = .error f) :
    Steady tokens g ((MonadExcept.throw f : Reading Value).runFrom g) expected :=
  ⟨h.symm, rfl, [], (List.append_nil _).symm, nofun⟩

theorem ahead {f : List Token → Reading Value}
    (h : Steady tokens g ((f g.ahead).runFrom g) expected) :
    Steady tokens g ((Reading.ahead >>= f).runFrom g) expected := h

theorem goTo {f : Unit → Reading Value}
    (h : Steady tokens { g with ahead := rest } ((f ()).runFrom { g with ahead := rest })
      expected) : Steady tokens g ((Reading.goTo rest >>= f).runFrom g) expected :=
  ⟨h.result, h.depth, h.visits⟩

theorem ofExcept {x : Except Fault α} {f : α → Reading Value}
    (hfault : ∀ e, x = .error e → expected = .error e)
    (hvalue : ∀ a, x = .ok a → Steady tokens g ((f a).runFrom g) expected) :
    Steady tokens g ((Reading.ofExcept x >>= f).runFrom g) expected := by
  cases x with
  | error e => exact throw (hfault e rfl)
  | ok a => exact hvalue a rfl

theorem expect {close : Token} {f : Unit → Reading Value}
    (hclosed : ∀ rest, g.ahead = close :: rest →
      Steady tokens { g with ahead := rest } ((f ()).runFrom { g with ahead := rest }) expected)
    (hunclosed : g.ahead.head? ≠ some close →
      expected = .error (.unclosed close g.ahead.head?)) :
    Steady tokens g ((Reading.expect close >>= f).runFrom g) expected := by
  rw [Reading.expect, bind_assoc]
  refine .ahead ?_
  split
  · next hclose =>
    obtain ⟨rest, hrest⟩ := List.head?_eq_some_iff.1 hclose
    rw [hrest]
    exact .goTo (hclosed rest hrest)
  · next hclose => exact throw (hunclosed hclose)

theorem bind {r : Reading Value} {f : Value → Reading Value}
    (hr : Steady tokens g (r.runFrom g) expected)
    (hfault : ∀ e, expected = .error e → expected' = .error e)
    (hvalue : ∀ v g', expected = .ok (v, g'.ahead) → g'.depth = g.depth →
      Steady tokens g' ((f v).runFrom g') expected') :
    Steady tokens g ((r >>= f).runFrom g) expected' := by
  obtain ⟨hresult, hdepth, more, hvisits, hsound⟩ := hr
  rw [Reading.runFrom_bind]
  generalize r.runFrom g = run at hresult hdepth hvisits ⊢
  obtain ⟨_ | v, g'⟩ := run
  · exact ⟨(hfault _ hresult.symm).symm, hdepth, more, hvisits, hsound⟩
  · obtain ⟨hresult', hdepth', more', hvisits', hsound'⟩ := hvalue v g' hresult.symm hdepth
    refine ⟨hresult', hdepth'.trans hdepth, more ++ more', ?_, ?_⟩
    · rw [hvisits', hvisits, List.append_assoc]
    · intro v hv
      exact (List.mem_append.1 hv).elim (hsound v) (hsound' v)

/-- The rule for a part of which the outcome of a parser is expected. -/
theorem bindRead {scope : Scope} {result : Except Broken (Expr × List Token)} {r : Reading Value}
    {f : Value → Reading Value} (hr : Steady tokens g (r.runFrom g) (outcome scope result))
    (hbroken : ∀ b, result = .error b → expected = .error (b.faultIn scope))
    (hfault : ∀ e rest fault, result = .ok (e, rest) → e.eval scope = .error fault →
      expected = .error fault)
    (hvalue : ∀ e v g', result = .ok (e, g'.ahead) → e.eval scope = .ok v → g'.depth = g.depth →
      Steady tokens g' ((f v).runFrom g') expected) :
    Steady tokens g ((r >>= f).runFrom g) expected := by
  cases result with
  | error b =>
    refine hr.bind (fun e he => ?_) nofun
    cases he
    exact hbroken b rfl
  | ok parsed =>
    obtain ⟨e, rest⟩ := parsed
    cases heval : e.eval scope with
    | error fault =>
      rw [Expr.outcome_of_fault heval] at hr
      refine hr.bind (fun e' he => ?_) nofun
      cases he
      exact hfault e rest fault rfl heval
    | ok v =>
      rw [Expr.outcome_of_value heval] at hr
      refine hr.bind nofun fun v' g' h hdepth => ?_
      cases h
      exact hvalue e v g' rfl heval hdepth

/-- The level inside is left again on both ways out. -/
theorem nested {r : Reading Value} (hlimit : g.depth ≤ maxNesting)
    (hfull : g.depth = maxNesting → expected = .error .nestedTooDeeply)
    (hr : g.depth < maxNesting →
      Steady tokens { g with depth := g.depth + 1 } (r.runFrom { g with depth := g.depth + 1 })
        expected) :
    Steady tokens g ((Reading.nested r).runFrom g) expected := by
  have hrun : (Reading.nested r).runFrom g =
      if maxNesting ≤ g.depth then (.error .nestedTooDeeply, g)
      else
        let inner := r.runFrom { g with depth := g.depth + 1 }
        (inner.1, { inner.2 with depth := inner.2.depth - 1 }) := rfl
  rw [hrun]
  split
  · next h =>
    exact ⟨(hfull (Nat.le_antisymm hlimit h)).symm, rfl, [], (List.append_nil _).symm, nofun⟩
  · next h =>
    obtain ⟨hresult, hdepth, hvisits⟩ := hr (Nat.lt_of_not_le h)
    exact ⟨hresult, congrArg (· - 1) hdepth, hvisits⟩

theorem watched {r : Reading Value} {n : Nat} (hstart : StartsAt tokens g stack n)
    (hr : Steady tokens g (r.runFrom g) expected) :
    Steady tokens g ((Reading.watched r).runFrom g) expected := by
  obtain ⟨hresult, hdepth, more, hvisits, hsound⟩ := hr
  obtain ⟨⟨taken, htaken, hopened⟩, hstack, hlevels⟩ := hstart
  have hvisit : Visit.Sound tokens ⟨g.ahead, g.depth, (r.runFrom g).2.depth⟩ :=
    ⟨hdepth, hlevels ▸ Nat.le_add_right _ _, taken, htaken, by rw [hopened, ← hstack]⟩
  refine ⟨hresult, hdepth, more ++ [⟨g.ahead, g.depth, (r.runFrom g).2.depth⟩], ?_, ?_⟩
  · change (r.runFrom g).2.visits ++ [⟨g.ahead, g.depth, (r.runFrom g).2.depth⟩] = _
    rw [hvisits, List.append_assoc]
  · intro v hv
    rcases List.mem_append.1 hv with hv | hv
    · exact hsound v hv
    · rw [List.mem_singleton.1 hv]
      exact hvisit

end Steady

end SqlTemplate
