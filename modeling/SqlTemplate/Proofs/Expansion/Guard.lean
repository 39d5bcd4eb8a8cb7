import SqlTemplate.Proofs.Expr.Lexeme
import SqlTemplate.Proofs.Expr.Meaning
import SqlTemplate.Template.Expand

/-!
# Guards

A connective between two expressions in parentheses evaluates both of them, the left one first.
Where the left one decides the outcome, the right one still has to have a value; what the value is
does not matter.

**Theorem (`guard_evaluates_both`).** Under a guard that decides, the whole has the value of the
guard if the other expression has any, and its fault otherwise. So a condition with a guard that
does not hold is passed over only if the guarded expression has a value, and else it ends the
expansion.
-/

namespace SqlTemplate

/-! ## Expressions in parentheses -/

/-- The two connectives. -/
inductive Connective where
  | and
  | or

namespace Connective

/-- How a connective is written. -/
def word : Connective → String
  | and => "and"
  | or => "or"

/-- What the connective makes of two truth values. -/
def combine : Connective → Bool → Bool → Bool
  | and => Bool.and
  | or => Bool.or

/-- The truth value that decides the outcome when the first operand has it. -/
def decider : Connective → Bool
  | and => false
  | or => true

theorem combine_decider (c : Connective) (holds : Bool) :
    c.combine c.decider holds = c.decider := by
  cases c <;> rfl

/-- Two expressions in parentheses with the connective between them. -/
def join (c : Connective) (a b : String) : String := "(" ++ a ++ ") " ++ c.word ++ " (" ++ b ++ ")"

/-- The phrase of two expressions in parentheses with the connective between them. -/
def phrase (c : Connective) (p q : Phrase .disjunction) : Phrase .disjunction :=
  match c with
  | and => .conjunction (.and (.negation (.comparison (.operand (.enclosed p))))
      (.comparison (.operand (.enclosed q))))
  | or => .or (.alone (.operand (.enclosed p)))
      (.negation (.comparison (.operand (.enclosed q))))

theorem nesting_phrase (c : Connective) (p q : Phrase .disjunction) :
    (c.phrase p q).nesting = max p.nesting q.nesting + 1 := by
  cases c <;> exact Nat.add_max_add_right p.nesting q.nesting 1

theorem tokens_phrase (c : Connective) (p q : Phrase .disjunction) :
    (c.phrase p q).tokens =
      .openParen :: (p.tokens ++ .closeParen :: .ofWord c.word :: .openParen ::
        (q.tokens ++ [.closeParen])) := by
  cases c <;> simp [phrase, Phrase.alone, Phrase.tokens, word, Token.ofWord]

theorem eval_phrase (c : Connective) (p q : Phrase .disjunction) (scope : Scope) :
    (c.phrase p q).toExpr.eval scope = do
      let u ← p.toExpr.eval scope
      let v ← q.toExpr.eval scope
      return .bool (c.combine u.truthy v.truthy) := by
  cases c <;> rfl

end Connective

/-! ## Their texts -/

section join

variable {c : Connective} {a b : String}

/-- The tokens of two expressions in parentheses. -/
theorem Connective.ofText_join {as bs : List Token} (ha : Token.ofText a = .ok as)
    (hb : Token.ofText b = .ok bs) :
    Token.ofText (c.join a b) =
      .ok (.openParen :: (as ++ .closeParen :: .ofWord c.word :: .openParen ::
        (bs ++ [.closeParen]))) := by
  have hword : Token.isIdentifier c.word.toList := by cases c <;> decide +kernel
  have hspace : ∀ rest : List Char, ∀ d ∈ (' ' :: rest).head?, Token.continuesName d = false := by
    rintro rest d ⟨⟩
    decide +kernel
  have hchars : (c.join a b).toList = '(' :: (a.toList ++ ')' :: ' ' ::
      (c.word.toList ++ ' ' :: '(' :: (b.toList ++ ')' :: []))) := by
    simp [join]
  rw [Token.ofText, hchars, Token.ofCharsFrom_enclosed ha, Token.ofCharsFrom_of_space _ (by decide),
    Token.ofCharsFrom_identifier _ hword (hspace _), Token.ofCharsFrom_of_space _ (by decide),
    Token.ofCharsFrom_enclosed hb, Token.ofCharsFrom_nil, String.ofList_toList]
  rfl

namespace Expr

/-- Whether a text is an expression that is nested at most `n` deep. -/
def IsText (n : Nat) (text : String) : Prop :=
  ∃ p : Phrase .disjunction, Token.ofText text = .ok p.tokens ∧ p.nesting ≤ n

/-- **A connective evaluates both its operands**, the left one first. -/
theorem evalText_join (ha : IsText 127 a) (hb : IsText 127 b) (c : Connective) (scope : Scope) :
    evalText (c.join a b) scope = do
      let u ← evalText a scope
      let v ← evalText b scope
      return .bool (c.combine u.truthy v.truthy) := by
  obtain ⟨p, hp, hpn⟩ := ha
  obtain ⟨q, hq, hqn⟩ := hb
  have htokens : Token.ofText (c.join a b) = .ok (c.phrase p q).tokens := by
    rw [c.tokens_phrase, Connective.ofText_join hp hq]
  have hnesting : (c.phrase p q).nesting ≤ maxNesting := by
    rw [c.nesting_phrase]
    exact Nat.succ_le_succ (Nat.max_le.2 ⟨hpn, hqn⟩)
  rw [evalText_of_phrase htokens hnesting, evalText_of_phrase hp (Nat.le_succ_of_le hpn),
    evalText_of_phrase hq (Nat.le_succ_of_le hqn), c.eval_phrase]

/-- Under an operand that decides, the other one matters only by having a value. -/
theorem evalText_join_of_decider (ha : IsText 127 a) (hb : IsText 127 b) {scope : Scope} {u : Value}
    (hu : evalText a scope = .ok u) (hdecides : u.truthy = c.decider) :
    evalText (c.join a b) scope = (evalText b scope).map fun _ => .bool c.decider := by
  rw [evalText_join ha hb, hu]
  cases evalText b scope with
  | error fault => rfl
  | ok v =>
    have hcombine : c.combine u.truthy v.truthy = c.decider := by
      rw [hdecides, c.combine_decider]
    exact congrArg (fun holds => (.ok (.bool holds) : Except Fault Value)) hcombine

end Expr

end join

/-! ## Conditions -/

/-- A condition is asked once, and then its contents are expanded or not. -/
theorem Template.applyTo_expand_condition (s : Settings) (test : String) (contents : List Template)
    (c : Context) :
    ((condition test contents).expand s).applyTo c =
      match s.engine.condition test c.bindings.lookup with
      | .ok true => ((mixed contents).expand s).applyTo c
      | .ok false => (.ok false, c)
      | .error e => (.error e, c) := by
  have hask : (Settings.ask (s.engine.condition test)).applyTo c =
      (s.engine.condition test c.bindings.lookup, c) := by
    rw [Settings.ask, Expansion.applyTo_bind, Expansion.applyTo_get]
    dsimp only
    cases s.engine.condition test c.bindings.lookup <;> rfl
  conv_lhs => rw [expand, Expansion.applyTo_bind, hask]
  cases s.engine.condition test c.bindings.lookup with
  | error e => rfl
  | ok holds => cases holds <;> rfl

theorem Engine.condition_paths (text : String) (scope : Scope) :
    Engine.paths.condition text scope =
      match Expr.evalText text scope with
      | .ok v => .ok v.truthy
      | .error fault => .error (.evaluation ⟨text, fault.message⟩) := by
  rw [Engine.condition, Engine.value, Engine.paths]
  cases Expr.evalText text scope <;> rfl

open SqlTemplate.Expr (evalText IsText)

/-- **A guard does not keep what it guards from being evaluated.** Let two expressions be nested at
most 127 deep, so that in parentheses they are within the limit. If the first decides the outcome
of a connective, the whole has this outcome where the second has a value, and the fault of the
second where it has none. If the first has a fault, the whole has the same. A condition with a guard
that does not hold is passed over where the guarded expression has a value, and otherwise it ends
the expansion with the fault of that expression. -/
theorem guard_evaluates_both {a b : String} (ha : IsText 127 a) (hb : IsText 127 b) :
    (∀ (c : Connective) (scope : Scope),
      (∀ u, evalText a scope = .ok u → u.truthy = c.decider →
        (∀ v, evalText b scope = .ok v → evalText (c.join a b) scope = .ok (.bool c.decider)) ∧
        ∀ fault, evalText b scope = .error fault → evalText (c.join a b) scope = .error fault) ∧
      ∀ fault, evalText a scope = .error fault → evalText (c.join a b) scope = .error fault) ∧
    ∀ filter contents (context : Context) u,
      evalText a context.bindings.lookup = .ok u → u.truthy = false →
      let test := Connective.and.join a b
      let run := ((Template.condition test contents).expand ⟨.paths, filter⟩).applyTo context
      (∀ v, evalText b context.bindings.lookup = .ok v → run = (.ok false, context)) ∧
      ∀ fault, evalText b context.bindings.lookup = .error fault →
        run = (.error (.evaluation ⟨test, fault.message⟩), context) := by
  refine ⟨fun c scope => ⟨fun u hu hdecides => ?_, fun fault hfault => ?_⟩,
    fun filter contents context u hu hfalsy => ?_⟩
  · have hjoin := Expr.evalText_join_of_decider ha hb hu hdecides
    exact ⟨fun v hv => by rw [hjoin, hv]; rfl, fun fault hfault => by rw [hjoin, hfault]; rfl⟩
  · rw [Expr.evalText_join ha hb, hfault]
    rfl
  · have hjoin := Expr.evalText_join_of_decider (c := .and) ha hb hu hfalsy
    dsimp only
    rw [Template.applyTo_expand_condition, Engine.condition_paths, hjoin]
    exact ⟨fun v hv => by rw [hv]; rfl, fun fault hfault => by rw [hfault]; rfl⟩

/-! ## Guards that fail -/

namespace Expr

/-- A name before a property: `x`. -/
def subject : Phrase .path := .name "x" (by decide)

/-- Whether the name is null or not, by the comparison: `x == null`, `x != null`. -/
def nullTest (c : Comparison) : Phrase .disjunction := .alone (.compare c (.path subject) .null)

/-- A test that fails for null: `x.size > 0`. -/
def sizeTest : Phrase .disjunction :=
  .alone (.compare .gt (.path (.property subject "size")) (.int 0))

theorem ofText_notNull : Token.ofText "x != null" = .ok (nullTest .ne).tokens := by decide +kernel

theorem ofText_isNull : Token.ofText "x == null" = .ok (nullTest .eq).tokens := by decide +kernel

theorem ofText_hasSize : Token.ofText "x.size > 0" = .ok sizeTest.tokens := by decide +kernel

end Expr

open SqlTemplate.Expr

/-- A guard before a test of the size. Where the test fails, so does the condition; where it has a
value, the condition is passed over. -/
theorem guard_evaluates_both_before_size :
    let context (x : Value) := Context.ofParameter (.map [("x", x)]) none
    let run (test : String) (x : Value) :=
      ((Template.condition test [.text "!"]).expand ⟨.paths, none⟩).applyTo (context x)
    run "(x != null) and (x.size > 0)" .null =
        (.error (.evaluation ⟨"(x != null) and (x.size > 0)", "cannot order null and int"⟩),
          context .null) ∧
      run "(x == null) and (x.size > 0)" (.text "") = (.ok false, context (.text "")) := by
  intro context run
  have hnotNull : IsText 127 "x != null" := ⟨_, ofText_notNull, Nat.zero_le _⟩
  have hisNull : IsText 127 "x == null" := ⟨_, ofText_isNull, Nat.zero_le _⟩
  have hhasSize : IsText 127 "x.size > 0" := ⟨_, ofText_hasSize, Nat.zero_le _⟩
  have hvalue {text : String} {p : Phrase .disjunction} (h : Token.ofText text = .ok p.tokens)
      (hp : p.nesting ≤ maxNesting) (x : Value) :
      evalText text (context x).bindings.lookup = p.toExpr.eval (context x).bindings.lookup :=
    evalText_of_phrase h hp _
  constructor
  · have hguard := (guard_evaluates_both hnotNull hhasSize).2 none [.text "!"] (context .null)
      (.bool false) (hvalue ofText_notNull (Nat.zero_le _) _) rfl
    exact hguard.2 (.unordered .null .int) (hvalue ofText_hasSize (Nat.zero_le _) _)
  · have hguard := (guard_evaluates_both hisNull hhasSize).2 none [.text "!"] (context (.text ""))
      (.bool false) (hvalue ofText_isNull (Nat.zero_le _) _) rfl
    exact hguard.1 (.bool false) (hvalue ofText_hasSize (Nat.zero_le _) _)

/-! ## Guards at the limit -/

namespace Expr

/-- A phrase in so many parentheses. -/
def enclosedTimes (p : Phrase .disjunction) : Nat → Phrase .disjunction
  | 0 => p
  | n + 1 => .alone (.operand (.enclosed (enclosedTimes p n)))

/-- A text in so many parentheses. -/
def encloseTimes (text : List Char) : Nat → List Char
  | 0 => text
  | n + 1 => '(' :: (encloseTimes text n ++ [')'])

variable {p : Phrase .disjunction} {text : List Char} {total : Nat}

theorem ofCharsFrom_encloseTimes (h : Token.ofCharsFrom total text = .ok p.tokens) (n : Nat) :
    Token.ofCharsFrom total (encloseTimes text n) = .ok (enclosedTimes p n).tokens := by
  induction n with
  | zero => exact h
  | succ n ih =>
    rw [encloseTimes, Token.ofCharsFrom_enclosed ih, Token.ofCharsFrom_nil]
    rfl

theorem nesting_enclosedTimes (p : Phrase .disjunction) (n : Nat) :
    (enclosedTimes p n).nesting = p.nesting + n := by
  induction n with
  | zero => rfl
  | succ n ih => exact congrArg Nat.succ ih

theorem toExpr_enclosedTimes (p : Phrase .disjunction) (n : Nat) :
    (enclosedTimes p n).toExpr = p.toExpr := by
  induction n with
  | zero => rfl
  | succ n ih => exact ih

theorem tokens_enclosedTimes_succ (p : Phrase .disjunction) (n : Nat) (rest : List Token) :
    (enclosedTimes p (n + 1)).tokens ++ rest =
      .openParen :: ((enclosedTimes p n).tokens ++ .closeParen :: rest) := by
  simp [enclosedTimes, Phrase.alone, Phrase.tokens]

/-- As many opening parentheses as there are levels are one too many. -/
theorem disjunction_enclosedTimes (p : Phrase .disjunction) (n : Nat) (rest : List Token) :
    (level n).disjunction ((enclosedTimes p n).tokens ++ rest) =
      .error ⟨[], .nestedTooDeeply⟩ := by
  induction n generalizing rest with
  | zero => rfl
  | succ n ih =>
    -- The first parenthesis takes a level, and the others are one too many for those inside it.
    have hoperand : operand (level n) (.openParen ::
        ((enclosedTimes p n).tokens ++ .closeParen :: rest)) = .error ⟨[], .nestedTooDeeply⟩ := by
      rw [operand, ih]
    rw [tokens_enclosedTimes_succ, level]
    dsimp only
    rw [disjunction, conjunction, negation, comparison, hoperand]
    · rfl
    · rintro rest ⟨⟩

/-- A text in as many parentheses as there may be. -/
def deepest (text : String) : String := String.ofList (encloseTimes text.toList maxNesting)

theorem ofText_deepest {text : String} (h : Token.ofText text = .ok p.tokens) :
    Token.ofText (deepest text) = .ok (enclosedTimes p maxNesting).tokens := by
  rw [Token.ofText, deepest, String.toList_ofList]
  exact ofCharsFrom_encloseTimes (Token.ofCharsFrom_of_ok h _) _

/-- One more pair of parentheses is beyond the limit. -/
theorem evalText_join_deepest {text b : String} {bs : List Token}
    (h : Token.ofText text = .ok p.tokens) (hb : Token.ofText b = .ok bs) (c : Connective)
    (scope : Scope) : evalText (c.join (deepest text) b) scope = .error .nestedTooDeeply := by
  have htokens := c.ofText_join (ofText_deepest h) hb
  have hdeep := disjunction_enclosedTimes p (maxNesting + 1)
    (.ofWord c.word :: .openParen :: (bs ++ [.closeParen]))
  have hparse : parse (.openParen :: ((enclosedTimes p maxNesting).tokens ++ .closeParen ::
      .ofWord c.word :: .openParen :: (bs ++ [.closeParen]))) =
        .error ⟨[], .nestedTooDeeply⟩ := by
    rw [tokens_enclosedTimes_succ] at hdeep
    rw [parse, hdeep]
    rfl
  rw [evalText_of_tokens htokens, evalTokens, hparse]
  rfl

end Expr

/-- **Guards that do not protect.** For a null, the usual guard before a test of the size fails, in
parentheses or not, and so does its counterpart with the other connective; in a condition it ends
the expansion. And a guard at the limit of the nesting is beyond it in parentheses. -/
theorem guard_does_not_protect :
    let context := Context.ofParameter (.map [("x", .null)]) none
    let scope := context.bindings.lookup
    let unordered : Fault := .unordered .null .int
    evalText "x != null" scope = .ok (.bool false) ∧
      evalText "x == null" scope = .ok (.bool true) ∧
      evalText "(x != null) and (x.size > 0)" scope = .error unordered ∧
      evalText "(x == null) or (x.size > 0)" scope = .error unordered ∧
      ((Template.condition "x != null and x.size > 0" [.text "!"]).expand
          ⟨.paths, none⟩).applyTo context =
        (.error (.evaluation ⟨"x != null and x.size > 0", unordered.message⟩), context) ∧
      IsText 128 (deepest "x != null") ∧
      evalText (deepest "x != null") scope = .ok (.bool false) ∧
      evalText (Connective.and.join (deepest "x != null") "x == null") scope =
        .error .nestedTooDeeply := by
  intro context scope unordered
  have hguarded : Token.ofText "x != null and x.size > 0" =
      .ok (Phrase.conjunction (.and (.negation (.comparison (.compare .ne (.path subject) .null)))
        (.comparison (.compare .gt (.path (.property subject "size")) (.int 0))))).tokens := by
    decide +kernel
  have hnotNull : IsText 127 "x != null" := ⟨_, ofText_notNull, Nat.zero_le _⟩
  have hisNull : IsText 127 "x == null" := ⟨_, ofText_isNull, Nat.zero_le _⟩
  have hhasSize : IsText 127 "x.size > 0" := ⟨_, ofText_hasSize, Nat.zero_le _⟩
  have hfalse := evalText_of_phrase ofText_notNull (Nat.zero_le _) scope
  have htrue := evalText_of_phrase ofText_isNull (Nat.zero_le _) scope
  have hfault := evalText_of_phrase ofText_hasSize (Nat.zero_le _) scope
  have hdeepest := ofText_deepest ofText_notNull
  have hnesting : (enclosedTimes (nullTest .ne) maxNesting).nesting = 128 :=
    nesting_enclosedTimes _ _
  refine ⟨hfalse, htrue, ?_, ?_, ?_, ⟨_, hdeepest, hnesting.le⟩, ?_,
    evalText_join_deepest ofText_notNull ofText_isNull _ _⟩
  · exact (evalText_join_of_decider (c := .and) hnotNull hhasSize hfalse rfl).trans
      (congrArg _ hfault)
  · exact (evalText_join_of_decider (c := .or) hisNull hhasSize htrue rfl).trans
      (congrArg _ hfault)
  · rw [Template.applyTo_expand_condition, Engine.condition_paths,
      evalText_of_phrase hguarded (Nat.zero_le _)]
    rfl
  · rw [evalText_of_phrase hdeepest hnesting.le, toExpr_enclosedTimes]
    rfl

end SqlTemplate
