import SqlTemplate.Proofs.Expr.Reading

/-!
# The nesting limit

Evaluating in one pass comes to the same value or fault as parsing first, and the depth of a pass is
at each place the number of negations, parentheses and brackets that are open there
(`Reading.steady_evaluate`).

**Theorem (`nesting_limit_exact`).** Every part of a pass comes back to the depth at which it
started, on both ways out, and no depth is greater than the limit. An expression within the limit
never fails because of its nesting, whatever its length, and one beyond it always fails.

The proof has a lemma for each part, of the form `Reads`, from those of the parts that it calls; the
parts one level deeper are given by induction on the levels (`Reading.inside_calls`). A pass has as
many levels inside it as the limit leaves, so what stands below the last one is never called. The
second half is about phrases: `Phrase.peak_tokens` and `Phrase.overrun`, and that the fault of an
expression that has been parsed is never one of nesting.
-/

namespace SqlTemplate

open SqlTemplate.Expr (Broken Parser Yields level maxNesting constant? outcome)
open Token (opening opened peak)

/-! ## The parts of a pass -/

namespace Reading

/-- With `n` levels inside, a pass comes to what parsing with `q` and then evaluating comes to. -/
def Reads (scope : Scope) (k : Category) (n : Nat) (q : Parser) (r : Reading Value) : Prop :=
  ∀ tokens stack g, StartsAt tokens g stack n → k.Starts stack →
    Steady tokens g (r.runFrom g) (outcome scope (q g.ahead))

/-- The passes one level deeper read what they should, where there is a level. -/
def Inside (scope : Scope) (n : Nat) (inside : Calls) : Prop :=
  ∀ m, n = m + 1 → Reads scope .disjunction m (level n).disjunction inside.disjunction ∧
    Reads scope .negation m (level n).negation inside.negation

variable {scope : Scope} {n : Nat} {inside : Calls} {tokens stack rest : List Token} {g : Gauge}

/-- A part one level deeper, where there is a level; else the pass is nested too deeply. -/
theorem steady_nested {k : Category} {q : Parser} {r : Reading Value} {first : Token}
    (hr : ∀ m, n = m + 1 → Reads scope k m q r)
    (hnone : n = 0 → ∀ ahead, q ahead = Broken.after [] .nestedTooDeeply)
    (hstarts : k.Starts (first :: stack)) (hplace : At tokens g.ahead (first :: stack))
    (hdepth : g.depth = stack.length) (hlevels : g.depth + n = maxNesting) :
    Steady tokens g ((nested r).runFrom g) (outcome scope (q g.ahead)) := by
  refine .nested (by omega) (fun hfull => ?_) fun hfree => ?_
  · rw [hnone (by omega)]
    rfl
  · obtain ⟨m, rfl⟩ : ∃ m, n = m + 1 := ⟨n - 1, by omega⟩
    refine hr m rfl tokens (first :: stack) _ ⟨hplace, ?_, ?_⟩ hstarts
    · simp [hdepth]
    · change g.depth + 1 + m = maxNesting
      omega

theorem Inside.disjunction (hinside : Inside scope n inside) (first : Token) (hfirst : first ≠ .not)
    (hplace : At tokens g.ahead (first :: stack)) (hdepth : g.depth = stack.length)
    (hlevels : g.depth + n = maxNesting) :
    Steady tokens g ((nested inside.disjunction).runFrom g)
      (outcome scope ((level n).disjunction g.ahead)) :=
  steady_nested (fun m hm => (hinside m hm).1) (fun hn _ => by subst hn; rfl)
    (Category.starts_inside first stack hfirst) hplace hdepth hlevels

theorem Inside.negation (hinside : Inside scope n inside)
    (hplace : At tokens g.ahead (.not :: stack)) (hdepth : g.depth = stack.length)
    (hlevels : g.depth + n = maxNesting) :
    Steady tokens g ((nested inside.negation).runFrom g)
      (outcome scope ((level n).negation g.ahead)) :=
  steady_nested (fun m hm => (hinside m hm).2) (fun hn _ => by subst hn; rfl) trivial hplace
    hdepth hlevels

/-- An expression one level deeper with the token that closes it. -/
theorem steady_enclosed (first close : Token) {f : Value → Reading Value}
    {expected : Except Fault (Value × List Token)} (hinside : Inside scope n inside)
    (hfirst : first ≠ .not) (hclose : ∀ s, opening s close = (Token.endNots s).tail)
    (hplace : At tokens g.ahead (first :: stack)) (hdepth : g.depth = stack.length)
    (hlevels : g.depth + n = maxNesting)
    (hbroken : ∀ b, (level n).disjunction g.ahead = .error b →
      expected = .error (b.faultIn scope))
    (hfault : ∀ i rest fault, (level n).disjunction g.ahead = .ok (i, rest) →
      i.eval scope = .error fault → expected = .error fault)
    (hunclosed : ∀ i w rest, (level n).disjunction g.ahead = .ok (i, rest) →
      i.eval scope = .ok w → rest.head? ≠ some close →
      expected = .error (.unclosed close rest.head?))
    (hvalue : ∀ i w g', (level n).disjunction g.ahead = .ok (i, close :: g'.ahead) →
      i.eval scope = .ok w → StartsAt tokens g' stack n →
      Steady tokens g' ((f w).runFrom g') expected) :
    Steady tokens g
      ((nested inside.disjunction >>= fun w => expect close >>= fun _ => f w).runFrom g)
      expected := by
  refine .bindRead (hinside.disjunction first hfirst hplace hdepth hlevels) hbroken hfault ?_
  intro i w g' hi hw hdepth'
  obtain ⟨p, -, -, hp⟩ := (Expr.yields_level n).1 _ _ _ hi
  obtain ⟨m, hplace', -⟩ := hplace.phrase (Category.starts_inside first stack hfirst) hp
  refine .expect (fun rest hrest => ?_) (hunclosed i w g'.ahead hi hw)
  rw [hrest] at hi hplace'
  exact hvalue i w { g' with ahead := rest } hi hw
    ⟨hplace'.close hfirst hclose, hdepth'.trans hdepth, by rw [← hlevels, ← hdepth']⟩

/-- The steps from a value. What has been taken of the path is complete, so its faults come before
those of what follows. -/
theorem steady_path (hinside : Inside scope n inside) (rounds : Nat) (e : Expr) (v : Value)
    (hstart : StartsAt tokens g stack n) (hv : e.eval scope = .ok v) :
    Steady tokens g ((path inside rounds v).runFrom g)
      (outcome scope (Expr.path (level n) rounds e g.ahead)) := by
  induction rounds generalizing e v g with
  | zero => exact .pure (Expr.outcome_of_value hv _)
  | succ rounds ih =>
    obtain ⟨hplace, hdepth, hlevels⟩ := hstart
    rw [path]
    refine .ahead ?_
    split
    · next name rest hahead =>
      rw [hahead] at hplace ⊢
      refine .goTo (.ofExcept (fun fault hfault => ?_) fun u hu => ?_)
      · exact Expr.outcome_path_of_fault (by rw [Expr.eval, hv]; exact hfault) rounds
      · exact ih (.property e name) u ⟨hplace.cons.cons, hdepth, hlevels⟩
          (by rw [Expr.eval, hv]; exact hu)
    · next rest hrest hahead =>
      rw [hahead, Expr.path]
      · exact .throw (congrArg Except.error (Expr.faultIn_cons_of_value hv ⟨[], _⟩))
      · exact hrest
    · next rest hahead =>
      rw [hahead] at hplace ⊢
      have hitem (i : Expr) : (Expr.item e i).eval scope = i.eval scope >>= v.item := by
        rw [Expr.eval, hv]
        rfl
      refine .goTo (steady_enclosed .openBracket .closeBracket hinside (by simp) (fun _ => rfl)
        hplace.cons hdepth hlevels ?_ ?_ ?_ ?_)
      · intro b hb
        rw [Expr.path_of_broken hb]
        exact congrArg Except.error (Expr.faultIn_cons_of_value hv b)
      · intro i rest' fault hi hfault
        by_cases hclosed : rest'.head? = some .closeBracket
        · obtain ⟨rest', rfl⟩ := List.head?_eq_some_iff.1 hclosed
          rw [Expr.path_of_closed hi]
          exact Expr.outcome_path_of_fault (by rw [hitem, hfault]; rfl) rounds
        · rw [Expr.path_of_unclosed hi hclosed]
          exact congrArg Except.error ((Expr.faultIn_cons_of_value hv ⟨[i], _⟩).trans
            (Expr.faultIn_cons_of_fault hfault ⟨[], _⟩))
      · intro i w rest' hi hw hopen
        rw [Expr.path_of_unclosed hi hopen]
        exact congrArg Except.error ((Expr.faultIn_cons_of_value hv ⟨[i], _⟩).trans
          (Expr.faultIn_cons_of_value hw ⟨[], _⟩))
      · intro i w g' hi hw hstart'
        rw [Expr.path_of_closed hi]
        refine .ofExcept (fun fault hfault => ?_) fun u hu => ?_
        · exact Expr.outcome_path_of_fault (by rw [hitem, hw]; exact hfault) rounds
        · exact ih (.item e i) u hstart' (by rw [hitem, hw]; exact hu)
    · next hproperty hdot hbracket =>
      unfold Expr.path
      split
      · next heq => exact absurd heq (hproperty _ _)
      · next heq => exact absurd heq (hdot _)
      · next heq => exact absurd heq (hbracket _)
      · exact .pure (Expr.outcome_of_value hv _)

theorem steady_operand (hinside : Inside scope n inside) :
    Reads scope .operand n (Expr.operand (level n)) (operand scope inside) := by
  intro tokens stack g hstart hstarts
  refine .watched hstart ?_
  obtain ⟨hplace, hdepth, hlevels⟩ := hstart
  refine .ahead ?_
  split
  · next hahead => rw [hahead]; exact .goTo (.pure rfl)
  · next hahead => rw [hahead]; exact .goTo (.pure rfl)
  · next hahead => rw [hahead]; exact .goTo (.pure rfl)
  · next hahead => rw [hahead]; exact .goTo (.pure rfl)
  · next hahead => rw [hahead]; exact .goTo (.pure rfl)
  · next rest hint hdecimal hahead =>
    rw [hahead, Expr.operand]
    · exact .throw rfl
    · exact hint
    · exact hdecimal
  · next rest hahead =>
    rw [hahead] at hplace ⊢
    refine .goTo (steady_enclosed .openParen .closeParen hinside (by simp) (fun _ => rfl)
      hplace.cons hdepth hlevels ?_ ?_ ?_ ?_)
    · intro b hb
      rw [Expr.operand_of_broken hb]
      rfl
    · intro i rest' fault hi hfault
      by_cases hclosed : rest'.head? = some .closeParen
      · obtain ⟨rest', rfl⟩ := List.head?_eq_some_iff.1 hclosed
        rw [Expr.operand_of_closed hi]
        exact Expr.outcome_of_fault hfault _
      · rw [Expr.operand_of_unclosed hi hclosed]
        exact congrArg Except.error (Expr.faultIn_cons_of_fault hfault ⟨[], _⟩)
    · intro i w rest' hi hw hopen
      rw [Expr.operand_of_unclosed hi hopen]
      exact congrArg Except.error (Expr.faultIn_cons_of_value hw ⟨[], _⟩)
    · intro i w g' hi hw hstart'
      rw [Expr.operand_of_closed hi]
      exact .pure (Expr.outcome_of_value hw _)
  · next name rest hahead =>
    rw [hahead] at hplace ⊢
    refine .goTo ?_
    rw [Expr.operand]
    cases hconstant : constant? name with
    | some v => exact .pure rfl
    | none =>
      have hrest : StartsAt tokens { g with ahead := rest } stack n :=
        ⟨hplace.cons, hdepth, hlevels⟩
      exact .watched hrest (steady_path hinside rest.length (.name name) _ hrest rfl)
  · rw [Expr.operand]
    · exact .throw rfl
    all_goals assumption

theorem steady_comparison (hinside : Inside scope n inside) :
    Reads scope .comparison n (Expr.comparison (level n)) (comparison scope inside) := by
  intro tokens stack g hstart hstarts
  refine .watched hstart ?_
  refine .bindRead (steady_operand hinside tokens stack g hstart trivial) ?_ ?_ ?_
  · intro b hb
    rw [Expr.comparison, hb]
    rfl
  · intro e rest fault he hfault
    by_cases hnext : ∃ c rest', rest = .compare c :: rest'
    · obtain ⟨c, rest', rfl⟩ := hnext
      rw [Expr.comparison_of_compare he]
      split
      · next b _ => exact congrArg Except.error (Expr.faultIn_cons_of_fault hfault b)
      · exact Expr.outcome_of_fault (by rw [Expr.eval, hfault]; rfl) _
    · rw [Expr.comparison_of_alone he fun c rest' h => hnext ⟨c, rest', h⟩]
      exact Expr.outcome_of_fault hfault _
  · intro e v g' he hv hdepth'
    refine .ahead ?_
    split
    · next c rest hahead =>
      rw [hahead] at he
      obtain ⟨p, -, -, hp⟩ := Expr.yields_operand (Expr.yields_level n).1 _ _ _ he
      obtain ⟨m, hplace, hclosed⟩ := hstart.place.phrase (k := .operand) trivial hp
      obtain rfl := hclosed rfl
      have hstart' : StartsAt tokens { g' with ahead := rest } stack n :=
        ⟨hplace.cons, hdepth'.trans hstart.depth, by rw [← hstart.levels, ← hdepth']⟩
      have hcompare (right : Expr) : (Expr.compare c e right).eval scope =
          right.eval scope >>= fun w => (v.compare c w).map .bool := by
        rw [Expr.eval, hv]
        rfl
      rw [Expr.comparison_of_compare he]
      refine .goTo (.bindRead (steady_operand hinside tokens stack _ hstart' trivial) ?_ ?_ ?_)
      · intro b hb
        rw [hb]
        exact congrArg Except.error (Expr.faultIn_cons_of_value hv b)
      · intro right rest' fault hright hfault
        rw [hright]
        exact Expr.outcome_of_fault (by rw [hcompare, hfault]; rfl) _
      · intro right w g'' hright hw hdepth''
        rw [hright]
        have hresult : (Expr.compare c e right).eval scope = (v.compare c w).map .bool := by
          rw [hcompare, hw]
          rfl
        refine .ofExcept (fun fault hfault => ?_) fun holds hholds => .pure ?_
        · exact Expr.outcome_of_fault (by rw [hresult, hfault]; rfl) _
        · exact Expr.outcome_of_value (by rw [hresult, hholds]; rfl) _
    · next halone =>
      rw [Expr.comparison_of_alone he halone]
      exact .pure (Expr.outcome_of_value hv _)

theorem steady_negation (hinside : Inside scope n inside) :
    Reads scope .negation n (Expr.negation (level n)) (negation scope inside) := by
  intro tokens stack g hstart hstarts
  refine .watched hstart ?_
  obtain ⟨hplace, hdepth, hlevels⟩ := hstart
  refine .ahead ?_
  split
  · next rest hahead =>
    rw [hahead] at hplace ⊢
    refine .goTo (.bindRead (hinside.negation hplace.cons hdepth hlevels) ?_ ?_ ?_)
    · intro b hb
      rw [Expr.negation, hb]
      rfl
    · intro e rest' fault he hfault
      rw [Expr.negation, he]
      exact Expr.outcome_of_fault (by rw [Expr.eval, hfault]; rfl) _
    · intro e v g' he hv hdepth'
      rw [Expr.negation, he]
      exact .pure (Expr.outcome_of_value (by rw [Expr.eval, hv]; rfl) _)
  · next hnot =>
    rw [Expr.negation]
    · exact steady_comparison hinside tokens stack g ⟨hplace, hdepth, hlevels⟩ trivial
    · exact hnot

/-- The rest of a chain. Each link starts where the connective has ended the negations of the link
before it. -/
theorem steady_chain {k : Category} {connective : Token} {join : Expr → Expr → Expr}
    {combine : Bool → Bool → Bool} {q : Parser} {link : Reading Value} {l : Nat}
    (hlink : Reads scope k n q link) (hyields : Yields l k q) (hstarts : k.Starts stack)
    (hend : ∀ m, opening (Token.inNots m stack) connective = stack)
    (hjoin : ∀ a b, (join a b).eval scope = do
      let u ← a.eval scope
      let v ← b.eval scope
      return .bool (combine u.truthy v.truthy))
    (rounds m : Nat) (e : Expr) (v : Value) (hplace : At tokens g.ahead (Token.inNots m stack))
    (hdepth : g.depth = stack.length) (hlevels : g.depth + n = maxNesting)
    (hv : e.eval scope = .ok v) :
    Steady tokens g ((chain connective combine link rounds v).runFrom g)
      (outcome scope (Expr.chain connective join q rounds e g.ahead)) := by
  induction rounds generalizing e v g m with
  | zero => exact .pure (Expr.outcome_of_value hv _)
  | succ rounds ih =>
    rw [chain]
    refine .ahead ?_
    split
    · next hahead =>
      rw [hahead]
      exact .pure (by rw [hahead]; exact Expr.outcome_of_value hv [])
    · next token rest hahead =>
      rw [hahead] at hplace ⊢
      rw [Expr.chain]
      split
      · next hconnective =>
        subst hconnective
        have hplace' : At tokens rest stack := hend m ▸ hplace.cons
        refine .goTo (.bindRead (hlink tokens stack _ ⟨hplace', hdepth, hlevels⟩ hstarts) ?_ ?_ ?_)
        · intro b hb
          rw [hb]
          exact congrArg Except.error (Expr.faultIn_cons_of_value hv b)
        · intro right rest' fault hright hfault
          rw [hright]
          exact Expr.outcome_chain_of_fault (fun a b f h => by rw [hjoin, h]; rfl)
            (by rw [hjoin, hv, hfault]; rfl) rounds
        · intro right w g' hright hw hdepth'
          obtain ⟨p, -, -, hp⟩ := hyields _ _ _ hright
          obtain ⟨m', hplace'', -⟩ := hplace'.phrase hstarts hp
          rw [hright]
          exact ih m' (join e right) _ hplace'' (hdepth'.trans hdepth)
            (by rw [← hlevels, ← hdepth']) (by rw [hjoin, hv, hw]; rfl)
      · exact .pure (by rw [hahead]; exact Expr.outcome_of_value hv _)

/-- A first operand and the rest of its chain. -/
theorem steady_links {k : Category} {connective : Token} {join : Expr → Expr → Expr}
    {combine : Bool → Bool → Bool} {q : Parser} {link : Reading Value} {l : Nat}
    (hlink : Reads scope k n q link) (hyields : Yields l k q) (hstarts : k.Starts stack)
    (hend : ∀ m, opening (Token.inNots m stack) connective = stack)
    (hjoin : ∀ a b, (join a b).eval scope = do
      let u ← a.eval scope
      let v ← b.eval scope
      return .bool (combine u.truthy v.truthy))
    (hstart : StartsAt tokens g stack n) :
    Steady tokens g
      ((link >>= fun v => ahead >>= fun rest =>
        chain connective combine link rest.length v).runFrom g)
      (outcome scope (q g.ahead >>= fun (e, rest) =>
        Expr.chain connective join q rest.length e rest)) := by
  refine .bindRead (hlink tokens stack g hstart hstarts) ?_ ?_ ?_
  · intro b hb
    rw [hb]
    rfl
  · intro e rest fault he hfault
    rw [he]
    exact Expr.outcome_chain_of_fault (fun a b f h => by rw [hjoin, h]; rfl) hfault _
  · intro e v g' he hv hdepth'
    obtain ⟨p, -, -, hp⟩ := hyields _ _ _ he
    obtain ⟨m, hplace, -⟩ := hstart.place.phrase hstarts hp
    rw [he]
    exact .ahead (steady_chain hlink hyields hstarts hend hjoin _ m e v hplace
      (hdepth'.trans hstart.depth) (by rw [← hstart.levels, ← hdepth']) hv)

theorem steady_conjunction (hinside : Inside scope n inside) :
    Reads scope .conjunction n (Expr.conjunction (level n)) (conjunction scope inside) :=
  fun _ _ _ hstart hstarts => .watched hstart
    (steady_links (steady_negation hinside)
      (Expr.yields_negation (Expr.yields_level n).1 (Expr.yields_level n).2) trivial
      (Token.opening_and hstarts) (fun _ _ => rfl) hstart)

theorem steady_disjunction (hinside : Inside scope n inside) :
    Reads scope .disjunction n (Expr.disjunction (level n)) (disjunction scope inside) :=
  fun _ _ _ hstart hstarts => .watched hstart
    (steady_links (steady_conjunction hinside)
      (Expr.yields_conjunction (Expr.yields_level n).1 (Expr.yields_level n).2) hstarts
      (Token.opening_or hstarts) (fun _ _ => rfl) hstart)

/-- By induction on the levels: what a level calls does what the parsers of the level do. -/
theorem inside_calls (scope : Scope) (bottom : Calls) (n : Nat) :
    Inside scope n (calls scope bottom n) := by
  induction n with
  | zero => exact nofun
  | succ n ih =>
    intro m hm
    cases hm
    exact ⟨steady_disjunction ih, steady_negation ih⟩

/-- A whole pass comes to the value or fault of the tokens, and all its visits are sound. -/
theorem steady_evaluate (scope : Scope) (bottom : Calls) (tokens : List Token) :
    Steady tokens ⟨tokens, 0, []⟩ (evaluate scope bottom tokens)
      ((Expr.evalTokens tokens scope).map (·, [])) := by
  have hstart : StartsAt tokens ⟨tokens, 0, []⟩ [] maxNesting :=
    ⟨⟨[], rfl, rfl⟩, rfl, Nat.zero_add _⟩
  have hlevel : (level (maxNesting + 1)).disjunction tokens =
      Expr.disjunction (level maxNesting) tokens := rfl
  refine .bindRead (steady_disjunction (inside_calls scope bottom maxNesting) tokens [] _ hstart
    (by simp [Category.Starts])) ?_ ?_ ?_
  · intro b hb
    rw [Expr.evalTokens, Expr.parse, hlevel, hb]
    rfl
  · intro e rest fault he hfault
    rw [Expr.evalTokens, Expr.parse, hlevel, he]
    cases rest with
    | nil => exact congrArg (Except.map _) hfault
    | cons token rest => exact congrArg Except.error (Expr.faultIn_cons_of_fault hfault ⟨[], _⟩)
  · intro e v g he hv hdepth
    rw [Expr.evalTokens, Expr.parse, hlevel, he]
    refine .ahead ?_
    split
    · next hahead =>
      rw [hahead]
      refine .pure ?_
      rw [hahead]
      exact congrArg (Except.map _) hv
    · next token rest hahead =>
      rw [hahead]
      exact .throw (congrArg Except.error (Expr.faultIn_cons_of_value hv ⟨[], _⟩))

end Reading

/-! ## Faults -/

namespace Fault

/-- The words that messages start with. -/
def leads : List String := ["unexpected ", "unterminated", "expected ", "cannot ", "no property "]

theorem prefix_append {lead text : String} (h : lead.toList <+: text.toList) (more : String) :
    lead.toList <+: (text ++ more).toList := by
  rw [String.toList_append]
  exact h.trans (List.prefix_append _ _)

theorem exists_lead {f : Fault} (h : f ≠ nestedTooDeeply) :
    ∃ lead ∈ leads, lead.toList <+: f.message.toList := by
  cases f with
  | nestedTooDeeply => exact absurd rfl h
  | unterminatedText => exact ⟨"unterminated", by decide, by decide⟩
  | noPropertyName => exact ⟨"expected ", by decide, by decide⟩
  | noOperand => exact ⟨"unexpected ", by decide, prefix_append (by decide) _⟩
  | trailing => exact ⟨"unexpected ", by decide, prefix_append (prefix_append (by decide) _) _⟩
  | noNumber => exact ⟨"expected ", by decide, prefix_append (by decide) _⟩
  | strayCharacter =>
    exact ⟨"unexpected ", by decide,
      prefix_append (prefix_append (prefix_append (by decide) _) _) _⟩
  | unclosed =>
    exact ⟨"expected ", by decide,
      prefix_append (prefix_append (prefix_append (by decide) _) _) _⟩
  | unordered | noIndex =>
    exact ⟨"cannot ", by decide, prefix_append (prefix_append (prefix_append (by decide) _) _) _⟩
  | noProperty =>
    exact ⟨"no property ", by decide,
      prefix_append (prefix_append (prefix_append (prefix_append (by decide) _) _) _) _⟩

/-- Only one fault has this message. -/
theorem message_eq_iff {f : Fault} :
    f.message = "expression nested too deeply" ↔ f = nestedTooDeeply := by
  constructor
  · intro h
    by_contra hne
    obtain ⟨lead, hmem, hlead⟩ := exists_lead hne
    rw [h] at hlead
    have hleads : ∀ lead ∈ leads, ¬ lead.toList <+: "expression nested too deeply".toList := by
      decide
    exact hleads lead hmem hlead
  · rintro rfl
    rfl

end Fault

/-- No expression has a fault because of its nesting once it has been parsed. -/
theorem Expr.eval_ne_nestedTooDeeply (scope : Scope) (e : Expr) :
    e.eval scope ≠ .error .nestedTooDeeply := by
  have hproperty (v : Value) (name : String) : v.property name ≠ .error .nestedTooDeeply := by
    unfold Value.property
    split
    · exact nofun
    · split <;> exact nofun
    · split
      · split <;> exact nofun
      · exact nofun
  have hitem (v w : Value) : v.item w ≠ .error .nestedTooDeeply := by
    unfold Value.item
    split <;> exact nofun
  have hcompare (c : Comparison) (v w : Value) : v.compare c w ≠ .error .nestedTooDeeply := by
    unfold Value.compare
    dsimp only
    cases Value.compare? v w with
    | none => cases c <;> exact nofun
    | some order => cases c <;> exact nofun
  induction e with
  | literal | name => exact nofun
  | property e name ih => exact bind_ne_error ih fun v => hproperty v name
  | item e index ihe ihindex =>
    exact bind_ne_error ihe fun v => bind_ne_error ihindex fun w => hitem v w
  | compare c left right ihleft ihright =>
    exact bind_ne_error ihleft fun v => bind_ne_error ihright fun w =>
      bind_ne_error (hcompare c v w) nofun
  | not e ih => exact bind_ne_error ih nofun
  | and left right ihleft ihright | or left right ihleft ihright =>
    exact bind_ne_error ihleft fun v => bind_ne_error ihright nofun

/-! ## The limit -/

open Reading (Calls evaluate)

/-- **The nesting limit is exact, and depth does not accumulate.** Evaluate any tokens in one pass,
with a counter for the depth. Each part of the pass that returns, with a value or with a fault,
leaves the counter as it was at its start. There it is the number of negations, parentheses and
brackets that the tokens before have left open, and at most 128. The pass comes to the value or the
fault of the tokens, and its counter to 0. What could be called below a depth of 128 makes no
difference.

The nesting of a phrase is the most that its tokens have open at once. Up to 128 the phrase parses,
and no fault of its value is one of nesting, however much stands side by side. Beyond 128 it does
not parse because of its nesting, and has no value. -/
theorem nesting_limit_exact :
    (∀ (scope : Scope) (bottom : Calls) (tokens : List Token),
      let pass := evaluate scope bottom tokens
      pass.1 = Expr.evalTokens tokens scope ∧ pass.2.depth = 0 ∧
      ∀ v ∈ pass.2.visits, v.after = v.before ∧ v.before ≤ 128 ∧
        ∃ taken, tokens = taken ++ v.ahead ∧ v.before = (opened [] taken).length) ∧
    ∀ p : Phrase .disjunction,
      p.nesting = peak [] p.tokens ∧
      (p.nesting ≤ 128 → (∃ e, Expr.parse p.tokens = .ok e) ∧
        ∀ scope f, Expr.evalTokens p.tokens scope = .error f →
          f.message ≠ "expression nested too deeply") ∧
      (128 < p.nesting →
        (∃ complete, Expr.parse p.tokens = .error ⟨complete, .nestedTooDeeply⟩) ∧
        ∀ scope, ∃ f, Expr.evalTokens p.tokens scope = .error f) := by
  refine ⟨fun scope bottom tokens => ?_, fun p => ⟨?_, fun hp => ?_, fun hp => ?_⟩⟩
  · have hsteady := Reading.steady_evaluate scope bottom tokens
    obtain ⟨more, hvisits, hsound⟩ := hsteady.visits
    refine ⟨hsteady.value, hsteady.depth, fun v hv => ?_⟩
    rw [hvisits] at hv
    obtain ⟨hafter, hlimit, hopened⟩ := hsound v hv
    exact ⟨hafter, hlimit, hopened⟩
  · rw [p.peak_tokens [] nofun, List.length_nil, Nat.zero_add]
  · have hparse := Expr.parse_eq_ok_iff.2 ⟨p, rfl, hp, rfl⟩
    refine ⟨⟨_, hparse⟩, fun scope f hf hmessage => ?_⟩
    rw [Fault.message_eq_iff.1 hmessage, Expr.evalTokens, hparse] at hf
    exact Expr.eval_ne_nestedTooDeeply scope p.toExpr hf
  · obtain ⟨complete, hcomplete⟩ := p.overrun maxNesting hp []
    rw [List.append_nil] at hcomplete
    have hparse : Expr.parse p.tokens = .error ⟨complete, .nestedTooDeeply⟩ := by
      change (Category.disjunction.parser maxNesting p.tokens >>= _) = _
      rw [hcomplete]
      rfl
    exact ⟨⟨complete, hparse⟩, fun scope => ⟨_, by rw [Expr.evalTokens, hparse]⟩⟩

/-- As many negations of null. -/
def Phrase.negations : Nat → Phrase .negation
  | 0 => .comparison (.operand .null)
  | n + 1 => .not (negations n)

theorem Phrase.nesting_negations (n : Nat) : (negations n).nesting = n := by
  induction n with
  | zero => rfl
  | succ n ih => rw [negations, nesting, ih]

/-- Of 128 negations there is an expression, of 129 there is none. -/
theorem nesting_limit_exact_of_negations :
    let text (n : Nat) : Phrase .disjunction := .conjunction (.negation (.negations n))
    (∃ e, Expr.parse (text 128).tokens = .ok e) ∧
      ∃ complete, Expr.parse (text 129).tokens = .error ⟨complete, .nestedTooDeeply⟩ := by
  intro text
  have hnesting (n : Nat) : (text n).nesting = n := Phrase.nesting_negations n
  exact ⟨((nesting_limit_exact.2 (text 128)).2.1 (hnesting 128).le).1,
    ((nesting_limit_exact.2 (text 129)).2.2 (by rw [hnesting]; decide)).1⟩

end SqlTemplate
