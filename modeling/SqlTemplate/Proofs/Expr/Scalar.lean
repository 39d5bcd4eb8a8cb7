import SqlTemplate.Error
import SqlTemplate.Proofs.Fallible

/-!
# Expressions over single values

Where every name stands for a single value, so does every expression: the literals of a text are
single values, and every step and every operator gives one.

**Theorem (`isScalar_of_evalText`).** In a scope of single values a text has a single value; so no
text is a collection there (`collection_ne_ok`).
-/

namespace SqlTemplate

namespace Expr

/-- All literals of an expression are single values. -/
def Flat : Expr → Prop
  | literal v => v.isScalar
  | name _ => True
  | property e _ => e.Flat
  | item e index => e.Flat ∧ index.Flat
  | compare _ left right => left.Flat ∧ right.Flat
  | not e => e.Flat
  | and left right => left.Flat ∧ right.Flat
  | or left right => left.Flat ∧ right.Flat

/-! ## What the parsers give -/

/-- A parser of flat expressions. -/
def FlatParser (p : Parser) : Prop := ∀ tokens e rest, p tokens = .ok (e, rest) → e.Flat

variable {e left : Expr} {tokens rest : List Token} {inside : Level}

theorem flat_of_path {rounds : Nat} (hinside : FlatParser inside.disjunction) (he : e.Flat)
    {r : Expr} (h : path inside rounds e tokens = .ok (r, rest)) : r.Flat := by
  induction rounds generalizing e tokens with
  | zero => cases h; exact he
  | succ rounds ih =>
    unfold path at h
    split at h
    · exact ih (show (property e _).Flat from he) h
    · cases h
    · split at h
      · cases h
      · next hindex => exact ih (show (item e _).Flat from ⟨he, hinside _ _ _ hindex⟩) h
      · cases h
    · cases h; exact he

theorem flat_of_constant? {n : String} {v : Value} (h : constant? n = some v) : v.isScalar := by
  unfold constant? at h
  split at h
  · cases h; rfl
  · split at h
    · cases h; rfl
    · split at h
      · cases h; rfl
      · cases h

theorem flatParser_operand (hinside : FlatParser inside.disjunction) :
    FlatParser (operand inside) := by
  intro tokens e rest h
  unfold operand at h
  split at h
  iterate 5 cases h; rfl
  · cases h
  · split at h
    · cases h
    · next he => cases h; exact hinside _ _ _ he
    · cases h
  · split at h
    · next hv => cases h; exact flat_of_constant? hv
    · exact flat_of_path hinside (show (name _).Flat from trivial) h
  · cases h

theorem flatParser_comparison (hinside : FlatParser inside.disjunction) :
    FlatParser (comparison inside) := by
  intro tokens e rest h
  rw [comparison] at h
  obtain ⟨⟨left, after⟩, hleft, h⟩ := exists_of_bind_eq_ok h
  have hflat := flatParser_operand hinside _ _ _ hleft
  split at h
  · next heq =>
    cases heq
    split at h
    · cases h
    · next hright => cases h; exact ⟨hflat, flatParser_operand hinside _ _ _ hright⟩
  · next heq => cases heq; cases h; exact hflat

theorem flatParser_negation (hinside : FlatParser inside.disjunction)
    (hnegation : FlatParser inside.negation) : FlatParser (negation inside) := by
  intro tokens e rest h
  unfold negation at h
  split at h
  · cases hoperand : inside.negation _ with
    | error b => rw [hoperand] at h; cases h
    | ok result =>
      obtain ⟨operand, after⟩ := result
      rw [hoperand] at h
      cases h
      exact hnegation _ operand _ hoperand
  · exact flatParser_comparison hinside _ _ _ h

theorem flat_of_chain {connective : Token} {join : Expr → Expr → Expr} {link : Parser}
    {rounds : Nat} (hjoin : ∀ a b, a.Flat → b.Flat → (join a b).Flat) (hlink : FlatParser link)
    (hleft : left.Flat) (h : chain connective join link rounds left tokens = .ok (e, rest)) :
    e.Flat := by
  induction rounds generalizing left tokens with
  | zero => cases h; exact hleft
  | succ rounds ih =>
    unfold chain at h
    split at h
    · cases h; exact hleft
    · split at h
      · split at h
        · cases h
        · next hright => exact ih (hjoin _ _ hleft (hlink _ _ _ hright)) h
      · cases h; exact hleft

/-- Every level parses flat expressions. -/
theorem flatParser_level (n : Nat) :
    FlatParser (level n).negation ∧ FlatParser (level n).disjunction := by
  induction n with
  | zero =>
    constructor
    · intro tokens e rest h; cases h
    · intro tokens e rest h; cases h
  | succ n ih =>
    have hnegation := flatParser_negation ih.2 ih.1
    have hconjunction : FlatParser (conjunction (level n)) := by
      intro tokens e rest h
      obtain ⟨⟨left, after⟩, hleft, h⟩ := exists_of_bind_eq_ok h
      exact flat_of_chain (fun a b ha hb => show (and a b).Flat from ⟨ha, hb⟩) hnegation
        (hnegation _ _ _ hleft) h
    refine ⟨hnegation, fun tokens e rest h => ?_⟩
    obtain ⟨⟨left, after⟩, hleft, h⟩ := exists_of_bind_eq_ok h
    exact flat_of_chain (fun a b ha hb => show (or a b).Flat from ⟨ha, hb⟩) hconjunction
      (hconjunction _ _ _ hleft) h

theorem flat_of_parse (h : parse tokens = .ok e) : e.Flat := by
  obtain ⟨⟨e', rest⟩, he, h⟩ := exists_of_bind_eq_ok h
  cases rest with
  | nil => cases h; exact (flatParser_level _).2 _ _ _ he
  | cons token rest => cases h

end Expr

/-! ## Values -/

namespace Value

theorem isScalar_of_property {name : String} {v r : Value} (hv : v.isScalar)
    (h : v.property name = .ok r) : r.isScalar := by
  cases v with
  | list | array | map => cases hv
  | null => cases h; rfl
  | text | bytes =>
    simp only [property, size?] at h
    split at h
    · cases h; rfl
    · cases h
  | bool | int | float | decimal => cases h

theorem isScalar_of_item {v index r : Value} (hv : v.isScalar) (h : v.item index = .ok r) :
    r.isScalar := by
  unfold item at h
  split at h
  · cases h; rfl
  · cases hv
  · cases hv
  · cases hv
  · cases h

end Value

namespace Expr

/-- In a scope of single values a flat expression has a single value. -/
theorem isScalar_of_eval {scope : Scope} {e : Expr} {v : Value}
    (hscope : ∀ name x, scope name = some x → x.isScalar) (he : e.Flat)
    (h : e.eval scope = .ok v) : v.isScalar := by
  induction e generalizing v with
  | literal => cases h; exact he
  | name n =>
    cases h
    cases hn : scope n with
    | none => rfl
    | some x => exact hscope n x hn
  | property e n ih =>
    obtain ⟨value, hvalue, h⟩ := exists_of_bind_eq_ok h
    exact Value.isScalar_of_property (ih he hvalue) h
  | item e index ih _ =>
    obtain ⟨value, hvalue, h⟩ := exists_of_bind_eq_ok h
    obtain ⟨place, _, h⟩ := exists_of_bind_eq_ok h
    exact Value.isScalar_of_item (ih he.1 hvalue) h
  | compare c left right =>
    obtain ⟨_, _, h⟩ := exists_of_bind_eq_ok h
    obtain ⟨_, _, h⟩ := exists_of_bind_eq_ok h
    obtain ⟨_, _, h⟩ := exists_of_bind_eq_ok h
    cases h; rfl
  | not e =>
    obtain ⟨_, _, h⟩ := exists_of_bind_eq_ok h
    cases h; rfl
  | and left right | or left right =>
    obtain ⟨_, _, h⟩ := exists_of_bind_eq_ok h
    obtain ⟨_, _, h⟩ := exists_of_bind_eq_ok h
    cases h; rfl

/-- **Among single values every text has a single value.** -/
theorem isScalar_of_evalText {scope : Scope} {text : String} {v : Value}
    (hscope : ∀ name x, scope name = some x → x.isScalar) (h : evalText text scope = .ok v) :
    v.isScalar := by
  obtain ⟨tokens, _, h⟩ := exists_of_bind_eq_ok h
  split at h
  · next he => exact isScalar_of_eval hscope (flat_of_parse he) h
  · cases h

end Expr

/-- What the engine for paths finds is what the text stands for. -/
theorem Engine.value_paths_eq_ok {scope : Scope} {text : String} {v : Value} :
    Engine.paths.value text scope = .ok v ↔ Expr.evalText text scope = .ok v := by
  rw [Engine.value, Engine.paths]
  cases Expr.evalText text scope with
  | error fault => exact ⟨nofun, nofun⟩
  | ok value => exact ⟨fun h => by cases h; rfl, fun h => by cases h; rfl⟩

/-- Among single values no text is a collection. -/
theorem Engine.collection_ne_ok {scope : Scope}
    (hscope : ∀ name x, scope name = some x → x.isScalar) (expression : String)
    (collection : Collection) :
    Engine.paths.collection expression scope ≠ .ok collection := by
  intro h
  obtain ⟨v, hv, h⟩ := exists_of_bind_eq_ok h
  have hscalar : v.isScalar := Expr.isScalar_of_evalText hscope (value_paths_eq_ok.1 hv)
  cases v with
  | list | array | map => cases hscalar
  | null | bool | int | float | decimal | text | bytes => cases h

end SqlTemplate
