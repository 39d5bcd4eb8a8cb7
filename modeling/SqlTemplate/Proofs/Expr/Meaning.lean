import Mathlib.Data.String.Basic
import SqlTemplate.Proofs.Expr.Grammar
import SqlTemplate.Proofs.Number.Order

/-!
# What expressions mean

`Phrase.Denotes` says which value a phrase has in a scope, one rule for each production:

* A name without value is null. So are every property and every item of null, a property or a key
  that a map does not have, and an item before the start or beyond the end of a sequence. Texts,
  bytes and sequences have a size, and so has a map without an entry of that name.
* Numbers are compared as the rational numbers that they stand for, texts by code points. Any other
  two values are the same or not, and have no order.
* A chain of one operand is that operand. A longer one is the conjunction or disjunction of how all
  its operands read as conditions.

**Theorem (`evalTokens_eq_ok_iff`).** Tokens have a value exactly if they are the tokens of a phrase
that is nested at most 128 deep and denotes this value.

The expression that a phrase stands for nests its chains to the left, two operands at a time. That
this makes no difference is `eval_toExpr_iff`.
-/

namespace SqlTemplate

/-! ## Steps into a value -/

namespace Value

/-- The names that ask for a size. -/
def sizeWords : List String := ["size", "length"]

/-- The items of a list or an array. -/
def sequence? : Value → Option (List Value)
  | list items | array items => some items
  | _ => none

/-- The values that have a property, and the property. -/
inductive HasProperty : Value → String → Value → Prop
  | ofNull {name : String} : HasProperty null name null
  | entry {entries : List (String × Value)} {name : String} {v : Value}
      (h : Keyed.get? name entries = some v) : HasProperty (map entries) name v
  | noEntry {entries : List (String × Value)} {name : String}
      (h : Keyed.get? name entries = none) (hname : name ∉ sizeWords) :
      HasProperty (map entries) name null
  | size {v : Value} {name : String} {n : Nat} (h : v.get? name = none) (hname : name ∈ sizeWords)
      (hsize : v.size? = some n) : HasProperty v name (ofSize n)

/-- The values that have an item at an index, and the item. -/
inductive HasItem : Value → Value → Value → Prop
  | ofNull {index : Value} : HasItem null index null
  | place {v x : Value} {items : List Value} {n : Int64} {i : Nat} (h : v.sequence? = some items)
      (hn : n.toInt = i) (hx : items[i]? = some x) : HasItem v (int n) x
  | noPlace {v : Value} {items : List Value} {n : Int64} (h : v.sequence? = some items)
      (hn : n.toInt < 0 ∨ items.length ≤ n.toInt) : HasItem v (int n) null
  | entry {entries : List (String × Value)} {key : String} {x : Value}
      (h : Keyed.get? key entries = some x) : HasItem (map entries) (text key) x
  | noEntry {entries : List (String × Value)} {key : String}
      (h : Keyed.get? key entries = none) : HasItem (map entries) (text key) null

theorem isSizeName_iff {name : String} : isSizeName name = true ↔ name ∈ sizeWords := by
  simp [isSizeName, sizeWords]

theorem property_eq_ok_iff {v r : Value} {name : String} :
    v.property name = .ok r ↔ HasProperty v name r := by
  constructor
  · intro h
    cases v with
    | null => cases h; exact .ofNull
    | map entries =>
      rw [property] at h
      split at h
      · next hentry => cases h; exact .entry hentry
      · next hentry =>
        cases h
        split
        · next hname => exact .size hentry (isSizeName_iff.1 hname) rfl
        · next hname => exact .noEntry hentry fun hmem => hname (isSizeName_iff.2 hmem)
    | list | array | text | bytes =>
      simp only [property, size?] at h
      split at h
      · next hname => cases h; exact .size rfl (isSizeName_iff.1 hname) rfl
      · cases h
    | bool | int | float | decimal => cases h
  · intro h
    cases h with
    | ofNull => rfl
    | entry h => rw [property, h]
    | noEntry h hname =>
      rw [property, h]
      dsimp only
      rw [if_neg fun hsize => hname (isSizeName_iff.1 hsize)]
    | size h hname hsize =>
      have hname := isSizeName_iff.2 hname
      cases v with
      | map entries =>
        cases hsize
        rw [get?] at h
        rw [property, h]
        dsimp only
        rw [if_pos hname]
      | list | array | text | bytes =>
        cases hsize
        simp only [property, size?]
        rw [if_pos hname]
      | null | bool | int | float | decimal => cases hsize

theorem itemAt_of_place {items : List Value} {n : Int} {i : Nat} {x : Value} (hn : n = i)
    (hx : items[i]? = some x) : itemAt items n = x := by
  rw [itemAt, hn, if_neg (by omega), Int.toNat_natCast, hx]
  rfl

theorem itemAt_of_noPlace {items : List Value} {n : Int} (hn : n < 0 ∨ items.length ≤ n) :
    itemAt items n = null := by
  rw [itemAt]
  split
  · rfl
  · rw [List.getElem?_eq_none (by omega)]
    rfl

theorem hasItem_itemAt {v : Value} {items : List Value} (h : v.sequence? = some items)
    (n : Int64) : HasItem v (int n) (itemAt items n.toInt) := by
  by_cases hn : n.toInt < 0 ∨ items.length ≤ n.toInt
  · rw [itemAt_of_noPlace hn]
    exact .noPlace h hn
  · rw [not_or, Int.not_lt, Int.not_le] at hn
    have hplace : n.toInt = n.toInt.toNat := (Int.toNat_of_nonneg hn.1).symm
    have hx : items[n.toInt.toNat]? = some items[n.toInt.toNat] :=
      List.getElem?_eq_getElem (by omega)
    rw [itemAt_of_place hplace hx]
    exact .place h hplace hx

theorem item_eq_ok_iff {v index r : Value} : v.item index = .ok r ↔ HasItem v index r := by
  constructor
  · intro h
    unfold item at h
    split at h
    · cases h; exact .ofNull
    · cases h; exact hasItem_itemAt rfl _
    · cases h; exact hasItem_itemAt rfl _
    · next entries key =>
      cases h
      cases hentry : Keyed.get? key entries with
      | none => exact .noEntry hentry
      | some x => exact .entry hentry
    · cases h
  · intro h
    cases h with
    | ofNull => rfl
    | place h hn hx =>
      cases v with
      | list | array => cases h; rw [item, itemAt_of_place hn hx]
      | null | bool | int | float | decimal | text | bytes | map => cases h
    | noPlace h hn =>
      cases v with
      | list | array => cases h; rw [item, itemAt_of_noPlace hn]
      | null | bool | int | float | decimal | text | bytes | map => cases h
    | entry h => rw [item, h]; rfl
    | noEntry h => rw [item, h]; rfl

end Value

/-! ## Comparisons -/

/-- Whether a comparison holds between two things with an order. -/
def Comparison.Relates {α : Type} [LinearOrder α] (c : Comparison) (a b : α) : Prop :=
  match c with
  | .eq => a = b
  | .ne => a ≠ b
  | .lt => a < b
  | .le => a ≤ b
  | .gt => b < a
  | .ge => b ≤ a

namespace Value

/-- The values that can be compared, and whether the comparison holds. -/
inductive Compares : Comparison → Value → Value → Bool → Prop
  | numbers {c : Comparison} {a b : Value} {x y : Decimal} {holds : Bool}
      (hx : a.toDecimal? = some x) (hy : b.toDecimal? = some y)
      (h : holds = true ↔ c.Relates x.value y.value) : Compares c a b holds
  | texts {c : Comparison} {s t : String} {holds : Bool} (h : holds = true ↔ c.Relates s t) :
      Compares c (text s) (text t) holds
  | same {a b : Value} (h : a.toDecimal? = none ∨ b.toDecimal? = none) :
      Compares .eq a b (same a b)
  | notSame {a b : Value} (h : a.toDecimal? = none ∨ b.toDecimal? = none) :
      Compares .ne a b !(same a b)

end Value

/-- Whether a comparison holds between things in this order. -/
def Comparison.admits (c : Comparison) (order : Ordering) : Bool :=
  match c with
  | .eq => order == .eq
  | .ne => order != .eq
  | .lt => order == .lt
  | .le => order != .gt
  | .gt => order == .gt
  | .ge => order != .lt

theorem Comparison.admits_compare_iff {α : Type} [LinearOrder α] {c : Comparison} {x y : α} :
    c.admits (Ord.compare x y) = true ↔ c.Relates x y := by
  cases c with
  | eq => rw [admits, beq_iff_eq, compare_eq_iff_eq, Relates]
  | ne => rw [admits, bne_iff_ne, Ne, compare_eq_iff_eq, Relates]
  | lt => rw [admits, beq_iff_eq, compare_lt_iff_lt, Relates]
  | le => rw [admits, bne_iff_ne, compare_le_iff_le, Relates]
  | gt => rw [admits, beq_iff_eq, compare_gt_iff_gt, Relates]
  | ge => rw [admits, bne_iff_ne, compare_ge_iff_ge, Relates]

namespace Value

variable {c : Comparison} {a b : Value} {holds : Bool}

/-- Two values with an order are compared by it. -/
theorem compare_of_order {order : Ordering} (hequal : equal a b = (order == .eq))
    (horder : compare? a b = some order) : a.compare c b = .ok (c.admits order) := by
  cases c with
  | eq | ne => rw [compare.eq_def, hequal]; rfl
  | lt | le | gt | ge => rw [compare.eq_def, horder]; rfl

theorem compare_of_decimals {x y : Decimal} (hx : a.toDecimal? = some x)
    (hy : b.toDecimal? = some y) :
    a.compare c b = .ok (c.admits (Ord.compare x.value y.value)) := by
  rw [← Decimal.compare_eq_compare_value]
  refine compare_of_order ?_ ?_
  · rw [equal, hx, hy]
    rfl
  · unfold compare?
    rw [hx, hy]

theorem compare_of_texts {s t : String} :
    (text s).compare c (text t) = .ok (c.admits (Ord.compare s t)) := by
  refine compare_of_order ?_ rfl
  rw [Bool.eq_iff_iff, beq_iff_eq, compare_eq_iff_eq]
  exact beq_iff_eq

theorem equal_of_no_number (h : a.toDecimal? = none ∨ b.toDecimal? = none) :
    equal a b = same a b := by
  rw [equal]
  rcases h with h | h <;> rw [h]
  cases a.toDecimal? <;> rfl

/-- Values without a number have an order only if both are texts. -/
theorem compare?_of_no_number {order : Ordering}
    (h : a.toDecimal? = none ∨ b.toDecimal? = none) (horder : compare? a b = some order) :
    ∃ s t, a = text s ∧ b = text t := by
  unfold compare? at horder
  split at horder
  · next hx hy => rcases h with h | h <;> simp_all
  · split at horder
    · exact ⟨_, _, rfl, rfl⟩
    · cases horder

theorem compares_of_no_number (hnumbers : a.toDecimal? = none ∨ b.toDecimal? = none)
    (h : a.compare c b = .ok holds) : Compares c a b holds := by
  cases c with
  | eq =>
    cases h
    rw [equal_of_no_number hnumbers]
    exact .same hnumbers
  | ne =>
    cases h
    rw [equal_of_no_number hnumbers]
    exact .notSame hnumbers
  | lt | le | gt | ge =>
    have horder : ∃ order, compare? a b = some order := by
      cases horder : compare? a b with
      | none => rw [compare.eq_def, horder] at h; cases h
      | some order => exact ⟨order, rfl⟩
    obtain ⟨order, horder⟩ := horder
    obtain ⟨s, t, rfl, rfl⟩ := compare?_of_no_number hnumbers horder
    rw [compare_of_texts] at h
    cases h
    exact .texts Comparison.admits_compare_iff

/-- **Comparing two values** gives whether the comparison holds, for those that can be compared. -/
theorem compare_eq_ok_iff : a.compare c b = .ok holds ↔ Compares c a b holds := by
  constructor
  · intro h
    by_cases hnumbers : a.toDecimal? = none ∨ b.toDecimal? = none
    · exact compares_of_no_number hnumbers h
    · rw [not_or, ← ne_eq, ← ne_eq, Option.ne_none_iff_exists', Option.ne_none_iff_exists']
        at hnumbers
      obtain ⟨⟨x, hx⟩, y, hy⟩ := hnumbers
      rw [compare_of_decimals hx hy] at h
      cases h
      exact .numbers hx hy Comparison.admits_compare_iff
  · intro h
    cases h with
    | numbers hx hy h =>
      rw [compare_of_decimals hx hy, Bool.eq_iff_iff.2 (Comparison.admits_compare_iff.trans h.symm)]
    | texts h =>
      rw [compare_of_texts, Bool.eq_iff_iff.2 (Comparison.admits_compare_iff.trans h.symm)]
    | same h => rw [compare.eq_def, equal_of_no_number h]
    | notSame h => rw [compare.eq_def, equal_of_no_number h]

end Value

/-! ## Phrases -/

namespace Phrase

mutual

/-- The values that a phrase denotes in a scope; there is at most one. -/
def Denotes (scope : Scope) : {k : Category} → Phrase k → Value → Prop
  | _, null, v => v = .null
  | _, bool b, v => v = .bool b
  | _, int n, v => v = .int n
  | _, decimal d, v => v = .decimal d
  | _, text s, v => v = .text s
  | _, minusInt n, v => v = .int (-n)
  | _, minusDecimal d, v => v = .decimal d.neg
  | _, enclosed p, v => p.Denotes scope v
  | _, path p, v => p.Denotes scope v
  | _, name n _, v => v = (scope n).getD .null
  | _, property p n, v => ∃ u, p.Denotes scope u ∧ u.HasProperty n v
  | _, item p index, v => ∃ u i, p.Denotes scope u ∧ index.Denotes scope i ∧ u.HasItem i v
  | _, operand p, v => p.Denotes scope v
  | _, compare c left right, v =>
    ∃ a b holds, left.Denotes scope a ∧ right.Denotes scope b ∧ Value.Compares c a b holds ∧
      v = .bool holds
  | _, comparison p, v => p.Denotes scope v
  | _, not p, v => ∃ u, p.Denotes scope u ∧ v = .bool !u.truthy
  | _, negation p, v => p.Denotes scope v
  | _, and p q, v =>
    ∃ us u, p.Operands scope us ∧ q.Denotes scope u ∧ v = .bool ((us ++ [u]).all Value.truthy)
  | _, conjunction p, v => p.Denotes scope v
  | _, or p q, v =>
    ∃ us u, p.Operands scope us ∧ q.Denotes scope u ∧ v = .bool ((us ++ [u]).any Value.truthy)

/-- The values of the operands of a chain, from left to right. -/
def Operands (scope : Scope) : {k : Category} → Phrase k → List Value → Prop
  | _, negation p, vs => ∃ v, p.Denotes scope v ∧ vs = [v]
  | _, and p q, vs => ∃ us u, p.Operands scope us ∧ q.Denotes scope u ∧ vs = us ++ [u]
  | _, conjunction p, vs => ∃ v, p.Denotes scope v ∧ vs = [v]
  | _, or p q, vs => ∃ us u, p.Operands scope us ∧ q.Denotes scope u ∧ vs = us ++ [u]
  | _, _, _ => False

end

section eval

variable {scope : Scope} {holds : Bool}

/-- As a condition, a conjunction reads as all its operands together. -/
theorem exists_operands_all_iff (p : Phrase .conjunction) :
    (∃ us, p.Operands scope us ∧ us.all Value.truthy = holds) ↔
      ∃ v, p.Denotes scope v ∧ v.truthy = holds := by
  cases p with
  | negation p => simp [Operands, Denotes]
  | and p q =>
    simp only [Operands, Denotes]
    constructor
    · rintro ⟨vs, ⟨us, u, hp, hq, rfl⟩, hall⟩
      exact ⟨_, ⟨us, u, hp, hq, rfl⟩, hall⟩
    · rintro ⟨v, ⟨us, u, hp, hq, rfl⟩, hall⟩
      exact ⟨_, ⟨us, u, hp, hq, rfl⟩, hall⟩

/-- As a condition, a disjunction reads as any of its operands. -/
theorem exists_operands_any_iff (p : Phrase .disjunction) :
    (∃ us, p.Operands scope us ∧ us.any Value.truthy = holds) ↔
      ∃ v, p.Denotes scope v ∧ v.truthy = holds := by
  cases p with
  | conjunction p => simp [Operands, Denotes]
  | or p q =>
    simp only [Operands, Denotes]
    constructor
    · rintro ⟨vs, ⟨us, u, hp, hq, rfl⟩, hany⟩
      exact ⟨_, ⟨us, u, hp, hq, rfl⟩, hany⟩
    · rintro ⟨v, ⟨us, u, hp, hq, rfl⟩, hany⟩
      exact ⟨_, ⟨us, u, hp, hq, rfl⟩, hany⟩

/-- **The expression that a phrase stands for** has the value that the phrase denotes. -/
theorem eval_toExpr_iff {k : Category} {p : Phrase k} {v : Value} :
    p.toExpr.eval scope = .ok v ↔ p.Denotes scope v := by
  induction p generalizing v with
  | null | bool | int | decimal | text | minusInt | minusDecimal | name =>
    rw [toExpr, Expr.eval, Denotes, Except.ok.injEq, eq_comm]
  | enclosed p ih | path p ih | operand p ih | comparison p ih | negation p ih | conjunction p ih =>
    rw [toExpr, Denotes, ih]
  | property p n ih =>
    rw [toExpr, Expr.eval, Denotes, bind_eq_ok_iff]
    simp only [ih, Value.property_eq_ok_iff]
  | item p index ihp ihindex =>
    simp only [toExpr, Expr.eval, Denotes, bind_eq_ok_iff, ihp, ihindex, Value.item_eq_ok_iff,
      exists_and_left]
  | compare c left right ihleft ihright =>
    simp only [toExpr, Expr.eval, Denotes, bind_eq_ok_iff, ihleft, ihright,
      Value.compare_eq_ok_iff, pure, Except.pure, Except.ok.injEq, exists_and_left, @eq_comm _ v]
  | not p ih =>
    simp only [toExpr, Expr.eval, Denotes, bind_eq_ok_iff, ih, pure, Except.pure, Except.ok.injEq,
      @eq_comm _ v]
  | and p q ihp ihq =>
    simp only [toExpr, Expr.eval, Denotes, bind_eq_ok_iff, ihp, ihq, pure, Except.pure,
      Except.ok.injEq]
    constructor
    · rintro ⟨a, ha, b, hb, rfl⟩
      obtain ⟨us, hus, hall⟩ := (exists_operands_all_iff p).2 ⟨a, ha, rfl⟩
      exact ⟨us, b, hus, hb, by simp [hall]⟩
    · rintro ⟨us, b, hus, hb, rfl⟩
      obtain ⟨a, ha, htruthy⟩ := (exists_operands_all_iff p).1 ⟨us, hus, rfl⟩
      exact ⟨a, ha, b, hb, by simp [htruthy]⟩
  | or p q ihp ihq =>
    simp only [toExpr, Expr.eval, Denotes, bind_eq_ok_iff, ihp, ihq, pure, Except.pure,
      Except.ok.injEq]
    constructor
    · rintro ⟨a, ha, b, hb, rfl⟩
      obtain ⟨us, hus, hany⟩ := (exists_operands_any_iff p).2 ⟨a, ha, rfl⟩
      exact ⟨us, b, hus, hb, by simp [hany]⟩
    · rintro ⟨us, b, hus, hb, rfl⟩
      obtain ⟨a, ha, htruthy⟩ := (exists_operands_any_iff p).1 ⟨us, hus, rfl⟩
      exact ⟨a, ha, b, hb, by simp [htruthy]⟩

end eval

end Phrase

/-! ## Evaluation -/

namespace Expr

/-- The value of a sequence of tokens as an expression. -/
def evalTokens (tokens : List Token) (scope : Scope) : Except Fault Value :=
  match parse tokens with
  | .ok e => e.eval scope
  | .error b => .error (b.faultIn scope)

/-- A text is evaluated by its tokens. -/
theorem evalText_of_tokens {text : String} {tokens : List Token}
    (h : Token.ofText text = .ok tokens) (scope : Scope) :
    evalText text scope = evalTokens tokens scope := by
  rw [evalText, h]
  rfl

/-- The text of a phrase within the limit is evaluated as the expression that it stands for. -/
theorem evalText_of_phrase {text : String} {p : Phrase .disjunction}
    (htokens : Token.ofText text = .ok p.tokens) (hnesting : p.nesting ≤ maxNesting)
    (scope : Scope) : evalText text scope = p.toExpr.eval scope := by
  rw [evalText_of_tokens htokens, evalTokens, parse_eq_ok_iff.2 ⟨p, rfl, hnesting, rfl⟩]

/-- **The language of expressions is its grammar.** Tokens have a value in a scope exactly if they
are the tokens of a phrase, nested at most 128 deep, that denotes this value. A text has
the value of its tokens. -/
theorem evalTokens_eq_ok_iff (tokens : List Token) (scope : Scope) (v : Value) :
    (evalTokens tokens scope = .ok v ↔
      ∃ p : Phrase .disjunction, p.tokens = tokens ∧ p.nesting ≤ 128 ∧ p.Denotes scope v) ∧
      ∀ text, Token.ofText text = .ok tokens → evalText text scope = evalTokens tokens scope := by
  refine ⟨?_, fun text h => evalText_of_tokens h scope⟩
  have hparse :
      evalTokens tokens scope = .ok v ↔ ∃ e, parse tokens = .ok e ∧ e.eval scope = .ok v := by
    rw [evalTokens]
    cases parse tokens with
    | ok e => simp
    | error b => simp
  rw [hparse]
  constructor
  · rintro ⟨e, he, hv⟩
    obtain ⟨p, htokens, hnesting, rfl⟩ := parse_eq_ok_iff.1 he
    exact ⟨p, htokens, hnesting, Phrase.eval_toExpr_iff.1 hv⟩
  · rintro ⟨p, htokens, hnesting, hv⟩
    exact ⟨p.toExpr, parse_eq_ok_iff.2 ⟨p, htokens, hnesting, rfl⟩, Phrase.eval_toExpr_iff.2 hv⟩

end Expr

end SqlTemplate
