import SqlTemplate.Expr.Parser
import SqlTemplate.Proofs.Fallible

/-!
# The grammar of expressions

A `Phrase` is a syntax tree of the grammar, with one constructor for each production. It has tokens,
a nesting, and an expression that it stands for. The loops of the grammar are chains that grow at
their right end: a conjunction is a negation, or a conjunction with one more negation after it, and
a path is a name, or a path with one more step after it.

**Theorem (`parse_eq_ok_iff`).** Tokens parse to an expression exactly if they are the tokens of a
phrase that stands for it and is nested at most `maxNesting` deep.

In one direction, what a parser takes off the tokens is a phrase of its category; this goes by
induction on the levels (`yields_level`). In the other, a parser takes a phrase off the tokens if
what follows cannot go on with the phrase; this goes by induction on the phrase (`Phrase.readAt`).
The parsers of chains and paths carry along what they have so far, and so does the induction.
-/

namespace SqlTemplate

/-- The categories of the grammar. -/
inductive Category where
  | operand
  | path
  | comparison
  | negation
  | conjunction
  | disjunction

/-- The words that are no names. -/
def constantWords : List String := ["null", "true", "false"]

/-- A syntax tree of the grammar. -/
inductive Phrase : Category → Type where
  | null : Phrase .operand
  | bool (b : Bool) : Phrase .operand
  | int (n : Int64) : Phrase .operand
  | decimal (d : Decimal) : Phrase .operand
  | text (s : String) : Phrase .operand
  | minusInt (n : Int64) : Phrase .operand
  | minusDecimal (d : Decimal) : Phrase .operand
  | enclosed (p : Phrase .disjunction) : Phrase .operand
  | path (p : Phrase .path) : Phrase .operand
  | name (n : String) (h : n ∉ constantWords) : Phrase .path
  | property (p : Phrase .path) (n : String) : Phrase .path
  | item (p : Phrase .path) (index : Phrase .disjunction) : Phrase .path
  | operand (p : Phrase .operand) : Phrase .comparison
  | compare (c : Comparison) (left right : Phrase .operand) : Phrase .comparison
  | comparison (p : Phrase .comparison) : Phrase .negation
  | not (p : Phrase .negation) : Phrase .negation
  | negation (p : Phrase .negation) : Phrase .conjunction
  | and (p : Phrase .conjunction) (q : Phrase .negation) : Phrase .conjunction
  | conjunction (p : Phrase .conjunction) : Phrase .disjunction
  | or (p : Phrase .disjunction) (q : Phrase .conjunction) : Phrase .disjunction

namespace Phrase

variable {k : Category}

/-- The tokens of a phrase. -/
def tokens : {k : Category} → Phrase k → List Token
  | _, null => [.name "null"]
  | _, bool b => [.name (if b then "true" else "false")]
  | _, int n => [.int n]
  | _, decimal d => [.decimal d]
  | _, text s => [.text s]
  | _, minusInt n => [.minus, .int n]
  | _, minusDecimal d => [.minus, .decimal d]
  | _, enclosed p => .openParen :: p.tokens ++ [.closeParen]
  | _, path p => p.tokens
  | _, name n _ => [.name n]
  | _, property p n => p.tokens ++ [.dot, .name n]
  | _, item p index => p.tokens ++ .openBracket :: index.tokens ++ [.closeBracket]
  | _, operand p => p.tokens
  | _, compare c left right => left.tokens ++ .compare c :: right.tokens
  | _, comparison p => p.tokens
  | _, not p => .not :: p.tokens
  | _, negation p => p.tokens
  | _, and p q => p.tokens ++ .and :: q.tokens
  | _, conjunction p => p.tokens
  | _, or p q => p.tokens ++ .or :: q.tokens

/-- How many negations, parentheses and brackets of a phrase stand inside one another. -/
def nesting : {k : Category} → Phrase k → Nat
  | _, null | _, bool _ | _, int _ | _, decimal _ | _, text _ => 0
  | _, minusInt _ | _, minusDecimal _ => 0
  | _, enclosed p => p.nesting + 1
  | _, path p => p.nesting
  | _, name _ _ => 0
  | _, property p _ => p.nesting
  | _, item p index => max p.nesting (index.nesting + 1)
  | _, operand p => p.nesting
  | _, compare _ left right => max left.nesting right.nesting
  | _, comparison p => p.nesting
  | _, not p => p.nesting + 1
  | _, negation p => p.nesting
  | _, and p q => max p.nesting q.nesting
  | _, conjunction p => p.nesting
  | _, or p q => max p.nesting q.nesting

/-- The expression that a phrase stands for. -/
def toExpr : {k : Category} → Phrase k → Expr
  | _, null => .literal .null
  | _, bool b => .literal (.bool b)
  | _, int n => .literal (.int n)
  | _, decimal d => .literal (.decimal d)
  | _, text s => .literal (.text s)
  | _, minusInt n => .literal (.int (-n))
  | _, minusDecimal d => .literal (.decimal d.neg)
  | _, enclosed p => p.toExpr
  | _, path p => p.toExpr
  | _, name n _ => .name n
  | _, property p n => .property p.toExpr n
  | _, item p index => .item p.toExpr index.toExpr
  | _, operand p => p.toExpr
  | _, compare c left right => .compare c left.toExpr right.toExpr
  | _, comparison p => p.toExpr
  | _, not p => .not p.toExpr
  | _, negation p => p.toExpr
  | _, and p q => .and p.toExpr q.toExpr
  | _, conjunction p => p.toExpr
  | _, or p q => .or p.toExpr q.toExpr

/-- A comparison that stands alone, without connectives. -/
def alone (p : Phrase .comparison) : Phrase .disjunction := .conjunction (.negation (.comparison p))

end Phrase

namespace Expr

theorem constant?_eq_none_iff {n : String} : constant? n = none ↔ n ∉ constantWords := by
  rw [constant?, constantWords]
  split_ifs with hnull htrue hfalse <;> simp_all

theorem constant?_eq_some {n : String} {v : Value} (h : constant? n = some v) :
    (n = "null" ∧ v = .null) ∨ ∃ b : Bool, n = (if b then "true" else "false") ∧ v = .bool b := by
  rw [constant?] at h
  split_ifs at h with hnull htrue hfalse
  · exact .inl ⟨hnull, (Option.some.inj h).symm⟩
  · exact .inr ⟨true, htrue, (Option.some.inj h).symm⟩
  · exact .inr ⟨false, hfalse, (Option.some.inj h).symm⟩

/-! ## What parsers take is a phrase -/

/-- What a parser takes off the tokens is a phrase nested less than `n` deep. -/
def Yields (n : Nat) (k : Category) (p : Parser) : Prop :=
  ∀ tokens e rest, p tokens = .ok (e, rest) →
    ∃ f : Phrase k, f.nesting < n ∧ f.toExpr = e ∧ f.tokens ++ rest = tokens

section yields

variable {n : Nat} {inside : Level} {tokens rest : List Token} {e : Expr}

theorem yields_path {rounds : Nat} (hinside : Yields n .disjunction inside.disjunction)
    (f : Phrase .path) (hf : f.nesting < n + 1)
    (h : path inside rounds f.toExpr tokens = .ok (e, rest)) :
    ∃ g : Phrase .path, g.nesting < n + 1 ∧ g.toExpr = e ∧
      g.tokens ++ rest = f.tokens ++ tokens := by
  induction rounds generalizing f tokens with
  | zero => cases h; exact ⟨f, hf, rfl, rfl⟩
  | succ rounds ih =>
    unfold path at h
    split at h
    · next name tokens =>
      obtain ⟨g, hg, heq, htokens⟩ := ih (.property f name) hf h
      exact ⟨g, hg, heq, htokens.trans (by simp [Phrase.tokens])⟩
    · cases h
    · split at h
      · cases h
      · next index tokens hindex =>
        obtain ⟨i, hi, rfl, rfl⟩ := hinside _ _ _ hindex
        have hnesting : (Phrase.item f i).nesting < n + 1 := by
          rw [Phrase.nesting]
          omega
        obtain ⟨g, hg, heq, htokens⟩ := ih (.item f i) hnesting h
        exact ⟨g, hg, heq, htokens.trans (by simp [Phrase.tokens])⟩
      · cases h
    · cases h; exact ⟨f, hf, rfl, rfl⟩

theorem yields_operand (hinside : Yields n .disjunction inside.disjunction) :
    Yields (n + 1) .operand (operand inside) := by
  intro tokens e rest h
  unfold operand at h
  split at h
  · next i _ => cases h; exact ⟨.int i, Nat.succ_pos n, rfl, rfl⟩
  · next d _ => cases h; exact ⟨.decimal d, Nat.succ_pos n, rfl, rfl⟩
  · next s _ => cases h; exact ⟨.text s, Nat.succ_pos n, rfl, rfl⟩
  · next i _ => cases h; exact ⟨.minusInt i, Nat.succ_pos n, rfl, rfl⟩
  · next d _ => cases h; exact ⟨.minusDecimal d, Nat.succ_pos n, rfl, rfl⟩
  · cases h
  · split at h
    · cases h
    · next hinner =>
      cases h
      obtain ⟨f, hf, rfl, rfl⟩ := hinside _ _ _ hinner
      exact ⟨.enclosed f, Nat.succ_lt_succ hf, rfl, by simp [Phrase.tokens]⟩
    · cases h
  · split at h
    · next hconstant =>
      cases h
      rcases constant?_eq_some hconstant with ⟨rfl, rfl⟩ | ⟨b, rfl, rfl⟩
      · exact ⟨.null, Nat.succ_pos n, rfl, rfl⟩
      · exact ⟨.bool b, Nat.succ_pos n, rfl, rfl⟩
    · next hconstant =>
      obtain ⟨g, hg, heq, htokens⟩ := yields_path hinside
        (.name _ (constant?_eq_none_iff.1 hconstant)) (Nat.succ_pos n) h
      exact ⟨.path g, hg, heq, htokens⟩
  · cases h

theorem yields_comparison (hinside : Yields n .disjunction inside.disjunction) :
    Yields (n + 1) .comparison (comparison inside) := by
  intro tokens e rest h
  rw [comparison] at h
  obtain ⟨⟨left, after⟩, hleft, hafter⟩ := exists_of_bind_eq_ok h
  obtain ⟨f, hf, rfl, rfl⟩ := yields_operand hinside _ _ _ hleft
  split at hafter
  · next c _ heq =>
    cases heq
    split at hafter
    · cases hafter
    · next hright =>
      cases hafter
      obtain ⟨g, hg, rfl, rfl⟩ := yields_operand hinside _ _ _ hright
      exact ⟨.compare c f g, Nat.max_lt.2 ⟨hf, hg⟩, rfl, by simp [Phrase.tokens]⟩
  · next heq => cases heq; cases hafter; exact ⟨.operand f, hf, rfl, rfl⟩

theorem yields_negation (hinside : Yields n .disjunction inside.disjunction)
    (hnegation : Yields n .negation inside.negation) :
    Yields (n + 1) .negation (negation inside) := by
  intro tokens e rest h
  unfold negation at h
  split at h
  · cases hinner : inside.negation _ with
    | error b => rw [hinner] at h; cases h
    | ok result =>
      rw [hinner] at h
      cases h
      obtain ⟨f, hf, hexpr, rfl⟩ := hnegation _ _ _ hinner
      exact ⟨.not f, Nat.succ_lt_succ hf, by rw [Phrase.toExpr, hexpr], rfl⟩
  · obtain ⟨f, hf, rfl, rfl⟩ := yields_comparison hinside _ _ _ h
    exact ⟨.comparison f, hf, rfl, rfl⟩

/-- A chain of links, of which the phrase `f` has been taken. -/
theorem yields_chain {rounds : Nat} {k l : Category} {connective : Token}
    {join : Expr → Expr → Expr} {link : Parser} (extend : Phrase k → Phrase l → Phrase k)
    (hlink : Yields n l link)
    (htokens : ∀ f g, (extend f g).tokens = f.tokens ++ connective :: g.tokens)
    (hnesting : ∀ f g, (extend f g).nesting = max f.nesting g.nesting)
    (hexpr : ∀ f g, (extend f g).toExpr = join f.toExpr g.toExpr)
    (f : Phrase k) (hf : f.nesting < n)
    (h : chain connective join link rounds f.toExpr tokens = .ok (e, rest)) :
    ∃ g : Phrase k, g.nesting < n ∧ g.toExpr = e ∧ g.tokens ++ rest = f.tokens ++ tokens := by
  induction rounds generalizing f tokens with
  | zero => cases h; exact ⟨f, hf, rfl, rfl⟩
  | succ rounds ih =>
    unfold chain at h
    split at h
    · cases h; exact ⟨f, hf, rfl, rfl⟩
    · split at h
      · next hconnective =>
        subst hconnective
        split at h
        · cases h
        · next hright =>
          obtain ⟨g, hg, rfl, rfl⟩ := hlink _ _ _ hright
          rw [← hexpr] at h
          obtain ⟨r, hr, heq, hr'⟩ := ih (extend f g) (by rw [hnesting]; omega) h
          exact ⟨r, hr, heq, hr'.trans (by simp [htokens])⟩
      · cases h; exact ⟨f, hf, rfl, rfl⟩

theorem yields_conjunction (hinside : Yields n .disjunction inside.disjunction)
    (hnegation : Yields n .negation inside.negation) :
    Yields (n + 1) .conjunction (conjunction inside) := by
  intro tokens e rest h
  have hlink := yields_negation hinside hnegation
  obtain ⟨⟨first, after⟩, hfirst, hafter⟩ := exists_of_bind_eq_ok h
  obtain ⟨f, hf, rfl, rfl⟩ := hlink _ _ _ hfirst
  exact yields_chain .and hlink (fun _ _ => rfl) (fun _ _ => rfl)
    (fun _ _ => rfl) (.negation f) hf hafter

theorem yields_disjunction (hinside : Yields n .disjunction inside.disjunction)
    (hnegation : Yields n .negation inside.negation) :
    Yields (n + 1) .disjunction (disjunction inside) := by
  intro tokens e rest h
  have hlink := yields_conjunction hinside hnegation
  obtain ⟨⟨first, after⟩, hfirst, hafter⟩ := exists_of_bind_eq_ok h
  obtain ⟨f, hf, rfl, rfl⟩ := hlink _ _ _ hfirst
  exact yields_chain .or hlink (fun _ _ => rfl) (fun _ _ => rfl)
    (fun _ _ => rfl) (.conjunction f) hf hafter

/-- **What the parsers of a level take is a phrase** with fewer levels. -/
theorem yields_level (n : Nat) :
    Yields n .disjunction (level n).disjunction ∧ Yields n .negation (level n).negation := by
  induction n with
  | zero =>
    constructor
    · intro tokens e rest h; cases h
    · intro tokens e rest h; cases h
  | succ n ih => exact ⟨yields_disjunction ih.1 ih.2, yields_negation ih.1 ih.2⟩

end yields

/-! ## What parsers are given as a phrase they take -/

/-- How tightly a token can hold on to a phrase before it. -/
def grip : Token → Nat
  | .dot | .openBracket => 4
  | .compare _ => 3
  | .and => 2
  | .or => 1
  | _ => 0

/-- These tokens do not go on with a phrase that only a grip of `n` and more can go on with. -/
def Ends (n : Nat) (rest : List Token) : Prop := ∀ token ∈ rest.head?, grip token < n

theorem Ends.mono {m n : Nat} {rest : List Token} (h : Ends m rest) (hmn : m ≤ n) : Ends n rest :=
  fun token htoken => Nat.lt_of_lt_of_le (h token htoken) hmn

theorem ends_cons {n : Nat} {token : Token} (h : grip token < n) (rest : List Token) :
    Ends n (token :: rest) := by
  intro token' htoken
  cases htoken
  exact h

section reads

variable {inside : Level} {e : Expr} {tokens rest : List Token}

theorem path_of_ends (h : Ends 4 rest) (rounds : Nat) :
    path inside rounds e rest = .ok (e, rest) := by
  cases rounds with
  | zero => rfl
  | succ rounds =>
    unfold path
    split
    · exact absurd (h .dot rfl) (by decide)
    · exact absurd (h .dot rfl) (by decide)
    · exact absurd (h .openBracket rfl) (by decide)
    · rfl

theorem chain_of_ends (connective : Token) {join : Expr → Expr → Expr} {link : Parser}
    (h : Ends (grip connective) rest) (rounds : Nat) :
    chain connective join link rounds e rest = .ok (e, rest) := by
  cases rounds with
  | zero => rfl
  | succ rounds =>
    cases rest with
    | nil => rfl
    | cons token rest =>
      rw [chain, if_neg]
      rintro rfl
      exact absurd (h token rfl) (Nat.lt_irrefl _)

/-- One round of a chain. -/
theorem chain_of_link {connective : Token} (join : Expr → Expr → Expr) {link : Parser}
    {rounds : Nat} {right : Expr} (e : Expr) (hlink : link tokens = .ok (right, rest))
    (hrounds : (connective :: tokens).length ≤ rounds) (hrest : rest.length ≤ tokens.length) :
    ∃ rounds', rest.length ≤ rounds' ∧ chain connective join link rounds e (connective :: tokens) =
      chain connective join link rounds' (join e right) rest := by
  cases rounds with
  | zero => exact absurd hrounds (by simp)
  | succ rounds =>
    refine ⟨rounds, ?_, ?_⟩
    · rw [List.length_cons] at hrounds
      omega
    · rw [chain, if_pos rfl, hlink]

end reads

end Expr

namespace Phrase

open SqlTemplate.Expr (Ends level chain ends_cons path_of_ends chain_of_ends chain_of_link)

/-- A phrase before these tokens is taken by the parser of its category with `n` levels inside. The
parser of a path or a chain has taken the phrase and goes on from there. -/
def ReadAt (n : Nat) (rest : List Token) : {k : Category} → Phrase k → Prop
  | .operand, p =>
    Ends 4 rest → Expr.operand (level n) (p.tokens ++ rest) = .ok (p.toExpr, rest)
  | .path, p =>
    ∃ rounds, rest.length ≤ rounds ∧
      Expr.operand (level n) (p.tokens ++ rest) = Expr.path (level n) rounds p.toExpr rest
  | .comparison, p =>
    Ends 3 rest → Expr.comparison (level n) (p.tokens ++ rest) = .ok (p.toExpr, rest)
  | .negation, p =>
    Ends 3 rest → Expr.negation (level n) (p.tokens ++ rest) = .ok (p.toExpr, rest)
  | .conjunction, p =>
    Ends 3 rest → ∃ rounds, rest.length ≤ rounds ∧
      Expr.conjunction (level n) (p.tokens ++ rest) =
        chain .and .and (Expr.negation (level n)) rounds p.toExpr rest
  | .disjunction, p =>
    Ends 2 rest → ∃ rounds, rest.length ≤ rounds ∧
      Expr.disjunction (level n) (p.tokens ++ rest) =
        chain .or .or (Expr.conjunction (level n)) rounds p.toExpr rest

variable {n : Nat} {rest : List Token}

theorem conjunction_of_readAt {p : Phrase .conjunction} (h : p.ReadAt n rest)
    (hrest : Ends 2 rest) :
    Expr.conjunction (level n) (p.tokens ++ rest) = .ok (p.toExpr, rest) := by
  obtain ⟨rounds, -, hp⟩ := h (hrest.mono (by decide))
  exact hp.trans (chain_of_ends .and hrest rounds)

theorem disjunction_of_readAt {p : Phrase .disjunction} (h : p.ReadAt n rest)
    (hrest : Ends 1 rest) :
    Expr.disjunction (level n) (p.tokens ++ rest) = .ok (p.toExpr, rest) := by
  obtain ⟨rounds, -, hp⟩ := h (hrest.mono (by decide))
  exact hp.trans (chain_of_ends .or hrest rounds)

/-- **A phrase is taken off the tokens** where there are levels enough. -/
theorem readAt {k : Category} (p : Phrase k) (n : Nat) (hn : p.nesting ≤ n) (rest : List Token) :
    p.ReadAt n rest := by
  induction p generalizing n rest with
  | null | int | decimal | text | minusInt | minusDecimal => exact fun _ => rfl
  | bool b => exact fun _ => by cases b <;> rfl
  | enclosed p ih =>
    intro _
    obtain ⟨m, rfl⟩ : ∃ m, n = m + 1 := ⟨n - 1, by rw [nesting] at hn; omega⟩
    have hinner := disjunction_of_readAt (ih m (Nat.le_of_succ_le_succ hn) (.closeParen :: rest))
      (ends_cons (by decide) rest)
    have htokens :
        (enclosed p).tokens ++ rest = .openParen :: (p.tokens ++ .closeParen :: rest) := by
      simp [tokens]
    rw [htokens, Expr.operand, level]
    dsimp only
    rw [hinner]
    rfl
  | path p ih =>
    intro hrest
    obtain ⟨rounds, -, hp⟩ := ih n hn rest
    exact hp.trans (path_of_ends hrest rounds)
  | name v h =>
    refine ⟨rest.length, Nat.le_refl _, ?_⟩
    rw [tokens, List.singleton_append, Expr.operand, Expr.constant?_eq_none_iff.2 h]
    rfl
  | property p v ih =>
    obtain ⟨rounds, hrounds, hp⟩ := ih n hn (.dot :: .name v :: rest)
    obtain ⟨rounds, rfl⟩ : ∃ r, rounds = r + 1 := ⟨rounds - 1, by simp at hrounds; omega⟩
    refine ⟨rounds, by simp at hrounds; omega, ?_⟩
    rw [tokens, List.append_assoc]
    exact hp
  | item p index ihp ihindex =>
    obtain ⟨hnp, hnindex⟩ := Nat.max_le.1 hn
    obtain ⟨m, rfl⟩ : ∃ m, n = m + 1 := ⟨n - 1, by omega⟩
    have hindex := disjunction_of_readAt
      (ihindex m (Nat.le_of_succ_le_succ hnindex) (.closeBracket :: rest))
      (ends_cons (by decide) rest)
    obtain ⟨rounds, hrounds, hp⟩ :=
      ihp (m + 1) hnp (.openBracket :: (index.tokens ++ .closeBracket :: rest))
    obtain ⟨rounds, rfl⟩ : ∃ r, rounds = r + 1 := ⟨rounds - 1, by simp at hrounds; omega⟩
    refine ⟨rounds, by simp at hrounds; omega, ?_⟩
    have htokens : (item p index).tokens ++ rest =
        p.tokens ++ .openBracket :: (index.tokens ++ .closeBracket :: rest) := by simp [tokens]
    rw [htokens, hp, Expr.path]
    conv_lhs => rw [level]
    dsimp only
    rw [hindex]
    rfl
  | operand p ih =>
    intro hrest
    rw [tokens, Expr.comparison, ih n hn rest (hrest.mono (by decide))]
    dsimp only [bind, Except.bind]
    split
    · next heq => cases heq; exact absurd (hrest _ rfl) (by simp [Expr.grip])
    · next heq => cases heq; rfl
  | compare c left right ihleft ihright =>
    intro hrest
    obtain ⟨hnleft, hnright⟩ := Nat.max_le.1 hn
    have hleft := ihleft n hnleft (.compare c :: (right.tokens ++ rest))
      (ends_cons (Nat.lt_succ_self 3) _)
    have hright := ihright n hnright rest (hrest.mono (by decide))
    rw [tokens, List.append_assoc, List.cons_append, Expr.comparison, hleft]
    dsimp only [bind, Except.bind]
    rw [hright]
    rfl
  | comparison p ih =>
    intro hrest
    have hp := ih n hn rest hrest
    rw [tokens, Expr.negation.eq_def]
    split
    · -- No comparison starts with a negation.
      next heq => rw [heq] at hp; cases hp
    · exact hp
  | not p ih =>
    intro hrest
    obtain ⟨m, rfl⟩ : ∃ m, n = m + 1 := ⟨n - 1, by rw [nesting] at hn; omega⟩
    have hp := ih m (Nat.le_of_succ_le_succ hn) rest hrest
    rw [tokens, List.cons_append, Expr.negation, level]
    dsimp only
    rw [hp]
    rfl
  | negation p ih =>
    intro hrest
    refine ⟨rest.length, Nat.le_refl _, ?_⟩
    rw [tokens, Expr.conjunction, ih n hn rest hrest]
    rfl
  | and p q ihp ihq =>
    intro hrest
    obtain ⟨hnp, hnq⟩ := Nat.max_le.1 hn
    obtain ⟨rounds, hrounds, hp⟩ :=
      ihp n hnp (.and :: (q.tokens ++ rest)) (ends_cons (by decide) _)
    obtain ⟨rounds', hrounds', hchain⟩ :=
      chain_of_link .and p.toExpr (ihq n hnq rest hrest) hrounds (by simp)
    refine ⟨rounds', hrounds', ?_⟩
    rw [tokens, List.append_assoc]
    exact hp.trans hchain
  | conjunction p ih =>
    intro hrest
    refine ⟨rest.length, Nat.le_refl _, ?_⟩
    rw [tokens, Expr.disjunction, conjunction_of_readAt (ih n hn rest) hrest]
    rfl
  | or p q ihp ihq =>
    intro hrest
    obtain ⟨hnp, hnq⟩ := Nat.max_le.1 hn
    obtain ⟨rounds, hrounds, hp⟩ :=
      ihp n hnp (.or :: (q.tokens ++ rest)) (ends_cons (by decide) _)
    obtain ⟨rounds', hrounds', hchain⟩ :=
      chain_of_link .or p.toExpr (conjunction_of_readAt (ihq n hnq rest) hrest)
        hrounds (by simp)
    refine ⟨rounds', hrounds', ?_⟩
    rw [tokens, List.append_assoc]
    exact hp.trans hchain

end Phrase

/-! ## Parsing -/

/-- **What parses are the phrases.** Tokens parse to an expression exactly if they are those of a
phrase that stands for it and is nested at most `maxNesting` deep. -/
theorem Expr.parse_eq_ok_iff {tokens : List Token} {e : Expr} :
    parse tokens = .ok e ↔
      ∃ p : Phrase .disjunction, p.tokens = tokens ∧ p.nesting ≤ maxNesting ∧ p.toExpr = e := by
  constructor
  · intro h
    obtain ⟨⟨e', rest⟩, he, h⟩ := exists_of_bind_eq_ok h
    cases rest with
    | cons token rest => cases h
    | nil =>
      cases h
      obtain ⟨p, hp, hexpr, htokens⟩ := (yields_level (maxNesting + 1)).1 _ _ _ he
      exact ⟨p, by rwa [List.append_nil] at htokens, Nat.le_of_lt_succ hp, hexpr⟩
  · rintro ⟨p, rfl, hp, rfl⟩
    have hread := Phrase.disjunction_of_readAt (p.readAt maxNesting hp []) nofun
    rw [List.append_nil] at hread
    rw [parse, level]
    dsimp only
    rw [hread]
    rfl

end SqlTemplate
