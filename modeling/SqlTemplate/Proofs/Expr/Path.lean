import SqlTemplate.Expr.Parser
import SqlTemplate.Proofs.Expr.Name
import SqlTemplate.Proofs.Fallible

/-!
# Paths with another name at their base

A path is a name with steps to properties and to items at literal indexes. What it stands for
depends on the scope only through the name at its base.

**Theorem (`evalText_rebase`).** Let a text parse to a path that starts with a name, and put another
name in its place. If the two names stand for the same value, each in its own scope, so do the two
texts.

The relation `SamePath` holds between paths that differ at their base. Each parser of the grammar
carries it along: what it makes of the tokens after the name does not depend on the name.
-/

namespace SqlTemplate.Expr

/-- Whether an expression is a name with steps to properties and to items at literal indexes. -/
def IsPath : Expr → Prop
  | name _ => True
  | property e _ => e.IsPath
  | item e (literal _) => e.IsPath
  | _ => False

/-- Expressions that take the same steps, one from the name `v` and one from the name `n`. -/
inductive SamePath (v n : String) : Expr → Expr → Prop
  | name : SamePath v n (name v) (name n)
  | property {e e' : Expr} (p : String) :
      SamePath v n e e' → SamePath v n (property e p) (property e' p)
  | item {e e' : Expr} (index : Expr) :
      SamePath v n e e' → SamePath v n (item e index) (item e' index)

variable {v n : String} {e e' left r : Expr} {tokens rest : List Token} {inside : Level}

/-! ## The parsers carry paths along -/

/-- Steps do not depend on where they start. -/
theorem path_of_samePath {rounds : Nat} (h : SamePath v n e e')
    (hp : path inside rounds e tokens = .ok (r, rest)) :
    ∃ r', path inside rounds e' tokens = .ok (r', rest) ∧ SamePath v n r r' := by
  induction rounds generalizing e e' tokens with
  | zero =>
    cases hp
    exact ⟨e', rfl, h⟩
  | succ rounds ih =>
    unfold path at hp
    split at hp
    · rw [path]
      exact ih (h.property _) hp
    · cases hp
    · rw [path]
      cases hindex : inside.disjunction _ with
      | error b => rw [hindex] at hp; cases hp
      | ok result =>
        rw [hindex] at hp
        split at hp
        · cases hp
        · next heq => cases heq; exact ih (h.item _) hp
        · cases hp
    · next hname hdot hbracket =>
      cases hp
      refine ⟨e', ?_, h⟩
      rw [path]
      · exact hname
      · exact hdot
      · exact hbracket

theorem operand_of_name (hv : constant? v = none) (hn : constant? n = none)
    (hp : operand inside (.name v :: tokens) = .ok (r, rest)) :
    ∃ r', operand inside (.name n :: tokens) = .ok (r', rest) ∧ SamePath v n r r' := by
  rw [operand, hv] at hp
  rw [operand, hn]
  exact path_of_samePath .name hp

/-- A parser that, wherever it takes a path, takes the same steps from another name. -/
def CarriesPaths (v n : String) (p : Parser) : Prop :=
  ∀ tokens r rest, p (.name v :: tokens) = .ok (r, rest) → r.IsPath →
    ∃ r', p (.name n :: tokens) = .ok (r', rest) ∧ SamePath v n r r'

theorem comparison_of_name (hv : constant? v = none) (hn : constant? n = none) :
    CarriesPaths v n (comparison inside) := by
  intro tokens r rest hp hr
  rw [comparison] at hp ⊢
  obtain ⟨⟨left, after⟩, hleft, hp⟩ := exists_of_bind_eq_ok hp
  obtain ⟨left', hleft', hsame⟩ := operand_of_name hv hn hleft
  rw [hleft']
  dsimp only [bind, Except.bind] at hp ⊢
  split at hp
  · split at hp
    · cases hp
    · cases hp; cases hr
  · next hstop heq =>
    cases heq
    cases hp
    refine ⟨left', ?_, hsame⟩
    split
    · next heq => cases heq; exact absurd rfl (hstop _ _)
    · next heq => cases heq; rfl

/-- A chain gives its first link back, or a connective. -/
theorem chain_cases {connective : Token} {join : Expr → Expr → Expr} {link : Parser} {rounds : Nat}
    (h : chain connective join link rounds left tokens = .ok (r, rest)) :
    r = left ∨ ∃ a b, r = join a b := by
  induction rounds generalizing left tokens with
  | zero => cases h; exact .inl rfl
  | succ rounds ih =>
    unfold chain at h
    split at h
    · cases h; exact .inl rfl
    · split at h
      · split at h
        · cases h
        · rcases ih h with rfl | h
          · exact .inr ⟨_, _, rfl⟩
          · exact .inr h
      · cases h; exact .inl rfl

/-- A chain that gives a path is a single link. -/
theorem chain_of_isPath {connective : Token} {join : Expr → Expr → Expr} {link : Parser}
    {rounds : Nat} (hjoin : ∀ a b, ¬ (join a b).IsPath)
    (h : chain connective join link rounds left tokens = .ok (r, rest)) (hr : r.IsPath) :
    r = left ∧ ∀ left', chain connective join link rounds left' tokens = .ok (left', rest) := by
  cases rounds with
  | zero => cases h; exact ⟨rfl, fun _ => rfl⟩
  | succ rounds =>
    cases tokens with
    | nil => cases h; exact ⟨rfl, fun _ => rfl⟩
    | cons token more =>
      rw [chain] at h
      split at h
      · split at h
        · cases h
        · rcases chain_cases h with rfl | ⟨a, b, rfl⟩
          · exact absurd hr (hjoin _ _)
          · exact absurd hr (hjoin a b)
      · next hne =>
        cases h
        exact ⟨rfl, fun left' => by rw [chain, if_neg hne]⟩

/-- Chains of links carry paths if their links do. -/
theorem CarriesPaths.chain {link link' : Parser} {connective : Token}
    {join : Expr → Expr → Expr} (h : CarriesPaths v n link) (hjoin : ∀ a b, ¬ (join a b).IsPath) :
    CarriesPaths v n fun tokens => link tokens >>= fun (e, rest) =>
      Expr.chain connective join link' rest.length e rest := by
  intro tokens r rest hp hr
  obtain ⟨⟨left, after⟩, hleft, hp⟩ := exists_of_bind_eq_ok hp
  obtain ⟨rfl, hchain⟩ := chain_of_isPath hjoin hp hr
  obtain ⟨left', hleft', hsame⟩ := h tokens r after hleft hr
  refine ⟨left', ?_, hsame⟩
  dsimp only
  rw [hleft']
  exact hchain left'

/-- **Parsing carries paths along.** -/
theorem parse_of_name (hv : constant? v = none) (hn : constant? n = none)
    (hp : parse (.name v :: tokens) = .ok r) (hr : r.IsPath) :
    ∃ r', parse (.name n :: tokens) = .ok r' ∧ SamePath v n r r' := by
  have hnegation : CarriesPaths v n (negation (level maxNesting)) := comparison_of_name hv hn
  have hconjunction : CarriesPaths v n (conjunction (level maxNesting)) :=
    hnegation.chain fun a b (h : (Expr.and a b).IsPath) => h
  have hdisjunction : CarriesPaths v n (level (maxNesting + 1)).disjunction :=
    hconjunction.chain fun a b (h : (Expr.or a b).IsPath) => h
  obtain ⟨⟨e, rest⟩, he, hp⟩ := exists_of_bind_eq_ok hp
  cases rest with
  | cons token rest => cases hp
  | nil =>
    cases hp
    obtain ⟨r', hr', hsame⟩ := hdisjunction tokens r [] he hr
    refine ⟨r', ?_, hsame⟩
    rw [parse, hr']
    rfl

/-! ## The values of paths -/

/-- Paths with the same steps have the same value if their names have. -/
theorem SamePath.eval {scope scope' : Scope} (h : SamePath v n e e') (he : e.IsPath)
    (hscope : scope v = scope' n) : e.eval scope = e'.eval scope' := by
  induction h with
  | name => rw [Expr.eval, Expr.eval, hscope]
  | property p _ ih => rw [Expr.eval, Expr.eval, ih he]
  | item index _ ih =>
    cases index with
    | literal value =>
      rw [Expr.eval, Expr.eval, ih he]
      rfl
    | _ => cases he

/-! ## The values of texts -/

/-- A name that an expression can refer to: an identifier that is no connective and no constant. -/
structure IsName (name : String) : Prop where
  identifier : Token.isIdentifier name.toList
  noConnective : Token.ofWord name = .name name
  noConstant : constant? name = none

/-- Whether a text is a path as an expression. -/
def IsPathText (text : String) : Prop :=
  ∃ tokens e, Token.ofText text = .ok tokens ∧ parse tokens = .ok e ∧ e.IsPath

/-- A name at the start of a text, after spaces, is its first token. -/
theorem ofText_of_name {spaces after : List Char} (total : Nat) (hv : IsName v)
    (hspaces : ∀ c ∈ spaces, Text.isSpace c)
    (hafter : ∀ c ∈ after.head?, Token.continuesName c = false) :
    Token.ofCharsFrom total (spaces ++ (v.toList ++ after)) =
      (Token.ofCharsFrom total after).map (.name v :: ·) := by
  rw [Token.ofCharsFrom_spaces total hspaces,
    Token.ofCharsFrom_identifier total hv.identifier hafter, String.ofList_toList, hv.noConnective]

/-- **A path means the same with another name for the same value.** -/
theorem evalText_rebase {spaces after : List Char} {scope scope' : Scope} (hv : IsName v)
    (hn : IsName n) (hspaces : ∀ c ∈ spaces, Text.isSpace c)
    (hafter : ∀ c ∈ after.head?, Token.continuesName c = false)
    (hpath : IsPathText (String.ofList (spaces ++ (v.toList ++ after))))
    (hscope : scope v = scope' n) :
    evalText (String.ofList (spaces ++ (v.toList ++ after))) scope =
      evalText (String.ofList (n.toList ++ after)) scope' := by
  obtain ⟨tokens, e, htokens, he, hpath⟩ := hpath
  have htext := htokens
  rw [Token.ofText, String.toList_ofList, ofText_of_name _ hv hspaces hafter] at htokens
  cases hrest : Token.ofCharsFrom _ after with
  | error fault => rw [hrest] at htokens; cases htokens
  | ok rest =>
    rw [hrest] at htokens
    cases htokens
    obtain ⟨e', he', hsame⟩ := parse_of_name hv.noConstant hn.noConstant he hpath
    have htext' : Token.ofText (String.ofList (n.toList ++ after)) = .ok (.name n :: rest) := by
      rw [Token.ofText, String.toList_ofList,
        ← List.nil_append (n.toList ++ after), ofText_of_name _ hn (List.forall_mem_nil _) hafter,
        Token.ofCharsFrom_of_ok hrest]
      rfl
    rw [evalText, evalText, htext, htext']
    dsimp only [bind, Except.bind]
    rw [he, he']
    exact hsame.eval hpath hscope

end SqlTemplate.Expr
