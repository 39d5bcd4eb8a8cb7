import SqlTemplate.Proofs.Expr.Path
import SqlTemplate.Proofs.Expr.Spelling
import SqlTemplate.Proofs.Schema.Conformance
import SqlTemplate.Proofs.Schema.Segment

/-!
# The text of a path

A path is read twice: a schema cuts it at its dots and brackets (`Segment.ofPath`), and an engine
takes it as an expression. `pathChars` is the text of segments that have a name and at most one
index, a number of 63 bits.

**Theorem (`ofPath_pathChars`).** A schema finds the segments in their text.

**Theorem (`evalText_pathChars`).** As an expression, the text takes the steps of the segments one
after another, from the value of the first name.
-/

namespace SqlTemplate

namespace Segment

/-! ## Segments as text -/

/-- The text of a path: its segments with dots between them. -/
def pathChars (first : Segment) (rest : List Segment) : List Char :=
  first.toChars ++ rest.flatMap fun s => '.' :: s.toChars

/-- A name, with at most one index, a number of 63 bits. -/
structure IsPlain (s : Segment) : Prop where
  name : Expr.IsName s.name
  digits : ∀ index ∈ s.index, index.toList ≠ [] ∧ ∀ c ∈ index.toList, c.isDigit
  bound : ∀ index ∈ s.index, Nat.ofDigitChars 10 index.toList 0 < 2 ^ 63

variable {first s : Segment} {rest : List Segment}

theorem pathChars_cons (first s : Segment) (rest : List Segment) :
    pathChars first (s :: rest) = first.toChars ++ '.' :: pathChars s rest := by
  simp [pathChars]

theorem IsPlain.continuesName (hs : s.IsPlain) {c : Char} (hc : c ∈ s.name.toList) :
    Token.continuesName c := Token.continuesName_of_mem hs.name.identifier hc

/-- A segment is made of characters of names and brackets. -/
theorem IsPlain.mem_toChars (hs : s.IsPlain) {c : Char} (hc : c ∈ s.toChars) :
    Token.continuesName c ∨ c = '[' ∨ c = ']' := by
  obtain ⟨name, index⟩ := s
  rcases List.mem_append.1 hc with hc | hc
  · exact .inl (hs.continuesName hc)
  · cases index with
    | none => cases hc
    | some index =>
      rcases List.mem_cons.1 hc with rfl | hc
      · exact .inr (.inl rfl)
      · rcases List.mem_append.1 hc with hc | hc
        · exact .inl (Token.continuesName_of_isDigit ((hs.digits index rfl).2 c hc))
        · exact .inr (.inr (List.mem_singleton.1 hc))

/-- No dot or bracket stands in a name or in the digits of an index. -/
theorem IsPlain.isSeparable (hs : s.IsPlain) : s.IsSeparable := by
  have hname {c : Char} (hc : Token.continuesName c = false) : c ∉ s.name.toList := fun hmem =>
    absurd (hs.continuesName hmem) (by simp [hc])
  have hindex {index : String} (hmem : index ∈ s.index) {c : Char} (hc : c.isDigit = false) :
      c ∉ index.toList := fun hdigit => absurd ((hs.digits index hmem).2 c hdigit) (by simp [hc])
  refine ⟨hname (by decide), hname (by decide), fun index hmem => hindex hmem (by decide), ?_⟩
  exact fun index hmem hlast => hindex hmem (by decide) (List.mem_of_getLast? hlast)

theorem ofList_pathChars (first : Segment) (rest : List Segment) :
    String.ofList (pathChars first rest) = toPath (first :: rest) := by
  rw [← String.toList_inj, String.toList_ofList, toList_toPath]
  induction rest generalizing first with
  | nil => simp [pathChars]
  | cons s rest ih => rw [pathChars_cons, ih]; simp

/-- **A schema finds the segments in their text.** -/
theorem ofPath_pathChars (hfirst : first.IsPlain) (hrest : ∀ s ∈ rest, s.IsPlain) :
    ofPath (String.ofList (pathChars first rest)) = first :: rest := by
  rw [ofList_pathChars]
  refine ofPath_toPath (List.cons_ne_nil first rest) ?_
  exact List.forall_mem_cons.2 ⟨hfirst.isSeparable, fun s hs => (hrest s hs).isSeparable⟩

/-! ## Segments as tokens -/

/-- The tokens of an index. -/
def indexTokens (s : Segment) : List Token :=
  s.index.elim [] fun index => [.openBracket, .int (place index), .closeBracket]

/-- The tokens of a path. -/
def pathTokens (first : Segment) (rest : List Segment) : List Token :=
  .name first.name :: first.indexTokens ++
    rest.flatMap fun s => .dot :: .name s.name :: s.indexTokens

theorem ofCharsFrom_toChars (total : Nat) (hs : s.IsPlain) {after : List Char}
    (hafter : ∀ c ∈ after.head?, Token.continuesName c = false) :
    Token.ofCharsFrom total (s.toChars ++ after) =
      (Token.ofCharsFrom total after).map (.name s.name :: s.indexTokens ++ ·) := by
  have hword := hs.name.noConnective
  obtain ⟨name, index⟩ := s
  cases index with
  | none =>
    rw [toChars, Option.elim_none, List.append_nil,
      Token.ofCharsFrom_identifier total hs.name.identifier hafter, String.ofList_toList, hword]
    rfl
  | some index =>
    have hnumber : Token.Spelled (.int (place index)) index.toList :=
      .int (hs.digits index rfl) (hs.bound index rfl)
    have hends : ∀ c ∈ (']' :: after).head?, Token.endsToken c := by
      rintro c ⟨⟩
      decide +kernel
    rw [toChars, Option.elim_some, List.append_assoc, List.cons_append, List.append_assoc,
      List.singleton_append, Token.ofCharsFrom_identifier total hs.name.identifier
        (by rintro c ⟨⟩; decide), String.ofList_toList, hword,
      Token.ofCharsFrom_of_take total (by decide) rfl,
      Token.ofCharsFrom_append (Token.ofCharsFrom_of_spelled hnumber total) hends,
      Token.ofCharsFrom_of_take total (by decide) rfl]
    cases Token.ofCharsFrom total after <;> rfl

theorem ofCharsFrom_pathChars (total : Nat) (hfirst : first.IsPlain)
    (hrest : ∀ s ∈ rest, s.IsPlain) :
    Token.ofCharsFrom total (pathChars first rest) = .ok (pathTokens first rest) := by
  induction rest generalizing first with
  | nil =>
    rw [pathChars, List.flatMap_nil, ofCharsFrom_toChars total hfirst (by simp),
      Token.ofCharsFrom_nil]
    rfl
  | cons s rest ih =>
    obtain ⟨hs, hrest⟩ := List.forall_mem_cons.1 hrest
    rw [pathChars_cons, ofCharsFrom_toChars total hfirst (by rintro c ⟨⟩; decide),
      Token.ofCharsFrom_of_take total (by decide) rfl, ih hs hrest]
    simp [Except.map, pathTokens]

/-! ## Segments as a phrase -/

/-- A path with the index of a segment after it. -/
def withIndex (s : Segment) (p : Phrase .path) : Phrase .path :=
  s.index.elim p fun index =>
    .item p (.conjunction (.negation (.comparison (.operand (.int (place index))))))

/-- A path with a segment after it. -/
def step (p : Phrase .path) (s : Segment) : Phrase .path := s.withIndex (.property p s.name)

variable {p : Phrase .path} {scope : Scope}

theorem tokens_withIndex (s : Segment) (p : Phrase .path) :
    (s.withIndex p).tokens = p.tokens ++ s.indexTokens := by
  obtain ⟨name, index⟩ := s
  cases index with
  | none => exact (List.append_nil _).symm
  | some index => exact List.append_assoc p.tokens _ _

theorem nesting_withIndex (s : Segment) (hp : p.nesting ≤ 1) : (s.withIndex p).nesting ≤ 1 := by
  obtain ⟨name, index⟩ := s
  cases index with
  | none => exact hp
  | some index => exact Nat.max_le.2 ⟨hp, Nat.le_refl 1⟩

theorem eval_withIndex (s : Segment) (p : Phrase .path) :
    (s.withIndex p).toExpr.eval scope = p.toExpr.eval scope >>= s.itemOf := by
  obtain ⟨name, index⟩ := s
  cases index with
  | none => exact (bind_pure _).symm
  | some index => rfl

theorem tokens_steps (rest : List Segment) (p : Phrase .path) :
    (rest.foldl step p).tokens =
      p.tokens ++ rest.flatMap fun s => .dot :: .name s.name :: s.indexTokens := by
  induction rest generalizing p with
  | nil => exact (List.append_nil _).symm
  | cons s rest ih =>
    rw [List.foldl_cons, ih, step, tokens_withIndex]
    simp [Phrase.tokens]

theorem nesting_steps (rest : List Segment) (hp : p.nesting ≤ 1) :
    (rest.foldl step p).nesting ≤ 1 := by
  induction rest generalizing p with
  | nil => exact hp
  | cons s rest ih =>
    have hproperty : (Phrase.property p s.name).nesting ≤ 1 := hp
    exact ih (nesting_withIndex s hproperty)

theorem eval_steps (rest : List Segment) (p : Phrase .path) :
    (rest.foldl step p).toExpr.eval scope = p.toExpr.eval scope >>= rest.foldlM stepInto := by
  induction rest generalizing p with
  | nil => exact (bind_pure _).symm
  | cons s rest ih =>
    rw [List.foldl_cons, ih, step, eval_withIndex]
    cases heval : p.toExpr.eval scope with
    | error fault => simp [Phrase.toExpr, Expr.eval, heval, bind, Except.bind]
    | ok v => simp [Phrase.toExpr, Expr.eval, heval, bind, Except.bind, stepInto]

/-- **As an expression, a path takes the steps of its segments.** -/
theorem evalText_pathChars (hfirst : first.IsPlain) (hrest : ∀ s ∈ rest, s.IsPlain)
    (scope : Scope) :
    Expr.evalText (String.ofList (pathChars first rest)) scope =
      first.itemOf ((scope first.name).getD .null) >>= rest.foldlM stepInto := by
  let base : Phrase .path :=
    first.withIndex (.name first.name (Expr.constant?_eq_none_iff.1 hfirst.name.noConstant))
  have hbase : base.nesting ≤ 1 := nesting_withIndex first (Nat.zero_le 1)
  have htokens : (rest.foldl step base).tokens = pathTokens first rest := by
    rw [tokens_steps, tokens_withIndex]
    rfl
  have hparse : Expr.parse (pathTokens first rest) = .ok (rest.foldl step base).toExpr := by
    exact Expr.parse_eq_ok_iff.2
      ⟨.conjunction (.negation (.comparison (.operand (.path (rest.foldl step base))))), htokens,
        Nat.le_trans (nesting_steps rest hbase) (by decide), rfl⟩
  have htext :
      Token.ofText (String.ofList (pathChars first rest)) = .ok (pathTokens first rest) := by
    rw [Token.ofText, String.toList_ofList]
    exact ofCharsFrom_pathChars _ hfirst hrest
  rw [Expr.evalText_of_tokens htext, Expr.evalTokens, hparse]
  dsimp only
  rw [eval_steps, eval_withIndex]
  rfl

end Segment

end SqlTemplate
