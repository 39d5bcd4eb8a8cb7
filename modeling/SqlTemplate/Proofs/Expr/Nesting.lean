import SqlTemplate.Proofs.Expr.Grammar

/-!
# Nesting

The tokens of an expression open and close: a parenthesis or bracket is open until it is closed, and
a negation until a connective or a closing token ends its operand. `Token.opened` says what is open
after tokens.

**Theorem (`peak_tokens`).** The nesting of a phrase is the most that is open on the way through its
tokens, and at its end nothing is left open but negations (`exists_opened_tokens`).

**Theorem (`overrun`).** A phrase that is nested deeper than there are levels does not parse, and
the fault is its nesting.
-/

namespace SqlTemplate

/-! ## What tokens leave open -/

namespace Token

/-- Ends the negations that were opened last. -/
def endNots : List Token → List Token
  | .not :: stack => endNots stack
  | stack => stack

/-- What is open after one more token; the last opening stands first. -/
def opening (stack : List Token) : Token → List Token
  | .not => .not :: stack
  | .openParen => .openParen :: stack
  | .openBracket => .openBracket :: stack
  | .and | .or => endNots stack
  | .closeParen | .closeBracket => (endNots stack).tail
  | _ => stack

/-- What is open after more tokens. -/
def opened (stack tokens : List Token) : List Token := tokens.foldl opening stack

/-- How much is open at most on the way through more tokens. -/
def peak (stack : List Token) : List Token → Nat
  | [] => stack.length
  | token :: rest => max stack.length (peak (opening stack token) rest)

/-- Negations inside what was open before. -/
def inNots (n : Nat) (stack : List Token) : List Token := List.replicate n .not ++ stack

variable {stack xs : List Token} {n : Nat}

theorem endNots_eq (h : stack.head? ≠ some .not) : endNots stack = stack := by
  unfold endNots
  split
  · exact absurd rfl h
  · rfl

theorem endNots_inNots (h : stack.head? ≠ some .not) (n : Nat) :
    endNots (inNots n stack) = stack := by
  induction n with
  | zero => exact endNots_eq h
  | succ n ih => exact ih

/-- Connectives end the negations that were opened last. -/
theorem opening_and (h : stack.head? ≠ some .not) (n : Nat) :
    opening (inNots n stack) .and = stack := endNots_inNots h n

theorem opening_or (h : stack.head? ≠ some .not) (n : Nat) :
    opening (inNots n stack) .or = stack := endNots_inNots h n

/-- A closing token ends the negations that were opened last, and the opening around them. -/
theorem opening_close {first last : Token} (hnot : first ≠ .not)
    (hlast : ∀ s, opening s last = (endNots s).tail) (n : Nat) (stack : List Token) :
    opening (inNots n (first :: stack)) last = stack := by
  rw [hlast, endNots_inNots (by simpa using hnot)]
  rfl

theorem opened_append (stack xs ys : List Token) :
    opened stack (xs ++ ys) = opened (opened stack xs) ys := List.foldl_append

theorem opened_cons (stack : List Token) (token : Token) (rest : List Token) :
    opened stack (token :: rest) = opened (opening stack token) rest := rfl

theorem length_le_peak (stack xs : List Token) : stack.length ≤ peak stack xs := by
  cases xs with
  | nil => exact Nat.le_refl _
  | cons x xs => exact Nat.le_max_left _ _

theorem length_opened_le_peak (stack xs : List Token) :
    (opened stack xs).length ≤ peak stack xs := by
  induction xs generalizing stack with
  | nil => exact Nat.le_refl _
  | cons x xs ih => exact Nat.le_trans (ih _) (Nat.le_max_right _ _)

theorem peak_append (stack xs ys : List Token) :
    peak stack (xs ++ ys) = max (peak stack xs) (peak (opened stack xs) ys) := by
  induction xs generalizing stack with
  | nil => exact (Nat.max_eq_right (length_le_peak stack ys)).symm
  | cons x xs ih =>
    rw [List.cons_append, peak, ih, peak, Nat.max_assoc]
    rfl

section between

variable (first last : Token) (hfirst : opening stack first = first :: stack)
  (hnot : first ≠ .not) (hlast : ∀ s, opening s last = (endNots s).tail)
  (hxs : opened (first :: stack) xs = inNots n (first :: stack))
include hfirst hnot hlast hxs

/-- Between an opening and a closing token, what is left open is closed. -/
theorem opened_between : opened stack (first :: xs ++ [last]) = stack := by
  rw [List.cons_append, opened_cons, opened_append, hfirst, hxs, opened_cons,
    opening_close hnot hlast]
  rfl

theorem peak_between :
    peak stack (first :: xs ++ [last]) = peak (first :: stack) xs := by
  have hle := length_opened_le_peak (first :: stack) xs
  have hstack := length_le_peak (first :: stack) xs
  rw [hxs] at hle
  rw [List.length_cons] at hstack
  rw [List.cons_append, peak, peak_append, hfirst, hxs, peak, peak, opening_close hnot hlast]
  omega

end between

section joined

variable {connective : Token} (hconnective : opening (inNots n stack) connective = stack)
  (hxs : opened stack xs = inNots n stack)
include hconnective hxs

/-- After a connective, what its left operand leaves open has ended. -/
theorem opened_joined (ys : List Token) :
    opened stack (xs ++ connective :: ys) = opened stack ys := by
  rw [opened_append, hxs, opened_cons, hconnective]

theorem peak_joined (ys : List Token) :
    peak stack (xs ++ connective :: ys) = max (peak stack xs) (peak stack ys) := by
  have hle := length_opened_le_peak stack xs
  rw [hxs] at hle
  rw [peak_append, hxs, peak, hconnective, ← Nat.max_assoc, Nat.max_eq_left hle]

end joined

end Token

open Token (opening opened peak inNots)

/-! ## Phrases -/

namespace Category

/-- Where a phrase may start: a chain does not start directly inside a negation. -/
def Starts (stack : List Token) : Category → Prop
  | .conjunction | .disjunction => stack.head? ≠ some .not
  | _ => True

/-- Whether the phrases close all that they open. The others may end inside negations. -/
def isClosed : Category → Bool
  | .operand | .path | .comparison => true
  | _ => false

theorem starts_inside (first : Token) (stack : List Token) (h : first ≠ .not) :
    disjunction.Starts (first :: stack) := by
  simpa [Starts] using h

theorem of_not_isClosed {k : Category} {P : Prop} (h : k.isClosed = false) (hclosed : k.isClosed) :
    P :=
  absurd (h.symm.trans hclosed) Bool.false_ne_true

end Category

namespace Phrase

variable {k : Category}

/-- A phrase leaves nothing open but negations that it ends in. -/
theorem exists_opened_tokens (p : Phrase k) (stack : List Token) (h : k.Starts stack) :
    ∃ n, opened stack p.tokens = inNots n stack ∧ (k.isClosed → n = 0) := by
  induction p generalizing stack with
  | null | int | decimal | text | minusInt | minusDecimal | name => exact ⟨0, rfl, fun _ => rfl⟩
  | bool b => exact ⟨0, by cases b <;> rfl, fun _ => rfl⟩
  | enclosed p ih =>
    obtain ⟨n, hn, -⟩ := ih (.openParen :: stack) (Category.starts_inside _ stack (by simp))
    refine ⟨0, ?_, fun _ => rfl⟩
    exact Token.opened_between .openParen .closeParen rfl (by simp) (fun _ => rfl) hn
  | path p ih | operand p ih => exact ih stack trivial
  | property p name ih =>
    obtain ⟨n, hn, hclosed⟩ := ih stack trivial
    obtain rfl := hclosed rfl
    exact ⟨0, Token.opened_joined rfl hn _, fun _ => rfl⟩
  | item p index ihp ihindex =>
    obtain ⟨n, hn, hclosed⟩ := ihp stack trivial
    obtain rfl := hclosed rfl
    obtain ⟨m, hm, -⟩ := ihindex (.openBracket :: stack) (Category.starts_inside _ stack (by simp))
    refine ⟨0, ?_, fun _ => rfl⟩
    rw [tokens, List.append_assoc, Token.opened_append, hn]
    exact Token.opened_between .openBracket .closeBracket rfl (by simp) (fun _ => rfl) hm
  | compare c left right ihleft ihright =>
    obtain ⟨n, hn, hclosed⟩ := ihleft stack trivial
    obtain rfl := hclosed rfl
    obtain ⟨m, hm, hclosed'⟩ := ihright stack trivial
    exact ⟨m, (Token.opened_joined rfl hn _).trans hm, fun _ => hclosed' rfl⟩
  | comparison p ih | negation p ih =>
    obtain ⟨n, hn, -⟩ := ih stack trivial
    exact ⟨n, hn, Category.of_not_isClosed rfl⟩
  | not p ih =>
    obtain ⟨n, hn, -⟩ := ih (.not :: stack) trivial
    refine ⟨n + 1, ?_, Category.of_not_isClosed rfl⟩
    rw [tokens, Token.opened_cons, opening, hn]
    simp [inNots, List.replicate_succ']
  | conjunction p ih =>
    obtain ⟨n, hn, -⟩ := ih stack h
    exact ⟨n, hn, Category.of_not_isClosed rfl⟩
  | and p q ihp ihq =>
    obtain ⟨n, hn, -⟩ := ihp stack h
    obtain ⟨m, hm, -⟩ := ihq stack trivial
    refine ⟨m, ?_, Category.of_not_isClosed rfl⟩
    exact (Token.opened_joined (Token.opening_and h n) hn _).trans hm
  | or p q ihp ihq =>
    obtain ⟨n, hn, -⟩ := ihp stack h
    obtain ⟨m, hm, -⟩ := ihq stack h
    refine ⟨m, ?_, Category.of_not_isClosed rfl⟩
    exact (Token.opened_joined (Token.opening_or h n) hn _).trans hm

/-- **The nesting of a phrase** is how much is open at most on the way through its tokens. -/
theorem peak_tokens (p : Phrase k) (stack : List Token) (h : k.Starts stack) :
    peak stack p.tokens = stack.length + p.nesting := by
  induction p generalizing stack with
  | null | int | decimal | text | minusInt | minusDecimal | name =>
    simp [tokens, nesting, peak, opening]
  | bool b => cases b <;> simp [tokens, nesting, peak, opening]
  | path p ih | operand p ih | comparison p ih | negation p ih => exact ih stack trivial
  | conjunction p ih => exact ih stack h
  | enclosed p ih =>
    have hstarts : Category.disjunction.Starts (.openParen :: stack) :=
      Category.starts_inside _ stack (by simp)
    obtain ⟨n, hn, -⟩ := p.exists_opened_tokens _ hstarts
    have hinner : peak stack (.openParen :: p.tokens ++ [.closeParen]) =
        (Token.openParen :: stack).length + p.nesting :=
      (Token.peak_between .openParen .closeParen rfl (by simp) (fun _ => rfl) hn).trans
        (ih _ hstarts)
    rw [tokens, hinner, nesting, List.length_cons]
    omega
  | property p name ih =>
    obtain ⟨n, hn, hclosed⟩ := p.exists_opened_tokens stack trivial
    obtain rfl := hclosed rfl
    rw [tokens, Token.peak_joined rfl hn, ih stack trivial, nesting]
    simp [peak, opening]
  | item p index ihp ihindex =>
    have hstarts : Category.disjunction.Starts (.openBracket :: stack) :=
      Category.starts_inside _ stack (by simp)
    obtain ⟨n, hn, hclosed⟩ := p.exists_opened_tokens stack trivial
    obtain rfl := hclosed rfl
    obtain ⟨m, hm, -⟩ := index.exists_opened_tokens _ hstarts
    have hindex : peak stack (.openBracket :: index.tokens ++ [.closeBracket]) =
        (Token.openBracket :: stack).length + index.nesting :=
      (Token.peak_between .openBracket .closeBracket rfl (by simp) (fun _ => rfl) hm).trans
        (ihindex _ hstarts)
    rw [tokens, List.append_assoc, Token.peak_append, ihp stack trivial, hn]
    refine (congrArg (max _) hindex).trans ?_
    rw [nesting, List.length_cons]
    omega
  | compare c left right ihleft ihright =>
    obtain ⟨n, hn, hclosed⟩ := left.exists_opened_tokens stack trivial
    obtain rfl := hclosed rfl
    rw [tokens, Token.peak_joined rfl hn, ihleft stack trivial, ihright stack trivial, nesting,
      Nat.add_max_add_left]
  | not p ih =>
    rw [tokens, peak, opening, ih (.not :: stack) trivial, nesting, List.length_cons]
    omega
  | and p q ihp ihq =>
    obtain ⟨n, hn, -⟩ := p.exists_opened_tokens stack h
    rw [tokens, Token.peak_joined (Token.opening_and h n) hn, ihp stack h, ihq stack trivial,
      nesting, Nat.add_max_add_left]
  | or p q ihp ihq =>
    obtain ⟨n, hn, -⟩ := p.exists_opened_tokens stack h
    rw [tokens, Token.peak_joined (Token.opening_or h n) hn, ihp stack h, ihq stack h, nesting,
      Nat.add_max_add_left]

end Phrase

/-! ## Phrases that are nested too deeply -/

open SqlTemplate.Expr (Parser level Ends ends_cons path chain chain_of_link)

/-- The parser of a category with `n` levels inside. A path is parsed as an operand. -/
def Category.parser (n : Nat) : Category → Parser
  | .operand | .path => Expr.operand (level n)
  | .comparison => Expr.comparison (level n)
  | .negation => Expr.negation (level n)
  | .conjunction => Expr.conjunction (level n)
  | .disjunction => Expr.disjunction (level n)

/-- A parser gives up because of the nesting. -/
def Overruns (result : Except Expr.Broken (Expr × List Token)) : Prop :=
  ∃ complete, result = .error ⟨complete, .nestedTooDeeply⟩

theorem Overruns.bind {result : Except Expr.Broken (Expr × List Token)}
    {f : Expr × List Token → Except Expr.Broken (Expr × List Token)} (h : Overruns result) :
    Overruns (result >>= f) := by
  obtain ⟨complete, rfl⟩ := h
  exact ⟨complete, rfl⟩

theorem Overruns.map {result : Except Expr.Broken (Expr × List Token)}
    {f : Expr × List Token → Expr × List Token} (h : Overruns result) :
    Overruns (result.map f) := by
  obtain ⟨complete, rfl⟩ := h
  exact ⟨complete, rfl⟩

theorem overruns_chain {connective : Token} {tokens : List Token} {link : Parser} {rounds : Nat}
    (hrounds : (connective :: tokens).length ≤ rounds) (hlink : Overruns (link tokens))
    (join : Expr → Expr → Expr) (e : Expr) :
    Overruns (chain connective join link rounds e (connective :: tokens)) := by
  obtain ⟨complete, hlink⟩ := hlink
  cases rounds with
  | zero => exact absurd hrounds (by simp)
  | succ rounds => exact ⟨e :: complete, by rw [chain, if_pos rfl, hlink]; rfl⟩

namespace Phrase

variable {k : Category} {n : Nat}

/-- A phrase one level deeper. -/
theorem overruns_disjunction {p : Phrase .disjunction}
    (ih : ∀ m < p.nesting, ∀ rest, Overruns (Category.disjunction.parser m (p.tokens ++ rest)))
    (hn : n < p.nesting + 1) (rest : List Token) :
    Overruns ((level n).disjunction (p.tokens ++ rest)) := by
  cases n with
  | zero => exact ⟨[], rfl⟩
  | succ m => exact ih m (Nat.lt_of_succ_lt_succ hn) rest

/-- **Where there are not levels enough,** the parser of a phrase gives up because of the nesting,
whatever follows the phrase. -/
theorem overrun (p : Phrase k) (n : Nat) (hn : n < p.nesting) (rest : List Token) :
    Overruns (k.parser n (p.tokens ++ rest)) := by
  induction p generalizing n rest with
  | null | bool | int | decimal | text | minusInt | minusDecimal | name =>
    exact absurd hn (Nat.not_lt_zero n)
  | enclosed p ih =>
    obtain ⟨complete, hinner⟩ := overruns_disjunction ih hn (.closeParen :: rest)
    have htokens :
        (enclosed p).tokens ++ rest = .openParen :: (p.tokens ++ .closeParen :: rest) := by
      simp [tokens]
    refine ⟨complete, ?_⟩
    rw [htokens, Category.parser, Expr.operand, hinner]
  | path p ih => exact ih n hn rest
  | property p name ih =>
    rw [tokens, List.append_assoc]
    exact ih n hn _
  | item p index ihp ihindex =>
    have htokens : (item p index).tokens ++ rest =
        p.tokens ++ .openBracket :: (index.tokens ++ .closeBracket :: rest) := by simp [tokens]
    rw [htokens]
    by_cases hp : n < p.nesting
    · exact ihp n hp _
    · obtain ⟨rounds, hrounds, hread⟩ := p.readAt n (Nat.not_lt.1 hp)
        (.openBracket :: (index.tokens ++ .closeBracket :: rest))
      obtain ⟨rounds, rfl⟩ : ∃ r, rounds = r + 1 := ⟨rounds - 1, by simp at hrounds; omega⟩
      have hindex : n < index.nesting + 1 := by rw [nesting] at hn; omega
      obtain ⟨complete, hinner⟩ := overruns_disjunction ihindex hindex (.closeBracket :: rest)
      refine ⟨p.toExpr :: complete, ?_⟩
      rw [Category.parser, hread, Expr.path, hinner]
      rfl
  | operand p ih => exact (ih n hn rest).bind
  | compare c left right ihleft ihright =>
    rw [tokens, List.append_assoc, List.cons_append]
    by_cases hleft : n < left.nesting
    · exact (ihleft n hleft _).bind
    · have hread : Expr.operand (level n) _ = _ := left.readAt n (Nat.not_lt.1 hleft)
        (.compare c :: (right.tokens ++ rest)) (ends_cons (Nat.lt_succ_self 3) _)
      obtain ⟨complete, hright⟩ := ihright n (by rw [nesting] at hn; omega) rest
      refine ⟨left.toExpr :: complete, ?_⟩
      rw [Category.parser] at hright
      rw [Category.parser, Expr.comparison, hread]
      dsimp only [Bind.bind, Except.bind]
      rw [hright]
      rfl
  | comparison p ih =>
    obtain ⟨complete, hcomparison⟩ := ih n hn rest
    refine ⟨complete, ?_⟩
    rw [Category.parser] at hcomparison
    rw [tokens, Category.parser, Expr.negation.eq_def]
    split
    · -- No comparison starts with a negation.
      next heq => rw [heq] at hcomparison; cases hcomparison
    · exact hcomparison
  | not p ih =>
    cases n with
    | zero => exact ⟨[], rfl⟩
    | succ m => exact (ih m (Nat.lt_of_succ_lt_succ hn) rest).map
  | negation p ih => exact (ih n hn rest).bind
  | conjunction p ih => exact (ih n hn rest).bind
  | and p q ihp ihq =>
    rw [tokens, List.append_assoc, List.cons_append]
    by_cases hp : n < p.nesting
    · exact ihp n hp _
    · obtain ⟨rounds, hrounds, hread⟩ := p.readAt n (Nat.not_lt.1 hp)
        (.and :: (q.tokens ++ rest)) (ends_cons (by decide) _)
      rw [Category.parser, hread]
      exact overruns_chain hrounds (ihq n (by rw [nesting] at hn; omega) rest) _ _
  | or p q ihp ihq =>
    rw [tokens, List.append_assoc, List.cons_append]
    by_cases hp : n < p.nesting
    · exact ihp n hp _
    · obtain ⟨rounds, hrounds, hread⟩ := p.readAt n (Nat.not_lt.1 hp)
        (.or :: (q.tokens ++ rest)) (ends_cons (by decide) _)
      rw [Category.parser, hread]
      exact overruns_chain hrounds (ihq n (by rw [nesting] at hn; omega) rest) _ _

end Phrase

end SqlTemplate
