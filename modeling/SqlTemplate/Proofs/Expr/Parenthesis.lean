import SqlTemplate.Proofs.Expr.Grammar
import SqlTemplate.Proofs.Expr.Lexeme
import SqlTemplate.Proofs.Placeholder.Closing

/-!
# The parentheses of expressions

The parentheses of a text are those of its tokens, in the same order: those between the tokens'
texts, and those in quoted texts (`filter_isParen_of_ofCharsFrom`). The grammar closes the former.

**Theorem (`closes_of_parse`).** A text that parses closes its own parentheses if each of its quoted
texts does.
-/

namespace SqlTemplate

open Placeholder (Closes)
open Text

/-- Whether a character is a parenthesis. -/
def isParen (c : Char) : Bool := c == '(' || c == ')'

/-! ## Parentheses of texts -/

namespace Placeholder.Closes

variable {depth : Nat} {text : List Char}

/-- Only parentheses matter. -/
theorem filter_iff : Closes depth (text.filter isParen) ↔ Closes depth text := by
  induction text generalizing depth with
  | nil => rfl
  | cons c text ih =>
    by_cases hclose : c = ')'
    · subst hclose
      constructor
      · intro h
        obtain ⟨k, rfl, hrest⟩ := of_close h
        exact (ih.1 hrest).cons_close
      · intro h
        obtain ⟨k, rfl, hrest⟩ := h.of_close
        exact cons_close (ih.2 hrest)
    · by_cases hopen : c = '('
      · subst hopen
        exact ⟨fun h => (ih.1 (of_open h)).cons_open, fun h => cons_open (ih.2 h.of_open)⟩
      · have hc : isParen c = false := by simp [isParen, hopen, hclose]
        rw [List.filter_cons_of_neg (by rw [hc]; decide), ih]
        exact ⟨fun h => h.cons_other hclose hopen, fun h => h.of_other hclose hopen⟩

end Placeholder.Closes

/-! ## Parentheses of tokens -/

namespace Token

/-- The parentheses that a token is or has in its text. -/
def parens : Token → List Char
  | openParen => ['(']
  | closeParen => [')']
  | text s => s.toList.filter isParen
  | _ => []

variable {c : Char} {rest after : List Char} {token : Token}

theorem isParen_of_continuesName (h : continuesName c) : isParen c = false := by
  have hmark := not_mark_of_continuesName h
  simp only [isParen, Bool.or_eq_false_iff, beq_eq_false_iff_ne]
  exact ⟨fun hopen => hmark (by rw [hopen]; decide), fun hclose => hmark (by rw [hclose]; decide)⟩

theorem isParen_of_isDigit (h : c.isDigit) : isParen c = false :=
  isParen_of_continuesName (continuesName_of_isDigit h)

theorem isParen_of_isSpace (h : isSpace c) : isParen c = false := by
  rw [← Bool.not_eq_true, isParen, Bool.or_eq_true, beq_iff_eq, beq_iff_eq]
  rintro (rfl | rfl)
  · exact absurd h (by decide)
  · exact absurd h (by decide)

theorem isParen_of_mem_quotes (h : c ∈ quotes) : isParen c = false := by
  simp only [quotes, List.mem_cons, List.not_mem_nil, or_false] at h
  rcases h with rfl | rfl
  all_goals rfl

/-- What is dropped from the front of a text may be dropped from its parentheses. -/
theorem filter_isParen_dropWhile {p : Char → Bool} (hp : ∀ c, p c → isParen c = false)
    (text : List Char) : (text.dropWhile p).filter isParen = text.filter isParen := by
  induction text with
  | nil => rfl
  | cons c rest ih =>
    rw [List.dropWhile_cons]
    split
    · next hc => rw [ih, List.filter_cons_of_neg (by rw [hp c hc]; decide)]
    · rfl

theorem filter_isParen_of_takeFraction {text : List Char} {fraction : Option (List Char)}
    (h : takeFraction text = (fraction, after)) : after.filter isParen = text.filter isParen := by
  fun_cases takeFraction text with
  | case1 d rest hd =>
    rw [takeFraction, if_pos hd] at h
    cases h
    rw [filter_isParen_dropWhile fun c => isParen_of_isDigit,
      List.filter_cons_of_neg (by decide),
      List.filter_cons_of_neg (by rw [isParen_of_isDigit hd]; decide)]
  | case2 d rest hd =>
    rw [takeFraction, if_neg hd] at h
    cases h
    rfl
  | case3 text hpoint =>
    rw [takeFraction.eq_2 _ hpoint] at h
    cases h
    rfl

theorem filter_isParen_of_takeQuoted {quote : Char} {text s : List Char} (hquote : quote ∈ quotes)
    (h : takeQuoted quote text = some (s, after)) :
    text.filter isParen = s.filter isParen ++ after.filter isParen := by
  fun_induction takeQuoted quote text generalizing s with
  | case1 => cases h
  | case2 c rest ih =>
    obtain ⟨⟨s', after'⟩, h', heq⟩ := Option.map_eq_some_iff.1 h
    cases heq
    rw [List.filter_cons_of_neg (by decide), List.filter_cons, List.filter_cons, ih h']
    split <;> rfl
  | case3 rest _ =>
    cases h
    rw [List.filter_cons_of_neg (by rw [isParen_of_mem_quotes hquote]; decide)]
    rfl
  | case4 c rest _ _ ih =>
    obtain ⟨⟨s', after'⟩, h', heq⟩ := Option.map_eq_some_iff.1 h
    cases heq
    rw [List.filter_cons, List.filter_cons, ih h']
    split <;> rfl

theorem parens_ofWord (word : String) : (ofWord word).parens = [] := by
  unfold ofWord
  split
  · rfl
  · split
    · rfl
    · split <;> rfl

theorem parens_ofDigits (whole : List Char) (fraction : Option (List Char)) :
    (ofDigits whole fraction).parens = [] := by
  cases fraction with
  | some fraction => rfl
  | none =>
    rw [ofDigits]
    split <;> rfl

/-- A token has the parentheses of the text that it is taken off. -/
theorem Takes.filter_isParen (h : Takes c rest token after) :
    (c :: rest).filter isParen = token.parens ++ after.filter isParen := by
  cases h with
  | single h =>
    simp only [Token.single, List.mem_cons, Prod.mk.injEq, List.not_mem_nil, or_false] at h
    rcases h with ⟨rfl, rfl⟩ | ⟨rfl, rfl⟩ | ⟨rfl, rfl⟩ | ⟨rfl, rfl⟩ | ⟨rfl, rfl⟩ | ⟨rfl, rfl⟩
    all_goals rfl
  | double h =>
    have hparens : ∀ entry ∈ Token.double, isParen entry.1 = false ∧ isParen entry.2.1 = false ∧
        entry.2.2.parens = [] := by decide
    obtain ⟨hc, hd, htoken⟩ := hparens _ h
    dsimp only at hc hd htoken
    rw [List.filter_cons, List.filter_cons, hc, hd, htoken]
    rfl
  | unequal h _ =>
    have hparens : ∀ entry ∈ Token.unequal, isParen entry.1 = false ∧ entry.2.parens = [] := by
      decide
    obtain ⟨hc, htoken⟩ := hparens _ h
    rw [List.filter_cons, hc, htoken]
    rfl
  | quoted hc h =>
    rw [List.filter_cons, isParen_of_mem_quotes hc, parens, String.toList_ofList,
      ← filter_isParen_of_takeQuoted hc h]
    rfl
  | number hc h =>
    rw [List.filter_cons, isParen_of_isDigit hc, parens_ofDigits,
      filter_isParen_of_takeFraction h, filter_isParen_dropWhile fun c => isParen_of_isDigit]
    rfl
  | word hc =>
    rw [List.filter_cons, isParen_of_continuesName (continuesName_of_startsName hc), parens_ofWord,
      filter_isParen_dropWhile fun c => isParen_of_continuesName]
    rfl

/-- **The parentheses of a text are those of its tokens.** -/
theorem filter_isParen_of_ofCharsFrom {total : Nat} {text : List Char} {tokens : List Token}
    (h : ofCharsFrom total text = .ok tokens) : text.filter isParen = tokens.flatMap parens := by
  fun_induction ofCharsFrom total text generalizing tokens with
  | case1 => cases h; rfl
  | case2 c rest hspace ih =>
    rw [List.filter_cons, isParen_of_isSpace hspace]
    exact ih h
  | case3 => cases h
  | case4 => cases h
  | case5 c rest hspace token after htake ih =>
    obtain ⟨tokens, htokens, rfl⟩ := exists_of_map_eq_ok h
    rw [(take_eq_ok_iff.1 htake).filter_isParen, ih htokens]
    rfl

end Token

/-! ## Parentheses of phrases -/

/-- Tokens whose parentheses are closed, with others between them that have none. -/
theorem Token.closes_append {xs zs : List Token} (ys : List Token)
    (hx : Closes 0 (xs.flatMap parens)) (hy : ys.flatMap parens = [])
    (hz : Closes 0 (zs.flatMap parens)) :
    Closes 0 ((xs ++ (ys ++ zs)).flatMap parens) := by
  rw [List.flatMap_append, List.flatMap_append, hy, List.nil_append]
  exact hx.append hz

/-- The parentheses of a phrase are closed where those of its quoted texts are. -/
theorem Phrase.closes_parens {k : Category} (p : Phrase k)
    (h : ∀ s, .text s ∈ p.tokens → Closes 0 s.toList) :
    Closes 0 (p.tokens.flatMap Token.parens) := by
  induction p with
  | null | bool | int | decimal | minusInt | minusDecimal | name => exact .nil
  | text s =>
    rw [tokens, List.flatMap_singleton]
    exact Closes.filter_iff.2 (h s (List.mem_singleton_self _))
  | enclosed p ih =>
    have hp := ih fun s hs => h s (by simp [tokens, hs])
    have htokens : (enclosed p).tokens.flatMap Token.parens =
        '(' :: (p.tokens.flatMap Token.parens ++ [')']) := by
      simp [tokens, Token.parens]
    rw [htokens]
    exact hp.enclose
  | path p ih | operand p ih | comparison p ih | negation p ih | conjunction p ih => exact ih h
  | property p n ih =>
    have hp := ih fun s hs => h s (List.mem_append_left _ hs)
    have htokens : (property p n).tokens = p.tokens ++ ([.dot, .name n] ++ []) := rfl
    rw [htokens]
    exact Token.closes_append _ hp rfl .nil
  | item p index ihp ihindex =>
    have hp := ihp fun s hs => h s (by simp [tokens, hs])
    have hindex := ihindex fun s hs => h s (by simp [tokens, hs])
    have htokens : (item p index).tokens =
        p.tokens ++ ([.openBracket] ++ (index.tokens ++ ([.closeBracket] ++ []))) := by
      simp [tokens]
    rw [htokens]
    exact Token.closes_append _ hp rfl (Token.closes_append _ hindex rfl .nil)
  | not p ih =>
    exact ih fun s hs => h s (List.mem_cons_of_mem _ hs)
  | compare c left right ihp ihq | and left right ihp ihq | or left right ihp ihq =>
    have hp := ihp fun s hs => h s (by simp [tokens, hs])
    have hq := ihq fun s hs => h s (by simp [tokens, hs])
    exact Token.closes_append [_] hp rfl hq

/-- **A text that parses closes its own parentheses** if each of its quoted texts does. -/
theorem closes_of_parse {text : String} {tokens : List Token} {e : Expr}
    (htokens : Token.ofText text = .ok tokens) (hparse : Expr.parse tokens = .ok e)
    (htexts : ∀ s, .text s ∈ tokens → Closes 0 s.toList) : Closes 0 text.toList := by
  obtain ⟨p, rfl, -, -⟩ := Expr.parse_eq_ok_iff.1 hparse
  rw [← Closes.filter_iff, Token.filter_isParen_of_ofCharsFrom htokens]
  exact p.closes_parens htexts

end SqlTemplate
