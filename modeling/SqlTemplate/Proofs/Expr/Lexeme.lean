import SqlTemplate.Proofs.Expr.Name
import SqlTemplate.Proofs.Fallible
import SqlTemplate.Proofs.Text.Cut

/-!
# Tokens at the front of a text

`Takes` says how a token can stand at the front of a text, one rule for each kind of token, and what
the text goes on with (`take_eq_ok_iff`).

A token does not look beyond a character that cannot continue it. So a text that has tokens keeps
them where such a character follows, whatever comes after it (`ofCharsFrom_append`).
-/

namespace SqlTemplate.Token

open Text

/-! ## One token -/

/-- Tokens of one character. -/
def single : List (Char × Token) :=
  [('.', dot), ('-', minus), ('[', openBracket), (']', closeBracket), ('(', openParen),
    (')', closeParen)]

/-- Tokens of two characters. -/
def double : List (Char × Char × Token) :=
  [('=', '=', compare .eq), ('!', '=', compare .ne), ('<', '=', compare .le),
    ('>', '=', compare .ge), ('&', '&', and), ('|', '|', or)]

/-- Tokens of one character that an equals sign would change. -/
def unequal : List (Char × Token) :=
  [('!', not), ('<', compare .lt), ('>', compare .gt)]

/-- The characters that a quoted text starts and ends with. -/
def quotes : List Char := ['\'', '"']

/-- How a token stands at the front of the text `c :: rest`, and what follows it. -/
inductive Takes : (c : Char) → (rest : List Char) → Token → (after : List Char) → Prop
  | single {c : Char} {token : Token} {rest : List Char} (h : (c, token) ∈ single) :
      Takes c rest token rest
  | double {c d : Char} {token : Token} {rest : List Char} (h : (c, d, token) ∈ double) :
      Takes c (d :: rest) token rest
  | unequal {c : Char} {token : Token} {rest : List Char} (h : (c, token) ∈ unequal)
      (hrest : rest.head? ≠ some '=') : Takes c rest token rest
  | quoted {c : Char} {rest s after : List Char} (hc : c ∈ quotes)
      (h : takeQuoted c rest = some (s, after)) : Takes c rest (text (String.ofList s)) after
  | number {c : Char} {rest after : List Char} {fraction : Option (List Char)} (hc : c.isDigit)
      (h : takeFraction (rest.dropWhile Char.isDigit) = (fraction, after)) :
      Takes c rest (ofDigits (c :: rest.takeWhile Char.isDigit) fraction) after
  | word {c : Char} {rest : List Char} (hc : startsName c) :
      Takes c rest (ofWord (String.ofList (c :: rest.takeWhile continuesName)))
        (rest.dropWhile continuesName)

variable {c : Char} {rest after more : List Char} {token : Token}

theorem takePair_eq_ok_iff {pair : Token} {d : Char} :
    takePair pair d rest = .ok (token, after) ↔ token = pair ∧ rest = d :: after := by
  cases rest with
  | nil => simp [takePair]
  | cons e rest => rw [takePair]; split <;> simp_all [eq_comm]

theorem takeComparison_eq_ok_iff {alone withEquals : Token} :
    takeComparison alone withEquals rest = .ok (token, after) ↔
      (token = withEquals ∧ rest = '=' :: after) ∨
        (token = alone ∧ rest = after ∧ rest.head? ≠ some '=') := by
  unfold takeComparison
  split
  · simp [eq_comm]
  · next hne =>
    have hhead : rest.head? ≠ some '=' := by
      rintro h
      obtain ⟨more, rfl⟩ := List.head?_eq_some_iff.1 h
      exact hne more rfl
    have hcons : rest ≠ '=' :: after := fun h => hne after h
    simp [hhead, hcons, eq_comm]

theorem take_of_quote (hc : c ∈ quotes) :
    take c rest = match takeQuoted c rest with
      | some (s, after) => .ok (text (String.ofList s), after)
      | none => .error .unterminated := by
  simp only [quotes, List.mem_cons, List.not_mem_nil, or_false] at hc
  rcases hc with rfl | rfl
  all_goals rfl

/-- What the characters in `marks` start. -/
theorem takes_of_mark (hmark : c ∈ marks) (h : take c rest = .ok (token, after)) :
    Takes c rest token after := by
  have hquoted (hc : c ∈ quotes) : Takes c rest token after := by
    rw [take_of_quote hc] at h
    split at h
    · next htake => cases h; exact .quoted hc htake
    · cases h
  have hcomparison {alone withEquals : Token} (halone : (c, alone) ∈ unequal)
      (hequals : (c, '=', withEquals) ∈ double)
      (h : takeComparison alone withEquals rest = .ok (token, after)) :
      Takes c rest token after := by
    rcases takeComparison_eq_ok_iff.1 h with ⟨rfl, rfl⟩ | ⟨rfl, rfl, hrest⟩
    · exact .double hequals
    · exact .unequal halone hrest
  have hpair {pair : Token} (hpair : (c, c, pair) ∈ double)
      (h : takePair pair c rest = .ok (token, after)) : Takes c rest token after := by
    obtain ⟨rfl, rfl⟩ := takePair_eq_ok_iff.1 h
    exact .double hpair
  simp only [marks, List.mem_cons, List.not_mem_nil, or_false] at hmark
  rcases hmark with rfl | rfl | rfl | rfl | rfl | rfl | rfl | rfl | rfl | rfl | rfl | rfl | rfl |
    rfl
  iterate 6 cases h; exact .single (by decide)
  · exact hpair (by decide) h
  iterate 3 exact hcomparison (by decide) (by decide) h
  iterate 2 exact hpair (by decide) h
  iterate 2 exact hquoted (by decide)

/-- **Taking a token** off the front of a text. -/
theorem take_eq_ok_iff : take c rest = .ok (token, after) ↔ Takes c rest token after := by
  constructor
  · intro h
    by_cases hmark : c ∈ marks
    · exact takes_of_mark hmark h
    · rw [take_of_not_mark hmark] at h
      split at h
      · next hdigit => cases h; exact .number hdigit rfl
      · split at h
        · next hstart => cases h; exact .word hstart
        · cases h
  · intro h
    cases h with
    | single h =>
      simp only [single, List.mem_cons, Prod.mk.injEq, List.not_mem_nil, or_false] at h
      rcases h with ⟨rfl, rfl⟩ | ⟨rfl, rfl⟩ | ⟨rfl, rfl⟩ | ⟨rfl, rfl⟩ | ⟨rfl, rfl⟩ | ⟨rfl, rfl⟩
      all_goals rfl
    | double h =>
      simp only [double, List.mem_cons, Prod.mk.injEq, List.not_mem_nil, or_false] at h
      rcases h with ⟨rfl, rfl, rfl⟩ | ⟨rfl, rfl, rfl⟩ | ⟨rfl, rfl, rfl⟩ | ⟨rfl, rfl, rfl⟩ |
        ⟨rfl, rfl, rfl⟩ | ⟨rfl, rfl, rfl⟩
      all_goals rfl
    | unequal h hrest =>
      simp only [unequal, List.mem_cons, Prod.mk.injEq, List.not_mem_nil, or_false] at h
      rcases h with ⟨rfl, rfl⟩ | ⟨rfl, rfl⟩ | ⟨rfl, rfl⟩
      all_goals exact takeComparison_eq_ok_iff.2 (.inr ⟨rfl, rfl, hrest⟩)
    | quoted hc h => rw [take_of_quote hc, h]
    | number hc h => rw [take_of_isDigit hc, h]
    | word hc => exact take_of_startsName hc rest

/-- No token starts with a space. -/
theorem Takes.isSpace_eq_false (h : Takes c rest token after) : isSpace c = false := by
  cases h with
  | single h =>
    have hall : ∀ entry ∈ Token.single, isSpace entry.1 = false := by decide
    have hc := hall _ h
    exact hc
  | double h =>
    have hall : ∀ entry ∈ Token.double, isSpace entry.1 = false := by decide
    have hc := hall _ h
    exact hc
  | unequal h _ =>
    have hall : ∀ entry ∈ Token.unequal, isSpace entry.1 = false := by decide
    have hc := hall _ h
    exact hc
  | quoted hc _ =>
    simp only [quotes, List.mem_cons, List.not_mem_nil, or_false] at hc
    rcases hc with rfl | rfl
    all_goals decide
  | number hc _ => exact isSpace_of_continuesName (continuesName_of_isDigit hc)
  | word hc => exact isSpace_of_startsName hc

/-- A character that is a token of its own at the front of a text. -/
theorem ofCharsFrom_single (h : (c, token) ∈ single) (total : Nat) (rest : List Char) :
    ofCharsFrom total (c :: rest) = (ofCharsFrom total rest).map (token :: ·) :=
  have htakes : Takes c rest token rest := .single h
  ofCharsFrom_of_take total htakes.isSpace_eq_false (take_eq_ok_iff.2 htakes)

/-! ## Texts that go on -/

/-- Whether no token goes on with this character. -/
def endsToken (c : Char) : Bool := !(continuesName c || c == '.' || c == '=')

variable {d : Char}

theorem continuesName_of_endsToken (h : endsToken d) : continuesName d = false := by
  simp only [endsToken, Bool.not_eq_true', Bool.or_eq_false_iff] at h
  exact h.1.1

theorem isDigit_of_endsToken (h : endsToken d) : d.isDigit = false := by
  rw [← Bool.not_eq_true]
  intro hdigit
  have hcontinues := continuesName_of_isDigit hdigit
  rw [continuesName_of_endsToken h] at hcontinues
  cases hcontinues

/-- Only a backslash stands for more than itself in a quoted text. -/
theorem takeQuoted_cons {quote : Char} (hc : c ≠ '\\') (rest : List Char) :
    takeQuoted quote (c :: rest) =
      if c = quote then some ([], rest)
      else (takeQuoted quote rest).map fun (s, after) => (c :: s, after) := by
  rw [takeQuoted]
  intro d rest' hslash
  exact absurd hslash hc

theorem takeQuoted_append {quote : Char} {text s : List Char} (hquote : quote ∈ quotes)
    (h : takeQuoted quote text = some (s, after)) (more : List Char) :
    takeQuoted quote (text ++ more) = some (s, after ++ more) := by
  fun_induction takeQuoted quote text generalizing s with
  | case1 => cases h
  | case2 c rest ih =>
    obtain ⟨⟨s', after'⟩, h', heq⟩ := Option.map_eq_some_iff.1 h
    cases heq
    rw [List.cons_append, List.cons_append, takeQuoted, ih h']
    rfl
  | case3 rest _ =>
    cases h
    have hslash : quote ≠ '\\' := by
      rintro rfl
      exact absurd hquote (by decide)
    rw [List.cons_append, takeQuoted_cons hslash, if_pos rfl]
  | case4 c rest hescape hc ih =>
    obtain ⟨⟨s', after'⟩, h', heq⟩ := Option.map_eq_some_iff.1 h
    cases heq
    have hslash : c ≠ '\\' := by
      -- A backslash at the end of the text closes no quote.
      rintro rfl
      cases rest with
      | nil => cases h'
      | cons d rest => exact hescape d rest rfl rfl
    rw [List.cons_append, takeQuoted_cons hslash, if_neg hc, ih h']
    rfl

theorem takeFraction_append {text : List Char} {fraction : Option (List Char)}
    (hmore : ∀ d ∈ more.head?, endsToken d) (h : takeFraction text = (fraction, after)) :
    takeFraction (text ++ more) = (fraction, after ++ more) := by
  have hdigit : ∀ d ∈ more.head?, d.isDigit = false :=
    fun d hd => isDigit_of_endsToken (hmore d hd)
  fun_cases takeFraction text with
  | case1 d rest hd =>
    rw [takeFraction, if_pos hd] at h
    cases h
    rw [List.cons_append, List.cons_append, takeFraction, if_pos hd,
      takeWhile_append_of_head hdigit, dropWhile_append_of_head hdigit]
  | case2 d rest hd =>
    rw [takeFraction, if_neg hd] at h
    cases h
    rw [List.cons_append, List.cons_append, takeFraction, if_neg hd]
  | case3 text hpoint =>
    have hpoint' : ∀ e rest, text ++ more = '.' :: e :: rest → e.isDigit = false := by
      intro e rest heq
      rcases text with _ | ⟨c, _ | ⟨d, text⟩⟩
      · exact absurd (hmore '.' (by rw [List.nil_append] at heq; rw [heq]; rfl)) (by decide)
      · obtain ⟨-, rfl⟩ := List.cons.inj heq
        exact hdigit e rfl
      · obtain ⟨rfl, heq⟩ := List.cons.inj heq
        exact absurd rfl (hpoint d text)
    rw [takeFraction.eq_2 _ hpoint] at h
    cases h
    rw [takeFraction.eq_def]
    split
    · next heq => rw [if_neg (by rw [hpoint' _ _ heq]; decide), heq]
    · rfl

/-- A token stays where a text goes on with a character that ends it. -/
theorem Takes.append (h : Takes c rest token after) (hmore : ∀ d ∈ more.head?, endsToken d) :
    Takes c (rest ++ more) token (after ++ more) := by
  have hname : ∀ d ∈ more.head?, continuesName d = false :=
    fun d hd => continuesName_of_endsToken (hmore d hd)
  have hdigit : ∀ d ∈ more.head?, d.isDigit = false :=
    fun d hd => isDigit_of_endsToken (hmore d hd)
  cases h with
  | single h => exact .single h
  | double h => exact .double h
  | unequal h hrest =>
    refine .unequal h ?_
    cases rest with
    | nil =>
      rw [List.nil_append]
      intro hhead
      exact absurd (hmore '=' hhead) (by decide)
    | cons e rest => exact hrest
  | quoted hc h => exact .quoted hc (takeQuoted_append hc h more)
  | number hc h =>
    rw [← takeWhile_append_of_head hdigit]
    refine .number hc ?_
    rw [dropWhile_append_of_head hdigit]
    exact takeFraction_append hmore h
  | word hc =>
    rw [← takeWhile_append_of_head hname, ← dropWhile_append_of_head hname]
    exact .word hc

/-- **A text keeps its tokens** where it goes on with a character that ends the last of them. -/
theorem ofCharsFrom_append {total : Nat} {text : List Char} {tokens : List Token}
    (h : ofCharsFrom total text = .ok tokens) (hmore : ∀ d ∈ more.head?, endsToken d)
    (total' : Nat) :
    ofCharsFrom total' (text ++ more) = (ofCharsFrom total' more).map (tokens ++ ·) := by
  fun_induction ofCharsFrom total text generalizing tokens with
  | case1 =>
    cases h
    rw [List.nil_append]
    cases ofCharsFrom total' more <;> rfl
  | case2 c rest hspace ih =>
    rw [List.cons_append, ofCharsFrom_of_space total' hspace]
    exact ih h
  | case3 => cases h
  | case4 => cases h
  | case5 c rest hspace token after htake ih =>
    obtain ⟨tokens, htokens, rfl⟩ := exists_of_map_eq_ok h
    have htake' := take_eq_ok_iff.2 ((take_eq_ok_iff.1 htake).append hmore)
    rw [List.cons_append, ofCharsFrom_of_take total' (Bool.not_eq_true _ ▸ hspace) htake',
      ih htokens]
    cases ofCharsFrom total' more <;> rfl

/-- A text in parentheses has its tokens between them, whatever comes after. -/
theorem ofCharsFrom_enclosed {total : Nat} {text : List Char} {tokens : List Token}
    (h : ofCharsFrom total text = .ok tokens) (total' : Nat) (more : List Char) :
    ofCharsFrom total' ('(' :: (text ++ ')' :: more)) =
      (ofCharsFrom total' more).map fun after =>
        openParen :: (tokens ++ closeParen :: after) := by
  have hopen : ('(', openParen) ∈ single := by decide
  have hclose : (')', closeParen) ∈ single := by decide
  have hends : ∀ d ∈ (')' :: more).head?, endsToken d := by
    rintro d ⟨⟩
    decide +kernel
  rw [ofCharsFrom_single hopen, ofCharsFrom_append h hends, ofCharsFrom_single hclose]
  cases ofCharsFrom total' more <;> rfl

end SqlTemplate.Token
