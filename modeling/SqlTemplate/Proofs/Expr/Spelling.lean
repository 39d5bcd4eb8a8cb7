import SqlTemplate.Proofs.Expr.Lexeme

/-!
# Tokens and the texts they are written as

`Spelled` says how a token can be written: a connective as a word or as a sign, a number with any
digits that have its value, a text between quotes of either kind. A token that can be written
(`IsSpellable`) is no name that another token is written as, and no number with a sign. A decimal of
scale zero is written like an integer, so it has to be beyond those of 64 bits.

**Theorem (`tokens_read_back`).** Tokens that are written one after another, with white space
between neighbours, are read as these tokens; and the negative of an integer that is read from a
text has 64 bits, too.

A spelling alone is read as its token (`ofCharsFrom_of_spelled`), and no token goes on with white
space. So one token after another is read off the front of the text, and the space behind it is
skipped. The other way round, whatever is read off the front of a text can be written
(`Takes.exists_spelled`). So the lists of tokens that can be written are all the lists that are read
from texts (`exists_ofText_eq_iff`).
-/

namespace SqlTemplate.Token

open Text

/-! ## Spellings -/

/-- The connectives as words. -/
def connectives : List (String × Token) := [("and", and), ("or", or), ("not", not)]

/-- A run of digits. -/
def IsDigits (w : List Char) : Prop := w ≠ [] ∧ ∀ c ∈ w, c.isDigit

instance (w : List Char) : Decidable (IsDigits w) :=
  decidable_of_iff (w ≠ [] ∧ w.all Char.isDigit) (by rw [IsDigits, List.all_eq_true])

/-- A text with a backslash before each quote of this kind and before each backslash. -/
def escapeQuote (quote : Char) (s : List Char) : List Char :=
  s.flatMap fun c => if c = quote ∨ c = '\\' then ['\\', c] else [c]

/-- The ways to write a token. -/
inductive Spelled : Token → List Char → Prop
  | name {s : String} (hs : isIdentifier s.toList) (hword : s ∉ connectives.map Prod.fst) :
      Spelled (name s) s.toList
  | word {s : String} {token : Token} (h : (s, token) ∈ connectives) : Spelled token s.toList
  | int {w : List Char} (hw : IsDigits w) (h : Nat.ofDigitChars 10 w 0 < 0x8000000000000000) :
      Spelled (int (Int64.ofNat (Nat.ofDigitChars 10 w 0))) w
  | large {w : List Char} (hw : IsDigits w) (h : 0x8000000000000000 ≤ Nat.ofDigitChars 10 w 0) :
      Spelled (decimal ⟨Nat.ofDigitChars 10 w 0, 0⟩) w
  | fraction {whole fraction : List Char} (hwhole : IsDigits whole)
      (hfraction : IsDigits fraction) :
      Spelled (decimal ⟨Nat.ofDigitChars 10 (whole ++ fraction) 0, fraction.length⟩)
        (whole ++ '.' :: fraction)
  | text {quote : Char} (hquote : quote ∈ quotes) (s : String) :
      Spelled (text s) (quote :: (escapeQuote quote s.toList ++ [quote]))
  | single {c : Char} {token : Token} (h : (c, token) ∈ single) : Spelled token [c]
  | double {c d : Char} {token : Token} (h : (c, d, token) ∈ double) : Spelled token [c, d]
  | unequal {c : Char} {token : Token} (h : (c, token) ∈ unequal) : Spelled token [c]

/-- Tokens written one after another, with white space between neighbours. -/
inductive Spaced : List Token → List Char → Prop
  | nil : Spaced [] []
  | cons {token : Token} {tokens : List Token} {w gap text : List Char} (hfirst : Spelled token w)
      (hgap : ∀ c ∈ gap, isSpace c) (hapart : tokens ≠ [] → gap ≠ []) (hrest : Spaced tokens text) :
      Spaced (token :: tokens) (w ++ (gap ++ text))

variable {c : Char} {w rest after chars : List Char} {fraction : Option (List Char)}
  {token : Token} {tokens : List Token}

/-! ## What a spelling is read as -/

theorem ofWord_of_mem {s : String} (h : (s, token) ∈ connectives) : ofWord s = token := by
  simp only [connectives, List.mem_cons, Prod.mk.injEq, List.not_mem_nil, or_false] at h
  rcases h with ⟨rfl, rfl⟩ | ⟨rfl, rfl⟩ | ⟨rfl, rfl⟩
  all_goals rfl

theorem ofWord_of_not_mem {s : String} (h : s ∉ connectives.map Prod.fst) : ofWord s = name s := by
  simp only [connectives, List.map_cons, List.map_nil, List.mem_cons, List.not_mem_nil, or_false,
    not_or] at h
  rw [ofWord, if_neg h.1, if_neg h.2.1, if_neg h.2.2]

theorem isIdentifier_of_mem {s : String} (h : (s, token) ∈ connectives) :
    isIdentifier s.toList := by
  have hall : ∀ entry ∈ connectives, isIdentifier entry.1.toList := by decide
  exact hall (s, token) h

/-- An identifier is one token. -/
theorem takes_of_isIdentifier (hw : isIdentifier w) :
    ∃ c rest, w = c :: rest ∧ Takes c rest (ofWord (String.ofList w)) [] := by
  cases w with
  | nil => cases hw
  | cons c rest =>
    obtain ⟨hc, hall⟩ := Bool.and_eq_true_iff.1 hw
    rw [List.all_eq_true] at hall
    have htakes : Takes c rest _ _ := .word hc
    rw [List.takeWhile_eq_self_iff.2 hall, List.dropWhile_eq_nil_iff.2 hall] at htakes
    exact ⟨c, rest, rfl, htakes⟩

theorem takeFraction_of_isDigits (hw : IsDigits w) : takeFraction ('.' :: w) = (some w, []) := by
  cases w with
  | nil => exact absurd rfl hw.1
  | cons d w =>
    obtain ⟨hd, hw⟩ := List.forall_mem_cons.1 hw.2
    rw [takeFraction, if_pos hd, List.takeWhile_eq_self_iff.2 hw, List.dropWhile_eq_nil_iff.2 hw]

/-- A number is one token, and the fraction that follows it belongs to it. -/
theorem takes_of_isDigits (hw : IsDigits w) (hrest : ∀ d ∈ rest.head?, d.isDigit = false)
    (h : takeFraction rest = (fraction, after)) :
    ∃ c more, w ++ rest = c :: more ∧ Takes c more (ofDigits w fraction) after := by
  obtain ⟨c, digits, rfl⟩ := List.exists_cons_of_ne_nil hw.1
  obtain ⟨hc, hdigits⟩ := List.forall_mem_cons.1 hw.2
  have htake : (digits ++ rest).takeWhile Char.isDigit = digits := by
    rw [takeWhile_append_of_head hrest, List.takeWhile_eq_self_iff.2 hdigits]
  have hdrop : (digits ++ rest).dropWhile Char.isDigit = rest := by
    rw [dropWhile_append_of_head hrest, List.dropWhile_eq_nil_iff.2 hdigits, List.nil_append]
  have htakes := Takes.number hc ((congrArg takeFraction hdrop).trans h)
  rw [htake] at htakes
  exact ⟨c, digits ++ rest, rfl, htakes⟩

/-- A number alone has no fraction. -/
theorem takes_of_isDigits_alone (hw : IsDigits w) :
    ∃ c rest, w = c :: rest ∧ Takes c rest (ofDigits w none) [] := by
  have hrest : ∀ d ∈ ([] : List Char).head?, d.isDigit = false := nofun
  have htakes := takes_of_isDigits hw hrest rfl
  rwa [List.append_nil] at htakes

/-- Escapes are undone up to the closing quote. -/
theorem takeQuoted_escapeQuote {quote : Char} (hquote : quote ∈ quotes) (s rest : List Char) :
    takeQuoted quote (escapeQuote quote s ++ quote :: rest) = some (s, rest) := by
  have hslash : quote ≠ '\\' := by
    rintro rfl
    exact absurd hquote (by decide)
  induction s with
  | nil => rw [escapeQuote, List.flatMap_nil, List.nil_append, takeQuoted_cons hslash, if_pos rfl]
  | cons c s ih =>
    rw [escapeQuote, List.flatMap_cons, List.append_assoc, ← escapeQuote]
    split
    · rw [List.cons_append, List.singleton_append, takeQuoted, ih]
      rfl
    · next hplain =>
      rw [not_or] at hplain
      rw [List.singleton_append, takeQuoted_cons hplain.2, if_neg hplain.1, ih]
      rfl

/-- **A spelling is one token** from its first character to its last. -/
theorem Spelled.takes (h : Spelled token w) : ∃ c rest, w = c :: rest ∧ Takes c rest token [] := by
  cases h with
  | name hs hword =>
    have htakes := takes_of_isIdentifier hs
    rwa [String.ofList_toList, ofWord_of_not_mem hword] at htakes
  | word h =>
    have htakes := takes_of_isIdentifier (isIdentifier_of_mem h)
    rwa [String.ofList_toList, ofWord_of_mem h] at htakes
  | int hw hbound =>
    have htakes := takes_of_isDigits_alone hw
    rwa [ofDigits, if_pos hbound] at htakes
  | large hw hbound =>
    have htakes := takes_of_isDigits_alone hw
    rwa [ofDigits, if_neg (Nat.not_lt.2 hbound)] at htakes
  | fraction hwhole hfraction =>
    exact takes_of_isDigits hwhole (by rintro d ⟨⟩; rfl) (takeFraction_of_isDigits hfraction)
  | @text quote hquote s =>
    have htakes := Takes.quoted hquote (takeQuoted_escapeQuote hquote s.toList [])
    rw [String.ofList_toList] at htakes
    exact ⟨quote, _, rfl, htakes⟩
  | @single c _ h => exact ⟨c, [], rfl, .single h⟩
  | @double c d _ h => exact ⟨c, [d], rfl, .double h⟩
  | @unequal c _ h => exact ⟨c, [], rfl, .unequal h nofun⟩

/-- **A spelling alone is read as its token.** -/
theorem ofCharsFrom_of_spelled (h : Spelled token w) (total : Nat) :
    ofCharsFrom total w = .ok [token] := by
  obtain ⟨c, rest, rfl, htakes⟩ := h.takes
  rw [ofCharsFrom_of_take total htakes.isSpace_eq_false (take_eq_ok_iff.2 htakes), ofCharsFrom_nil]
  rfl

/-! ## Spellings with white space between them -/

theorem endsToken_of_isSpace (h : isSpace c) : endsToken c := by
  have hdot : c ≠ '.' := by
    rintro rfl
    exact absurd h (by decide)
  have hequals : c ≠ '=' := by
    rintro rfl
    exact absurd h (by decide)
  simp [endsToken, continuesName_of_isSpace h, hdot, hequals]

/-- **Tokens with white space between them** are read one after another. -/
theorem ofCharsFrom_of_spaced (h : Spaced tokens chars) (total : Nat) :
    ofCharsFrom total chars = .ok tokens := by
  induction h with
  | nil => exact ofCharsFrom_nil total
  | @cons token tokens w gap text hfirst hgap hapart hrest ih =>
    -- Behind the first spelling comes a space, or else the text ends there.
    have hends : ∀ d ∈ (gap ++ text).head?, endsToken d := by
      intro d hd
      cases gap with
      | cons e gap =>
        cases hd
        exact endsToken_of_isSpace (hgap d List.mem_cons_self)
      | nil =>
        cases hrest with
        | nil => cases hd
        | cons => exact absurd rfl (hapart (List.cons_ne_nil _ _))
    rw [ofCharsFrom_append (ofCharsFrom_of_spelled hfirst total) hends,
      ofCharsFrom_spaces total hgap, ih]
    rfl

/-! ## Tokens that can be written -/

/-- A token that can be written: a name is an identifier and no connective, and a number has no
sign. -/
def IsSpellable : Token → Prop
  | name s => isIdentifier s.toList ∧ s ∉ connectives.map Prod.fst
  | int n => 0 ≤ n.toInt
  | decimal d => 0 ≤ d.digits ∧ 0 ≤ d.scale ∧ (d.scale = 0 → 0x8000000000000000 ≤ d.digits)
  | _ => True

instance (token : Token) : Decidable token.IsSpellable :=
  match token with
  | name s => inferInstanceAs (Decidable (isIdentifier s.toList ∧ s ∉ connectives.map Prod.fst))
  | int n => inferInstanceAs (Decidable (0 ≤ n.toInt))
  | decimal d => inferInstanceAs
      (Decidable (0 ≤ d.digits ∧ 0 ≤ d.scale ∧ (d.scale = 0 → 0x8000000000000000 ≤ d.digits)))
  | text _ | dot | minus | openBracket | closeBracket | openParen | closeParen | compare _ | and
  | or | not => isTrue trivial

theorem Spelled.isSpellable (h : Spelled token w) : token.IsSpellable := by
  cases h with
  | name hs hword => exact ⟨hs, hword⟩
  | word h =>
    have hall : ∀ entry ∈ connectives, entry.2.IsSpellable := by decide
    exact hall _ h
  | int _ hbound =>
    rw [IsSpellable, Int64.toInt_ofNat_of_lt hbound]
    exact Int.natCast_nonneg _
  | large _ hbound => exact ⟨Int.natCast_nonneg _, Int.le_refl 0, fun _ => Int.ofNat_le.2 hbound⟩
  | fraction _ hfraction =>
    refine ⟨Int.natCast_nonneg _, Int.natCast_nonneg _, fun hscale => ?_⟩
    exact absurd (List.length_eq_zero_iff.1 (Int.ofNat.inj hscale)) hfraction.1
  | text => trivial
  | single h =>
    have hall : ∀ entry ∈ Token.single, entry.2.IsSpellable := by decide
    exact hall _ h
  | double h =>
    have hall : ∀ entry ∈ Token.double, entry.2.2.IsSpellable := by decide
    exact hall _ h
  | unequal h =>
    have hall : ∀ entry ∈ Token.unequal, entry.2.IsSpellable := by decide
    exact hall _ h

/-- Digits with zeros before them. -/
theorem isDigits_padded (k n : Nat) : IsDigits (List.replicate k '0' ++ Nat.toDigits 10 n) := by
  refine ⟨List.append_ne_nil_of_right_ne_nil _ Nat.toDigits_ne_nil, fun d hd => ?_⟩
  rcases List.mem_append.1 hd with hd | hd
  · rw [(List.mem_replicate.1 hd).2]
    rfl
  · exact Nat.isDigit_of_mem_toDigits (by decide) (by decide) hd

theorem ofDigitChars_padded (k n : Nat) :
    Nat.ofDigitChars 10 (List.replicate k '0' ++ Nat.toDigits 10 n) 0 = n := by
  rw [Nat.ofDigitChars_append, Nat.ofDigitChars_replicate_zero, Nat.mul_zero,
    Nat.ofDigitChars_toDigits (by decide) (by decide)]

/-- An integer without sign is written with its digits. -/
theorem spelled_int {n : Int64} (h : 0 ≤ n.toInt) :
    Spelled (int n) (Nat.toDigits 10 n.toInt.toNat) := by
  have hbound : n.toInt.toNat < 0x8000000000000000 := by
    have := n.toInt_lt
    omega
  have hvalue : Nat.ofDigitChars 10 (Nat.toDigits 10 n.toInt.toNat) 0 = n.toInt.toNat :=
    ofDigitChars_padded 0 _
  have hn : Int64.ofNat n.toInt.toNat = n := by
    rw [← Int64.toInt_inj, Int64.toInt_ofNat_of_lt hbound, Int.toNat_of_nonneg h]
  have hspelled := Spelled.int (isDigits_padded 0 n.toInt.toNat) (hvalue.trans_lt hbound)
  rwa [ofDigitChars_padded, hn] at hspelled

/-- A decimal without sign is written with as many digits behind the point as its scale says. -/
theorem exists_spelled_decimal {digits scale : Nat} (h : scale = 0 → 0x8000000000000000 ≤ digits) :
    ∃ w, Spelled (decimal ⟨digits, scale⟩) w := by
  have hvalue := ofDigitChars_padded scale digits
  obtain ⟨hne, hdigits⟩ := isDigits_padded scale digits
  have hlength : scale < (List.replicate scale '0' ++ Nat.toDigits 10 digits).length := by
    rw [List.length_append, List.length_replicate]
    exact Nat.lt_add_of_pos_right Nat.length_toDigits_pos
  generalize List.replicate scale '0' ++ Nat.toDigits 10 digits = w at hvalue hne hdigits hlength
  by_cases hscale : scale = 0
  · subst hscale
    have hspelled := Spelled.large ⟨hne, hdigits⟩ (hvalue.symm ▸ h rfl)
    rw [hvalue] at hspelled
    exact ⟨w, hspelled⟩
  · have hfraction : (w.drop (w.length - scale)).length = scale := by
      rw [List.length_drop]
      omega
    have hwhole : (w.take (w.length - scale)).length ≠ 0 := by
      rw [List.length_take]
      omega
    have hspelled := Spelled.fraction
      ⟨mt List.length_eq_zero_iff.2 hwhole, fun d hd => hdigits d (List.mem_of_mem_take hd)⟩
      ⟨mt List.length_eq_zero_iff.2 (hfraction ▸ hscale),
        fun d hd => hdigits d (List.mem_of_mem_drop hd)⟩
    rw [List.take_append_drop, hvalue, hfraction] at hspelled
    exact ⟨_, hspelled⟩

/-- **The tokens that can be written.** -/
theorem exists_spelled_iff : (∃ w, Spelled token w) ↔ token.IsSpellable := by
  refine ⟨fun ⟨w, h⟩ => h.isSpellable, fun h => ?_⟩
  cases token with
  | name s => exact ⟨_, .name h.1 h.2⟩
  | int n => exact ⟨_, spelled_int h⟩
  | decimal d =>
    obtain ⟨digits, scale⟩ := d
    obtain ⟨hdigits, hscale, hlarge⟩ := h
    lift digits to Nat using hdigits
    lift scale to Nat using hscale
    exact exists_spelled_decimal fun hzero => Int.ofNat_le.1 (hlarge (congrArg Nat.cast hzero))
  | text s => exact ⟨_, .text (show '\'' ∈ quotes by decide) s⟩
  | dot => exact ⟨['.'], .single (by decide)⟩
  | minus => exact ⟨['-'], .single (by decide)⟩
  | openBracket => exact ⟨['['], .single (by decide)⟩
  | closeBracket => exact ⟨[']'], .single (by decide)⟩
  | openParen => exact ⟨['('], .single (by decide)⟩
  | closeParen => exact ⟨[')'], .single (by decide)⟩
  | compare c =>
    cases c with
    | eq => exact ⟨['=', '='], .double (by decide)⟩
    | ne => exact ⟨['!', '='], .double (by decide)⟩
    | lt => exact ⟨['<'], .unequal (by decide)⟩
    | le => exact ⟨['<', '='], .double (by decide)⟩
    | gt => exact ⟨['>'], .unequal (by decide)⟩
    | ge => exact ⟨['>', '='], .double (by decide)⟩
  | and => exact ⟨['&', '&'], .double (by decide)⟩
  | or => exact ⟨['|', '|'], .double (by decide)⟩
  | not => exact ⟨['!'], .unequal (by decide)⟩

theorem exists_spaced_iff :
    (∃ text, Spaced tokens text) ↔ ∀ token ∈ tokens, token.IsSpellable := by
  constructor
  · rintro ⟨text, h⟩
    induction h with
    | nil => exact nofun
    | cons hfirst _ _ _ ih => exact List.forall_mem_cons.2 ⟨hfirst.isSpellable, ih⟩
  · intro h
    induction tokens with
    | nil => exact ⟨[], .nil⟩
    | cons token tokens ih =>
      obtain ⟨hfirst, hrest⟩ := List.forall_mem_cons.1 h
      obtain ⟨w, hw⟩ := exists_spelled_iff.2 hfirst
      obtain ⟨text, htext⟩ := ih hrest
      have hgap : ∀ c ∈ [' '], isSpace c := List.all_eq_true.1 rfl
      exact ⟨_, .cons hw hgap (fun _ => List.cons_ne_nil _ _) htext⟩

/-! ## Tokens that are read -/

theorem exists_spelled_ofDigits (hw : IsDigits w) (hfraction : ∀ f ∈ fraction, IsDigits f) :
    ∃ u, Spelled (ofDigits w fraction) u := by
  cases fraction with
  | some f => exact ⟨_, .fraction hw (hfraction f rfl)⟩
  | none =>
    rw [ofDigits]
    split
    · next hbound => exact ⟨w, .int hw hbound⟩
    · next hbound => exact ⟨w, .large hw (Nat.not_lt.1 hbound)⟩

theorem isDigits_of_takeFraction (h : takeFraction chars = (fraction, after)) :
    ∀ f ∈ fraction, IsDigits f := by
  rintro f ⟨⟩
  unfold takeFraction at h
  split at h
  · next d more =>
    split at h
    · next hd =>
      cases h
      refine ⟨List.cons_ne_nil d _, List.forall_mem_cons.2 ⟨hd, fun e he => ?_⟩⟩
      exact List.mem_takeWhile_imp he
    · cases h
  · cases h

/-- What is taken off the front of a text can be written. -/
theorem Takes.exists_spelled (h : Takes c rest token after) : ∃ w, Spelled token w := by
  cases h with
  | single h => exact ⟨[c], .single h⟩
  | double h => exact ⟨_, .double h⟩
  | unequal h _ => exact ⟨[c], .unequal h⟩
  | quoted hc _ => exact ⟨_, .text hc _⟩
  | number hc h =>
    refine exists_spelled_ofDigits ⟨List.cons_ne_nil c _, List.forall_mem_cons.2 ⟨hc, ?_⟩⟩
      (isDigits_of_takeFraction h)
    exact fun d hd => List.mem_takeWhile_imp hd
  | word hc =>
    have hall : (rest.takeWhile continuesName).all continuesName :=
      List.all_eq_true.2 fun d hd => List.mem_takeWhile_imp hd
    by_cases hword : String.ofList (c :: rest.takeWhile continuesName) ∈ connectives.map Prod.fst
    · obtain ⟨⟨s, token⟩, hmem, hs⟩ := List.mem_map.1 hword
      rw [← hs, ofWord_of_mem hmem]
      exact ⟨_, .word hmem⟩
    · have hidentifier : isIdentifier (c :: rest.takeWhile continuesName) :=
        Bool.and_eq_true_iff.2 ⟨hc, hall⟩
      rw [ofWord_of_not_mem hword]
      exact ⟨_, .name (by rwa [String.toList_ofList]) hword⟩

/-- The tokens of a text can be written. -/
theorem isSpellable_of_mem {total : Nat} (h : ofCharsFrom total chars = .ok tokens) :
    ∀ token ∈ tokens, token.IsSpellable := by
  fun_induction ofCharsFrom total chars generalizing tokens with
  | case1 =>
    cases h
    exact List.forall_mem_nil _
  | case2 c rest hspace ih => exact ih h
  | case3 => cases h
  | case4 => cases h
  | case5 c rest hspace token after htake ih =>
    obtain ⟨tokens, htokens, rfl⟩ := exists_of_map_eq_ok h
    have hfirst := exists_spelled_iff.1 (take_eq_ok_iff.1 htake).exists_spelled
    exact List.forall_mem_cons.2 ⟨hfirst, ih htokens⟩

/-- **The lists of tokens that are read from texts.** -/
theorem exists_ofText_eq_iff :
    (∃ text, ofText text = .ok tokens) ↔ ∀ token ∈ tokens, token.IsSpellable := by
  constructor
  · rintro ⟨text, h⟩
    exact isSpellable_of_mem h
  · intro h
    obtain ⟨text, htext⟩ := exists_spaced_iff.2 h
    refine ⟨String.ofList text, ?_⟩
    rw [ofText, String.toList_ofList]
    exact ofCharsFrom_of_spaced htext _

/-- The negative of an integer without sign has 64 bits, too. -/
theorem toInt_neg_of_isSpellable {n : Int64} (h : (int n).IsSpellable) :
    (-n).toInt = -n.toInt := by
  have hsign : 0 ≤ n.toInt := h
  have hbound := n.toInt_lt
  rw [Int64.toInt_neg]
  exact Int.bmod_eq_of_le (by omega) (by omega)

/-- **Tokens are read as they were written.** Those can be written that are no names of connectives
and no numbers with a sign. In whatever way they are written, with white space between neighbours,
they are read back. The negative of an integer that is read from a text has 64 bits, too. -/
theorem tokens_read_back :
    (∀ tokens, (∃ text, Spaced tokens text) ↔ ∀ token ∈ tokens, token.IsSpellable) ∧
      (∀ tokens (text : String), Spaced tokens text.toList → ofText text = .ok tokens) ∧
      ∀ text tokens, ofText text = .ok tokens →
        ∀ n, int n ∈ tokens → (-n).toInt = -n.toInt := by
  refine ⟨fun tokens => exists_spaced_iff, fun tokens text h => ofCharsFrom_of_spaced h _, ?_⟩
  intro text tokens h n hn
  exact toInt_neg_of_isSpellable (isSpellable_of_mem h _ hn)

/-- Names, signs, numbers and a text, with white space of several kinds between them. -/
theorem tokens_read_back_of_condition :
    let tokens : List Token :=
      [name "größe", compare .le, minus, int 9223372036854775807, and, not, text "it's \\",
        compare .ne, decimal ⟨750, 2⟩]
    let condition := "größe <= - 9223372036854775807\t&& not \n'it\\'s \\\\' != 007.50"
    Spaced tokens condition.toList ∧ ofText condition = .ok tokens ∧
      (-9223372036854775807 : Int64).toInt = -9223372036854775807 := by
  intro tokens condition
  have hgap : ∀ c ∈ [' '], isSpace c := List.all_eq_true.1 rfl
  have htab : ∀ c ∈ ['\t'], isSpace c := List.all_eq_true.1 rfl
  have hline : ∀ c ∈ [' ', '\n'], isSpace c := List.all_eq_true.1 rfl
  have hname : Spelled (name "größe") _ := .name (by decide) (by decide)
  have hle : Spelled (compare .le) ['<', '='] := .double (by decide)
  have hminus : Spelled minus ['-'] := .single (by decide)
  have hint : Spelled (int 9223372036854775807) _ := spelled_int (by decide)
  have hand : Spelled and ['&', '&'] := .double (by decide)
  have hnot : Spelled not "not".toList := .word (by decide)
  have htext : Spelled (text "it's \\") _ := .text (show '\'' ∈ quotes by decide) _
  have hne : Spelled (compare .ne) ['!', '='] := .double (by decide)
  have hwhole : IsDigits ['0', '0', '7'] := by decide
  have hfraction : IsDigits ['5', '0'] := by decide
  have hdecimal : Spelled (decimal ⟨750, 2⟩) _ := .fraction hwhole hfraction
  have hwritten := Spaced.cons hname hgap nofun <| .cons hle hgap nofun <|
    .cons hminus hgap nofun <| .cons hint htab nofun <| .cons hand hgap nofun <|
    .cons hnot hline nofun <| .cons htext hgap nofun <| .cons hne hgap nofun <|
    .cons hdecimal (List.forall_mem_nil _) (absurd rfl) .nil
  have hspaced : Spaced tokens condition.toList :=
    Eq.subst (motive := Spaced tokens) (by decide +kernel) hwritten
  obtain ⟨-, hread, hnegative⟩ := tokens_read_back
  have htokens := hread tokens condition hspaced
  exact ⟨hspaced, htokens, hnegative condition tokens htokens _ (by simp [tokens])⟩

end SqlTemplate.Token
