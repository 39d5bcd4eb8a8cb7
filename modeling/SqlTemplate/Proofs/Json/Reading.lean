import SqlTemplate.Json.Writer
import SqlTemplate.Proofs.Text.Cut

/-!
# Compact JSON texts are read back

**Theorem (`read?_compact`).** The compact text of a document is read as that document, if each text
in it has its characters and each numeral in it is written with digits where JSON asks for them.

Reading goes by tokens, and so does the proof. The compact text has the tokens of the document, one
after the other with nothing between them (`lexes_compact`): a text ends at its quote, and a numeral
where something follows that cannot belong to it (`Follows`). Given these tokens, the builder puts
the document into the place that waits for a value (`foldlM_tokens`).
-/

namespace SqlTemplate.Json

/-! ## Texts between quotes -/

theorem hexNumber?_of_lt : ∀ n < 0x20,
    Text.hexNumber? ['0', '0', Nat.digitChar (n / 16), Nat.digitChar (n % 16)] = some n := by
  decide

/-- A piece is decoded to a character, whatever follows. -/
def Piece.Denotes (piece : Piece) (c : Char) : Prop :=
  ∀ pieces, decodePieces (piece :: pieces) = (decodePieces pieces).map (c :: ·)

theorem Piece.denotes_char (c : Char) : Denotes (.char c) c := fun _ => by rw [decodePieces]

/-- A unit that is no half of a pair stands for a character of its own. -/
theorem Piece.denotes_unit {c : Char} (h : c.toNat < 0xd800) : Denotes (.unit c.toNat) c := by
  have hlead : isLead c.toNat = false := by
    rw [isLead, decide_eq_false (by omega), Bool.false_and]
  have htrail : isTrail c.toNat = false := by
    rw [isTrail, decide_eq_false (by omega), Bool.false_and]
  intro pieces
  cases pieces with
  | nil => simp [decodePieces, hlead, htrail]
  | cons piece rest => cases piece <;> simp [decodePieces, hlead, htrail]

/-- **What is written for a character is read as a piece that stands for it.** -/
theorem exists_takeText_escapeChar (c : Char) :
    ∃ piece, Piece.Denotes piece c ∧ ∀ rest, takeText (escapeChar c ++ rest) =
      (takeText rest).map fun taken => (piece :: taken.1, taken.2) := by
  have hbind (piece : Piece) (taken : Option (List Piece × List Char)) :
      (taken.bind fun taken => some (piece :: taken.1, taken.2)) =
        taken.map fun taken => (piece :: taken.1, taken.2) := by
    cases taken <;> rfl
  rw [escapeChar.eq_def]
  -- Seven characters have an escape of one letter; any other is escaped by its number or stands as
  -- it is, and then it is neither a quote nor a backslash.
  split
  case h_8 h₁ h₂ _ _ _ _ _ =>
    split
    · next hlt =>
      refine ⟨.unit c.toNat, Piece.denotes_unit (by omega), fun rest => ?_⟩
      rw [← hbind]
      simp only [List.cons_append, List.nil_append, takeText, hexNumber?_of_lt c.toNat hlt]
      rfl
    · next hge =>
      refine ⟨.char c, Piece.denotes_char c, fun rest => ?_⟩
      rw [← hbind, List.singleton_append, takeText, if_neg hge]
      · rfl
      all_goals simp_all
  all_goals
    refine ⟨.char _, Piece.denotes_char _, fun rest => ?_⟩
    rw [← hbind]
    rfl

/-- A text is read up to the quote that closes it. -/
theorem exists_takeText_flatMap (text rest : List Char) :
    ∃ pieces, takeText (text.flatMap escapeChar ++ '"' :: rest) = some (pieces, rest) ∧
      decodePieces pieces = some text := by
  induction text with
  | nil => exact ⟨[], by rw [List.flatMap_nil, List.nil_append, takeText], by rw [decodePieces]⟩
  | cons c text ih =>
    obtain ⟨piece, hdenotes, htake⟩ := exists_takeText_escapeChar c
    obtain ⟨pieces, hpieces, hdecode⟩ := ih
    refine ⟨piece :: pieces, ?_, ?_⟩
    · rw [List.flatMap_cons, List.append_assoc, htake, hpieces, Option.map_some]
    · rw [hdenotes, hdecode, Option.map_some]

/-! ## Numerals -/

/-- What may follow a value. -/
def Follows (rest : List Char) : Prop := ∀ c ∈ rest.head?, c = ',' ∨ c = ']' ∨ c = '\x7d'

theorem follows_cons {c : Char} {rest : List Char} (h : c = ',' ∨ c = ']' ∨ c = '\x7d') :
    Follows (c :: rest) := by
  rintro _ ⟨⟩
  exact h

/-- Digits, at least one. -/
structure IsDigits (digits : List Char) : Prop where
  ne_nil : digits ≠ []
  isDigit : ∀ c ∈ digits, c.isDigit

/-- A numeral has digits wherever it needs some, and no zero before them. -/
structure Numeral.WellFormed (n : Numeral) : Prop where
  whole : IsDigits n.whole
  leading : n.whole.head? = some '0' → n.whole.length = 1
  fraction : ∀ digits ∈ n.fraction, IsDigits digits
  exponent : ∀ e ∈ n.exponent, IsDigits e.2

theorem takeDigits_append {digits rest : List Char} (h : IsDigits digits)
    (hrest : ∀ c ∈ rest.head?, c.isDigit = false) :
    takeDigits (digits ++ rest) = (digits, rest) := by
  rw [takeDigits, Text.takeWhile_append_of_head hrest, Text.dropWhile_append_of_head hrest,
    List.takeWhile_eq_self_iff.2 h.isDigit, List.dropWhile_eq_nil_iff.2 h.isDigit, List.nil_append]

theorem Follows.isDigit {rest : List Char} (h : Follows rest) :
    ∀ c ∈ rest.head?, c.isDigit = false := by
  intro c hc
  rcases h c hc with rfl | rfl | rfl <;> rfl

/-- The exponent as it is written. -/
def exponentChars : Option (Bool × List Char) → List Char
  | some (negative, digits) => 'e' :: (if negative then '-' else '+') :: digits
  | none => []

/-- The fraction as it is written. -/
def fractionChars : Option (List Char) → List Char
  | some digits => '.' :: digits
  | none => []

theorem head?_exponentChars_append (exponent : Option (Bool × List Char)) {rest : List Char}
    (hrest : Follows rest) :
    ∀ c ∈ (exponentChars exponent ++ rest).head?, c.isDigit = false ∧ c ≠ '.' := by
  intro c hc
  cases exponent with
  | none => rcases hrest c hc with rfl | rfl | rfl <;> decide
  | some exponent =>
    obtain rfl : 'e' = c := Option.some.inj hc
    decide

theorem head?_fractionChars_append (fraction : Option (List Char)) {rest : List Char}
    (hrest : ∀ c ∈ rest.head?, c.isDigit = false) :
    ∀ c ∈ (fractionChars fraction ++ rest).head?, c.isDigit = false := by
  intro c hc
  cases fraction with
  | none => exact hrest c hc
  | some digits =>
    obtain rfl : '.' = c := Option.some.inj hc
    rfl

theorem takeExponent?_append {exponent : Option (Bool × List Char)} {rest : List Char}
    (h : ∀ e ∈ exponent, IsDigits e.2) (hrest : Follows rest) :
    takeExponent? (exponentChars exponent ++ rest) = some (exponent, rest) := by
  rcases exponent with _ | ⟨negative, digits⟩
  · rw [exponentChars, List.nil_append]
    cases rest with
    | nil => rfl
    | cons c rest => rcases hrest c rfl with rfl | rfl | rfl <;> rfl
  · have hdigits : IsDigits digits := h _ rfl
    have hempty : digits.isEmpty = false := List.isEmpty_eq_false_iff.2 hdigits.ne_nil
    have htake := takeDigits_append hdigits hrest.isDigit
    cases negative <;> simp [exponentChars, takeExponent?, htake, hempty]

theorem takeFraction?_append {fraction : Option (List Char)} {rest : List Char}
    (h : ∀ digits ∈ fraction, IsDigits digits) (hdigit : ∀ c ∈ rest.head?, c.isDigit = false)
    (hpoint : rest.head? ≠ some '.') :
    takeFraction? (fractionChars fraction ++ rest) = some (fraction, rest) := by
  cases fraction with
  | none =>
    rw [fractionChars, List.nil_append, takeFraction?.eq_2]
    rintro rest rfl
    exact hpoint rfl
  | some digits =>
    have hdigits : IsDigits digits := h _ rfl
    have hempty : digits.isEmpty = false := List.isEmpty_eq_false_iff.2 hdigits.ne_nil
    simp [fractionChars, takeFraction?, takeDigits_append hdigits hdigit, hempty]

/-- A numeral is read up to what follows it. -/
theorem takeNumeral?_append {n : Numeral} {rest : List Char} (h : n.WellFormed)
    (hrest : Follows rest) :
    takeNumeral? n.negative
      (n.whole ++ (fractionChars n.fraction ++ (exponentChars n.exponent ++ rest))) =
        some (n, rest) := by
  have hexponent := head?_exponentChars_append n.exponent hrest
  have hfraction := head?_fractionChars_append n.fraction fun c hc => (hexponent c hc).1
  have hempty : n.whole.isEmpty = false := List.isEmpty_eq_false_iff.2 h.whole.ne_nil
  have hleading : (n.whole.head? == some '0' && decide (1 < n.whole.length)) = false := by
    by_cases hzero : n.whole.head? = some '0'
    · simp [h.leading hzero]
    · rw [beq_eq_false_iff_ne.2 hzero, Bool.false_and]
  rw [takeNumeral?, takeDigits_append h.whole hfraction]
  simp only [hempty, hleading, Bool.or_self, Bool.false_eq_true, if_false]
  rw [takeFraction?_append h.fraction (fun c hc => (hexponent c hc).1)
    (fun hpoint => (hexponent _ hpoint).2 rfl)]
  simp [takeExponent?_append h.exponent hrest]

theorem toList_toText (n : Numeral) :
    n.toText.toList = (if n.negative then ['-'] else []) ++
      (n.whole ++ (fractionChars n.fraction ++ exponentChars n.exponent)) := by
  rw [Numeral.toText, String.toList_ofList, List.append_assoc, List.append_assoc]
  rfl

/-! ## The tokens of a document -/

namespace Document

mutual

/-- Texts have their characters, and numerals are well formed. -/
def WellFormed : Document → Prop
  | .null | .bool _ => True
  | .number n => n.WellFormed
  | .text content => content.isSome
  | .array items => WellFormedItems items
  | .object members => WellFormedMembers members

/-- The items of an array are well formed. -/
def WellFormedItems : List Document → Prop
  | [] => True
  | item :: rest => WellFormed item ∧ WellFormedItems rest

/-- The keys and values of the members of an object are well formed. -/
def WellFormedMembers : Members → Prop
  | [] => True
  | (key, value) :: rest => key.isSome ∧ WellFormed value ∧ WellFormedMembers rest

end

theorem wellFormedMembers_iff {members : Members} :
    WellFormedMembers members ↔ ∀ m ∈ members, m.1.isSome ∧ m.2.WellFormed := by
  induction members with
  | nil => simp [WellFormedMembers]
  | cons member rest ih => rw [WellFormedMembers, ih, List.forall_mem_cons, and_assoc]

mutual

/-- The tokens of a document. -/
def tokens : Document → List Token
  | .null => [.null]
  | .bool b => [.bool b]
  | .number n => [.number n]
  | .text content => [.text content]
  | .array items => .openArray :: (itemTokens items ++ [.closeArray])
  | .object members => .openObject :: (memberTokens members ++ [.closeObject])

/-- The tokens of the items of an array, with a comma between two of them. -/
def itemTokens : List Document → List Token
  | [] => []
  | [item] => tokens item
  | item :: next :: rest => tokens item ++ .comma :: itemTokens (next :: rest)

/-- The tokens of the members of an object, with a comma between two of them. -/
def memberTokens : Members → List Token
  | [] => []
  | [(key, value)] => .text key :: .colon :: tokens value
  | (key, value) :: next :: rest =>
    .text key :: .colon :: (tokens value ++ .comma :: memberTokens (next :: rest))

end

end Document

/-- A text has certain tokens where certain characters follow. -/
def Lexes (text : List Char) (tokens : List Token) (rest : List Char) : Prop :=
  tokens? (text ++ rest) = (tokens? rest).map (tokens ++ ·)

section lexes

variable {text more rest : List Char} {tokens others : List Token}

theorem lexes_nil : Lexes [] [] rest := by
  simp [Lexes]

theorem Lexes.append (h : Lexes text tokens (more ++ rest)) (hmore : Lexes more others rest) :
    Lexes (text ++ more) (tokens ++ others) rest := by
  rw [Lexes, List.append_assoc, h, hmore, Option.map_map]
  exact congrArg (Option.map · _) (funext fun _ => (List.append_assoc ..).symm)

/-- A token that a text starts with is its first. -/
theorem lexes_of_takeToken? {c : Char} {token : Token} (hgap : isGap c = false)
    (h : takeToken? c (text ++ rest) = some (token, rest)) : Lexes (c :: text) [token] rest := by
  rw [Lexes, List.cons_append, tokens?, if_neg (Bool.eq_false_iff.1 hgap)]
  split
  · next hnone =>
    rw [h] at hnone
    cases hnone
  · next hsome =>
    cases h.symm.trans hsome
    rfl

/-- A token of one character. -/
theorem Lexes.cons {c : Char} {token : Token} (hgap : isGap c = false)
    (htake : ∀ rest, takeToken? c rest = some (token, rest)) (h : Lexes text tokens rest) :
    Lexes (c :: text) (token :: tokens) rest := by
  have hfirst : Lexes [c] [token] (text ++ rest) := lexes_of_takeToken? hgap (htake _)
  exact hfirst.append h

theorem lexes_quoted (s : String) (rest : List Char) :
    Lexes (quoted s).toList [.text (some s)] rest := by
  obtain ⟨pieces, htake, hdecode⟩ := exists_takeText_flatMap s.toList rest
  rw [quoted, String.toList_ofList, List.cons_append]
  refine lexes_of_takeToken? rfl ?_
  rw [takeToken?, List.append_assoc, List.singleton_append, htake, Option.map_some]
  dsimp only
  rw [hdecode, Option.map_some, String.ofList_toList]

theorem isGap_of_isDigit {c : Char} (h : c.isDigit) : isGap c = false := by
  refine Bool.eq_false_iff.2 fun hgap => ?_
  simp only [isGap, Bool.or_eq_true, beq_iff_eq] at hgap
  rcases hgap with ((rfl | rfl) | rfl) | rfl <;> exact absurd h (by decide)

theorem takeToken?_of_isDigit {c : Char} (h : c.isDigit) :
    takeToken? c rest = (takeNumeral? false (c :: rest)).map fun taken =>
      (.number taken.1, taken.2) := by
  unfold takeToken?
  split
  all_goals first | exact absurd h (by decide) | rw [if_pos h]

theorem lexes_toText {n : Numeral} (h : n.WellFormed) (hrest : Follows rest) :
    Lexes n.toText.toList [.number n] rest := by
  have htake := takeNumeral?_append h hrest
  rw [toList_toText]
  cases hnegative : n.negative with
  | true =>
    rw [hnegative] at htake
    rw [if_pos rfl, List.singleton_append]
    refine lexes_of_takeToken? rfl ?_
    rw [takeToken?, List.append_assoc, List.append_assoc, htake, Option.map_some]
  | false =>
    rw [hnegative] at htake
    obtain ⟨c, digits, hwhole⟩ := List.exists_cons_of_ne_nil h.whole.ne_nil
    have hdigit : c.isDigit := h.whole.isDigit c (hwhole ▸ List.mem_cons_self)
    rw [hwhole, List.cons_append] at htake
    rw [if_neg Bool.false_ne_true, List.nil_append, hwhole, List.cons_append]
    refine lexes_of_takeToken? (isGap_of_isDigit hdigit) ?_
    rw [takeToken?_of_isDigit hdigit, List.append_assoc, List.append_assoc, htake, Option.map_some]

end lexes

/-! ## What is written for a document has its tokens -/

theorem toList_compact_array (items : List Document) :
    (Document.array items).compact.toList =
      '[' :: ((",".intercalate (Document.compactItems items)).toList ++ [']']) := by
  simp [Document.compact]

theorem toList_compact_object (members : Members) :
    (Document.object members).compact.toList =
      '\x7b' :: ((",".intercalate (Document.compactMembers members)).toList ++ ['\x7d']) := by
  simp [Document.compact]

theorem toList_intercalate_cons (first next : String) (rest : List String) :
    (",".intercalate (first :: next :: rest)).toList =
      first.toList ++ ',' :: (",".intercalate (next :: rest)).toList := by
  simp [String.intercalate_cons_cons]

theorem toList_member (key : String) (value : Document) :
    (Document.quotedText (some key) ++ ":" ++ value.compact).toList =
      (quoted key).toList ++ ':' :: value.compact.toList := by
  simp [Document.quotedText]

mutual

/-- **The compact text of a document has the tokens of the document.** -/
theorem lexes_compact : (d : Document) → d.WellFormed → {rest : List Char} → Follows rest →
    Lexes d.compact.toList d.tokens rest
  | .null, _, rest, _ => lexes_of_takeToken? rfl (by rfl)
  | .bool true, _, rest, _ => lexes_of_takeToken? rfl (by rfl)
  | .bool false, _, rest, _ => lexes_of_takeToken? rfl (by rfl)
  | .number n, h, rest, hrest => lexes_toText h hrest
  | .text (some s), _, rest, _ => lexes_quoted s rest
  | .array items, h, rest, _ => by
    rw [toList_compact_array, Document.tokens]
    have hclose : Lexes [']'] [.closeArray] rest := .cons rfl (fun _ => rfl) lexes_nil
    exact .cons rfl (fun _ => rfl)
      ((lexes_compactItems items h (follows_cons (by simp))).append hclose)
  | .object members, h, rest, _ => by
    rw [toList_compact_object, Document.tokens]
    have hclose : Lexes ['\x7d'] [.closeObject] rest := .cons rfl (fun _ => rfl) lexes_nil
    exact .cons rfl (fun _ => rfl)
      ((lexes_compactMembers members h (follows_cons (by simp))).append hclose)

theorem lexes_compactItems : (items : List Document) → Document.WellFormedItems items →
    {rest : List Char} → Follows rest →
    Lexes (",".intercalate (Document.compactItems items)).toList (Document.itemTokens items) rest
  | [], _, rest, _ => lexes_nil
  | [item], h, rest, hrest => lexes_compact item h.1 hrest
  | item :: next :: more, h, rest, hrest => by
    rw [Document.compactItems, Document.compactItems, toList_intercalate_cons,
      ← Document.compactItems, Document.itemTokens]
    exact (lexes_compact item h.1 (follows_cons (by simp))).append
      (.cons rfl (fun _ => rfl) (lexes_compactItems (next :: more) h.2 hrest))

theorem lexes_compactMembers : (members : Members) → Document.WellFormedMembers members →
    {rest : List Char} → Follows rest →
    Lexes (",".intercalate (Document.compactMembers members)).toList
      (Document.memberTokens members) rest
  | [], _, rest, _ => lexes_nil
  | [(some key, value)], h, rest, hrest => by
    rw [Document.compactMembers, Document.compactMembers, String.intercalate_singleton,
      toList_member, Document.memberTokens]
    exact (lexes_quoted key _).append (.cons rfl (fun _ => rfl) (lexes_compact value h.2.1 hrest))
  | (some key, value) :: next :: more, h, rest, hrest => by
    rw [Document.compactMembers, Document.compactMembers, toList_intercalate_cons,
      ← Document.compactMembers, toList_member, Document.memberTokens, List.append_assoc]
    have hvalue : Lexes value.compact.toList value.tokens
        (',' :: ((",".intercalate (Document.compactMembers (next :: more))).toList ++ rest)) :=
      lexes_compact value h.2.1 (follows_cons (by simp))
    exact (lexes_quoted key _).append (.cons rfl (fun _ => rfl) (hvalue.append
      (.cons rfl (fun _ => rfl) (lexes_compactMembers (next :: more) h.2.2 hrest))))

end

/-! ## The builder gives the document back -/

namespace Builder

theorem foldlM_cons {b b' : Builder} {token : Token} {tokens : List Token}
    (h : step? b token = some b') :
    (token :: tokens).foldlM step? b = tokens.foldlM step? b' := by
  rw [List.foldlM_cons, h, Option.bind_eq_bind, Option.bind_some]

theorem foldlM_append {b b' : Builder} {tokens more : List Token}
    (h : tokens.foldlM step? b = some b') :
    (tokens ++ more).foldlM step? b = more.foldlM step? b' := by
  rw [List.foldlM_append, h, Option.bind_eq_bind, Option.bind_some]

/-- The tokens of a document start a value. -/
theorem exists_tokens (d : Document) : ∃ token tokens, d.tokens = token :: tokens ∧
    ∀ places, step? (.firstItem places) token = step? (.value (.item [] :: places)) token := by
  cases d <;> exact ⟨_, _, by rw [Document.tokens], fun _ => rfl⟩

/-- The first item of an array is read like one after a comma. -/
theorem foldlM_firstItem (item : Document) (rest : List Document) (places : List Pending) :
    (Document.itemTokens (item :: rest)).foldlM step? (.firstItem places) =
      (Document.itemTokens (item :: rest)).foldlM step? (.value (.item [] :: places)) := by
  obtain ⟨token, tokens, htokens, hstep⟩ := exists_tokens item
  cases rest <;>
    simp only [Document.itemTokens, htokens, List.cons_append, List.foldlM_cons, hstep]

/-- The first key of an object is read like one after a comma. -/
theorem foldlM_firstKey (member : Option String × Document) (rest : Members)
    (places : List Pending) :
    (Document.memberTokens (member :: rest)).foldlM step? (.firstKey places) =
      (Document.memberTokens (member :: rest)).foldlM step? (.nextKey [] places) := by
  cases rest <;> rfl

mutual

/-- **The tokens of a document put it into the place that waits for a value.** -/
theorem foldlM_tokens : (d : Document) → (places : List Pending) →
    d.tokens.foldlM step? (.value places) = some (finish d places)
  | .null, places | .bool _, places | .number _, places | .text _, places => rfl
  | .array [], places => rfl
  | .array (item :: rest), places => by
    have hopen : step? (.value places) .openArray = some (.firstItem places) := rfl
    have hitems := (foldlM_firstItem item rest places).trans
      (foldlM_itemTokens (item :: rest) nofun [] places)
    rw [Document.tokens, foldlM_cons hopen, foldlM_append hitems, foldlM_cons rfl, List.append_nil,
      List.reverse_reverse]
    rfl
  | .object [], places => rfl
  | .object (member :: rest), places => by
    have hopen : step? (.value places) .openObject = some (.firstKey places) := rfl
    have hmembers := (foldlM_firstKey member rest places).trans
      (foldlM_memberTokens (member :: rest) nofun [] places)
    rw [Document.tokens, foldlM_cons hopen, foldlM_append hmembers, foldlM_cons rfl,
      List.append_nil, List.reverse_reverse]
    rfl

theorem foldlM_itemTokens : (items : List Document) → items ≠ [] → (before : List Document) →
    (places : List Pending) →
    (Document.itemTokens items).foldlM step? (.value (.item before :: places)) =
      some (.afterItem (items.reverse ++ before) places)
  | [item], _, before, places => foldlM_tokens item (.item before :: places)
  | item :: next :: rest, _, before, places => by
    rw [Document.itemTokens, foldlM_append (foldlM_tokens item (.item before :: places)),
      foldlM_cons rfl, foldlM_itemTokens (next :: rest) nofun (item :: before) places]
    simp

theorem foldlM_memberTokens : (members : Members) → members ≠ [] → (before : Members) →
    (places : List Pending) →
    (Document.memberTokens members).foldlM step? (.nextKey before places) =
      some (.afterMember (members.reverse ++ before) places)
  | [(key, document)], _, before, places => by
    rw [Document.memberTokens, foldlM_cons rfl, foldlM_cons rfl]
    exact foldlM_tokens document (.member before key :: places)
  | (key, document) :: next :: rest, _, before, places => by
    rw [Document.memberTokens, foldlM_cons rfl, foldlM_cons rfl,
      foldlM_append (foldlM_tokens document (.member before key :: places)), foldlM_cons rfl,
      foldlM_memberTokens (next :: rest) nofun ((key, document) :: before) places]
    simp

end

end Builder

/-- **A document is read back from its compact text.** -/
theorem read?_compact (d : Document) (h : d.WellFormed) : Document.read? d.compact = some d := by
  have hlexes : tokens? (d.compact.toList ++ []) = (tokens? []).map (d.tokens ++ ·) :=
    lexes_compact d h nofun
  rw [List.append_nil, tokens?, Option.map_some, List.append_nil] at hlexes
  rw [Document.read?, hlexes, Option.bind_eq_bind, Option.bind_some, Builder.run?,
    Builder.foldlM_tokens]
  rfl

end SqlTemplate.Json
