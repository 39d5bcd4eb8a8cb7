import SqlTemplate.Proofs.Expr.Meaning

/-!
# Comparisons between values

Two numbers of any kind are compared as the rational numbers that their decimals stand for, two
texts by code points. `TotallyOrdered` says of some values that the six comparisons between them are
those of one total order.

**Theorem (`compared_in_one_order`).** The values with a decimal are totally ordered, by the numbers
that they stand for, and so are the texts. Any other two values are equal or not, and every other
comparison between them is a fault.

A class of values is totally ordered if each of them has a key in a linear order and comparing
values is comparing their keys (`TotallyOrdered.of_key`); both classes are cases of that.
-/

namespace SqlTemplate

/-! ## Asking for a comparison -/

namespace Comparison

/-- The text that compares two names. -/
def question : Comparison → String
  | eq => "a == b"
  | ne => "a != b"
  | lt => "a < b"
  | le => "a <= b"
  | gt => "a > b"
  | ge => "a >= b"

/-- The phrase of this text. -/
def questionPhrase (c : Comparison) : Phrase .disjunction :=
  .alone (.compare c (.path (.name "a" (by decide))) (.path (.name "b" (by decide))))

theorem ofText_question (c : Comparison) :
    Token.ofText c.question = .ok c.questionPhrase.tokens := by
  cases c <;> decide +kernel

end Comparison

namespace Value

/-- The scope in which the two names stand for these values. -/
def pair (a b : Value) : Scope := fun name =>
  if name = "a" then some a else if name = "b" then some b else none

/-- What an expression answers to a comparison of two values. -/
def asked (c : Comparison) (a b : Value) : Except Fault Value :=
  Expr.evalText c.question (pair a b)

/-- A comparison of two values is true. -/
def Holds (c : Comparison) (a b : Value) : Prop := asked c a b = .ok (.bool true)

variable {a b : Value}

theorem asked_eq (c : Comparison) (a b : Value) : asked c a b = (a.compare c b).map .bool := by
  rw [asked, Expr.evalText_of_phrase c.ofText_question (Nat.zero_le _)]
  change (do return bool (← a.compare c b) : Except Fault Value) = (a.compare c b).map bool
  cases a.compare c b <;> rfl

theorem asked_eq_ok_iff {c : Comparison} {holds : Bool} :
    asked c a b = .ok (.bool holds) ↔ a.compare c b = .ok holds := by
  rw [asked_eq]
  cases a.compare c b <;> simp [Except.map]

theorem holds_iff {c : Comparison} : Holds c a b ↔ a.compare c b = .ok true := asked_eq_ok_iff

/-! ## Classes of values in one order -/

/-- The comparisons between the values of a class are those of one total order. -/
structure TotallyOrdered (S : Value → Prop) : Prop where
  answer : ∀ {a b}, S a → S b → ∀ c, ∃ holds, asked c a b = .ok (.bool holds)
  trichotomy : ∀ {a b}, S a → S b →
    Holds .lt a b ∧ ¬ Holds .eq a b ∧ ¬ Holds .gt a b ∨
      ¬ Holds .lt a b ∧ Holds .eq a b ∧ ¬ Holds .gt a b ∨
      ¬ Holds .lt a b ∧ ¬ Holds .eq a b ∧ Holds .gt a b
  le_iff : ∀ {a b}, S a → S b → (Holds .le a b ↔ Holds .lt a b ∨ Holds .eq a b)
  ge_iff : ∀ {a b}, S a → S b → (Holds .ge a b ↔ Holds .le b a)
  ne_iff : ∀ {a b}, S a → S b → (Holds .ne a b ↔ ¬ Holds .eq a b)
  gt_iff : ∀ {a b}, S a → S b → (Holds .gt a b ↔ Holds .lt b a)
  eq_refl : ∀ {a}, S a → Holds .eq a a
  eq_symm : ∀ {a b}, S a → S b → Holds .eq a b → Holds .eq b a
  eq_trans : ∀ {a b c}, S a → S b → S c → Holds .eq a b → Holds .eq b c → Holds .eq a c
  lt_trans : ∀ {a b c}, S a → S b → S c → Holds .lt a b → Holds .lt b c → Holds .lt a c
  lt_congr : ∀ {a a' b b'}, S a → S a' → S b → S b' → Holds .eq a a' → Holds .eq b b' →
    (Holds .lt a b ↔ Holds .lt a' b')

/-- Values that are compared by a key in a linear order are totally ordered. -/
theorem TotallyOrdered.of_key {α : Type} [LinearOrder α] {S : Value → Prop} (key : Value → α)
    (h : ∀ {a b}, S a → S b → ∀ c, a.compare c b = .ok (c.admits (Ord.compare (key a) (key b)))) :
    TotallyOrdered S := by
  have hholds {a b : Value} (ha : S a) (hb : S b) (c : Comparison) :
      Holds c a b ↔ c.Relates (key a) (key b) := by
    rw [holds_iff, h ha hb, Except.ok.injEq, Comparison.admits_compare_iff]
  constructor
  · intro a b ha hb c
    exact ⟨_, asked_eq_ok_iff.2 (h ha hb c)⟩
  · intro a b ha hb
    simp only [hholds ha hb, Comparison.Relates]
    rcases lt_trichotomy (key a) (key b) with hlt | heq | hgt
    · exact .inl ⟨hlt, hlt.ne, hlt.asymm⟩
    · exact .inr (.inl ⟨heq.not_lt, heq, heq.not_gt⟩)
    · exact .inr (.inr ⟨hgt.asymm, hgt.ne', hgt⟩)
  · intro a b ha hb
    simp only [hholds ha hb, Comparison.Relates, le_iff_lt_or_eq]
  · intro a b ha hb
    simp only [hholds ha hb, hholds hb ha, Comparison.Relates]
  · intro a b ha hb
    simp only [hholds ha hb, Comparison.Relates, ne_eq]
  · intro a b ha hb
    simp only [hholds ha hb, hholds hb ha, Comparison.Relates]
  · intro a ha
    rw [hholds ha ha, Comparison.Relates]
  · intro a b ha hb
    simp only [hholds ha hb, hholds hb ha, Comparison.Relates]
    exact Eq.symm
  · intro a b c ha hb hc
    simp only [hholds ha hb, hholds hb hc, hholds ha hc, Comparison.Relates]
    exact Eq.trans
  · intro a b c ha hb hc
    simp only [hholds ha hb, hholds hb hc, hholds ha hc, Comparison.Relates]
    exact fun hab hbc => hab.trans hbc
  · intro a a' b b' ha ha' hb hb'
    simp only [hholds ha ha', hholds hb hb', hholds ha hb, hholds ha' hb', Comparison.Relates]
    intro heq heq'
    rw [heq, heq']

/-! ## Numbers and texts -/

end Value

/-- The exponent of a floating-point number is not the one of infinities and of what is no
number. -/
def Double.IsFinite (x : Float) : Prop := x.toBits.toNat / 0x10000000000000 % 0x800 ≠ 0x7ff

theorem Double.exists_toDecimal?_iff {x : Float} :
    (∃ d, toDecimal? x = some d) ↔ IsFinite x := by
  rw [IsFinite, toDecimal?, shape]
  dsimp only
  split_ifs <;> simp_all

namespace Value

/-- A value has a decimal. -/
def IsNumeric (v : Value) : Prop := ∃ x, v.toDecimal? = some x

variable {a b : Value}

/-- A value is a text. -/
def IsText (v : Value) : Prop := ∃ s, v = text s

theorem isNumeric_iff {v : Value} :
    v.IsNumeric ↔ (∃ n, v = int n) ∨ (∃ d, v = decimal d) ∨
      ∃ x, v = float x ∧ Double.IsFinite x := by
  cases v with
  | float x => simp [IsNumeric, toDecimal?, Double.exists_toDecimal?_iff]
  | _ => simp [IsNumeric, toDecimal?]

/-- The number that a value with a decimal stands for. -/
def number (v : Value) : ℚ := (v.toDecimal?.map Decimal.value).getD 0

theorem number_eq {v : Value} {x : Decimal} (h : v.toDecimal? = some x) :
    v.number = x.value := by
  rw [number, h]
  rfl

theorem compare_of_numeric (ha : a.IsNumeric) (hb : b.IsNumeric) (c : Comparison) :
    a.compare c b = .ok (c.admits (Ord.compare a.number b.number)) := by
  obtain ⟨x, hx⟩ := ha
  obtain ⟨y, hy⟩ := hb
  rw [compare_of_decimals hx hy, number_eq hx, number_eq hy]

theorem totallyOrdered_numeric : TotallyOrdered IsNumeric := .of_key number compare_of_numeric

theorem totallyOrdered_text : TotallyOrdered IsText := by
  refine .of_key (fun v => v.text?.getD "") ?_
  rintro _ _ ⟨s, rfl⟩ ⟨t, rfl⟩ c
  exact compare_of_texts

/-! ## Exact values -/

theorem holds_iff_number (ha : a.IsNumeric) (hb : b.IsNumeric) {c : Comparison} :
    Holds c a b ↔ c.Relates a.number b.number := by
  rw [holds_iff, compare_of_numeric ha hb, Except.ok.injEq, Comparison.admits_compare_iff]

theorem number_int (n : Int64) : (int n).number = n.toInt := by
  rw [number_eq (x := .ofInt n.toInt) rfl, Decimal.value]
  simp [Decimal.ofInt]

/-- Zeros at the end of a decimal make no difference. -/
theorem number_decimal_zeros (d : Decimal) (k : Nat) :
    (decimal ⟨d.digits * 10 ^ k, d.scale + k⟩).number = (decimal d).number := by
  rw [number_eq rfl, number_eq rfl, Decimal.value, Decimal.value]
  push_cast
  rw [neg_add, zpow_add₀ (by norm_num), zpow_neg _ (k : ℤ), zpow_natCast, mul_assoc,
    mul_comm ((10 : ℚ) ^ (-d.scale)), mul_inv_cancel_left₀ (by norm_num)]

/-! ## Other values -/

/-- Two values have an order if both are numbers or both are texts, and no others have one. -/
theorem compare?_eq_none (hnumeric : ¬ (a.IsNumeric ∧ b.IsNumeric))
    (htext : ¬ (a.IsText ∧ b.IsText)) : compare? a b = none := by
  have hnone : a.toDecimal? = none ∨ b.toDecimal? = none := by
    by_contra hboth
    rw [not_or, ← ne_eq, ← ne_eq, Option.ne_none_iff_exists', Option.ne_none_iff_exists']
      at hboth
    exact hnumeric hboth
  cases horder : compare? a b with
  | none => rfl
  | some order =>
    obtain ⟨s, t, rfl, rfl⟩ := compare?_of_no_number hnone horder
    exact absurd ⟨⟨s, rfl⟩, t, rfl⟩ htext

theorem asked_of_unordered (h : compare? a b = none) {c : Comparison} (heq : c ≠ .eq)
    (hne : c ≠ .ne) : asked c a b = .error (.unordered a.kind b.kind) := by
  rw [asked_eq, compare.eq_def, h]
  cases c with
  | eq => exact absurd rfl heq
  | ne => exact absurd rfl hne
  | lt | le | gt | ge => rfl

/-- **Numbers of all kinds are in one order**, and so are texts. The order of numbers is that of the
rational numbers they stand for, exactly: integers are equal only if they are the same, and zeros at
the end of a decimal make no difference. The order of texts is that of their characters. For any
other two values each comparison but equality and its negation is a fault, and these two give an
answer and its negation. -/
theorem compared_in_one_order :
    (∀ v, IsNumeric v ↔ (∃ n, v = int n) ∨ (∃ d, v = decimal d) ∨
      ∃ x, v = float x ∧ Double.IsFinite x) ∧
    TotallyOrdered IsNumeric ∧
    (∀ a b x y, a.toDecimal? = some x → b.toDecimal? = some y →
      ∀ c, Holds c a b ↔ c.Relates x.value y.value) ∧
    (∀ m n, Holds .eq (int m) (int n) ↔ m = n) ∧
    (∀ (d : Decimal) (k : Nat),
      Holds .eq (decimal ⟨d.digits * 10 ^ k, d.scale + k⟩) (decimal d)) ∧
    TotallyOrdered IsText ∧
    (∀ s t c, Holds c (text s) (text t) ↔ c.Relates s t) ∧
    ∀ a b, ¬ (IsNumeric a ∧ IsNumeric b) → ¬ (IsText a ∧ IsText b) →
      (∀ c, c ≠ .eq → c ≠ .ne → asked c a b = .error (.unordered a.kind b.kind)) ∧
      ∃ same, asked .eq a b = .ok (.bool same) ∧ asked .ne a b = .ok (.bool !same) := by
  refine ⟨fun v => isNumeric_iff, totallyOrdered_numeric, ?_, ?_, ?_, totallyOrdered_text, ?_, ?_⟩
  · intro a b x y hx hy c
    rw [holds_iff_number ⟨x, hx⟩ ⟨y, hy⟩, number_eq hx, number_eq hy]
  · intro m n
    rw [holds_iff_number ⟨_, rfl⟩ ⟨_, rfl⟩, number_int, number_int, Comparison.Relates,
      Int.cast_inj, Int64.toInt_inj]
  · intro d k
    rw [holds_iff_number ⟨_, rfl⟩ ⟨_, rfl⟩, number_decimal_zeros, Comparison.Relates]
  · intro s t c
    rw [holds_iff, compare_of_texts, Except.ok.injEq, Comparison.admits_compare_iff]
  · intro a b hnumeric htext
    refine ⟨fun c heq hne => ?_, equal a b, ?_, ?_⟩
    · exact asked_of_unordered (compare?_eq_none hnumeric htext) heq hne
    · rw [asked_eq]; rfl
    · rw [asked_eq]; rfl

/-- Beyond 53 bits integers differ by one from a decimal; a floating-point number equals a decimal
with a zero at its end; a null and a number have no order. -/
theorem compared_in_one_order_of_kinds :
    Holds .lt (int 9007199254740992) (decimal ⟨90071992547409930, 1⟩) ∧
      Holds .eq (float 1.5) (decimal ⟨150, 2⟩) ∧
      asked .gt null (int 0) = .error (.unordered .null .int) := by
  obtain ⟨-, -, hnumbers, -, -, -, -, hothers⟩ := compared_in_one_order
  refine ⟨?_, ?_, ?_⟩
  · rw [hnumbers _ _ ⟨9007199254740992, 0⟩ _ (by decide) rfl]
    norm_num [Comparison.Relates, Decimal.value]
  · rw [hnumbers _ _ ⟨15, 1⟩ _ (by decide +kernel) rfl]
    norm_num [Comparison.Relates, Decimal.value]
  · refine (hothers null (int 0) ?_ ?_).1 .gt (by decide) (by decide)
    · rintro ⟨⟨x, hx⟩, -⟩
      cases hx
    · rintro ⟨⟨s, hs⟩, -⟩
      cases hs

end Value

end SqlTemplate
