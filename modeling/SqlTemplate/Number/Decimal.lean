/-!
# Exact decimals

A **decimal** is `digits · 10 ^ -scale`. The scale is part of the value as it is stored, `1.50` has
scale 2, but two decimals are compared by the number they stand for. `numerators` brings both over
a common power of ten, and the order of two decimals is that of these integers
(`compare_eq_compare_numerators`). To find it, `compare` looks at the signs first and then at the
magnitudes; only where both agree does it need the numerators, which then have no more digits than
the longer of the two decimals.

`toText` writes a decimal. Zero is always `0`. A positive scale gives positional notation, or, where
more than five zeros would follow the point, one digit before the point and an exponent. A negative
scale gives trailing zeros, at most fifteen of them, beyond that the digits and an exponent.
-/

namespace SqlTemplate

/-- The number `digits · 10 ^ -scale`. -/
structure Decimal where
  digits : Int
  scale : Int
  deriving DecidableEq, Repr, Inhabited

namespace Decimal

/-- An integer as a decimal. -/
def ofInt (n : Int) : Decimal := ⟨n, 0⟩

/-- The decimal with the opposite sign. -/
def neg (d : Decimal) : Decimal := ⟨-d.digits, d.scale⟩

/-! ## Comparison -/

/-- The numerators of two decimals over a common power of ten. -/
def numerators (a b : Decimal) : Int × Int :=
  (a.digits * (Nat.pow 10 (b.scale - a.scale).toNat : Nat),
    b.digits * (Nat.pow 10 (a.scale - b.scale).toNat : Nat))

/-- How many places before the point the first digit stands; negative where zeros follow the
point. -/
def magnitude (d : Decimal) : Int := (Nat.toDigits 10 d.digits.natAbs).length - d.scale

/-- The order of the numbers that two decimals stand for. -/
def compare (a b : Decimal) : Ordering :=
  match Ord.compare a.digits.sign b.digits.sign with
  | .eq =>
    if a.digits = 0 then .eq
    else
      match Ord.compare a.magnitude b.magnitude with
      | .eq => Ord.compare (numerators a b).1 (numerators a b).2
      | order => if a.digits < 0 then order.swap else order
  | order => order

/-- Whether two decimals are the same number. -/
def same (a b : Decimal) : Bool := compare a b == .eq

/-- Whether a decimal is zero, at any scale. -/
def isZero (d : Decimal) : Bool := d.digits == 0

/-! ## The order is that of the numerators -/

theorem lt_pow_length_toDigits (n : Nat) : n < Nat.pow 10 (Nat.toDigits 10 n).length :=
  (Nat.length_toDigits_le_iff (by decide) Nat.length_toDigits_pos).1 (Nat.le_refl _)

theorem pow_length_toDigits_le {n : Nat} (hn : 0 < n) :
    Nat.pow 10 ((Nat.toDigits 10 n).length - 1) ≤ n := by
  by_cases hone : (Nat.toDigits 10 n).length = 1
  · rw [hone]
    exact hn
  · have hpos : 0 < (Nat.toDigits 10 n).length := Nat.length_toDigits_pos
    refine Nat.le_of_not_lt fun hlt => ?_
    have := (Nat.length_toDigits_le_iff (b := 10) (by decide) (by omega)).2 hlt
    omega

theorem mul_pow_lt_mul_pow {m n u v : Nat} (hn : 0 < n)
    (h : (Nat.toDigits 10 m).length + u < (Nat.toDigits 10 n).length + v) :
    m * Nat.pow 10 u < n * Nat.pow 10 v :=
  calc m * Nat.pow 10 u
    _ < Nat.pow 10 (Nat.toDigits 10 m).length * Nat.pow 10 u :=
      Nat.mul_lt_mul_of_pos_right (lt_pow_length_toDigits m) (Nat.pow_pos (by decide))
    _ = Nat.pow 10 ((Nat.toDigits 10 m).length + u) := (Nat.pow_add ..).symm
    _ ≤ Nat.pow 10 ((Nat.toDigits 10 n).length - 1 + v) :=
      Nat.pow_le_pow_right (by decide) (by omega)
    _ = Nat.pow 10 ((Nat.toDigits 10 n).length - 1) * Nat.pow 10 v := Nat.pow_add ..
    _ ≤ n * Nat.pow 10 v := Nat.mul_le_mul_right _ (pow_length_toDigits_le hn)

theorem sign_numerators (a b : Decimal) :
    (numerators a b).1.sign = a.digits.sign ∧ (numerators a b).2.sign = b.digits.sign := by
  have pos (n : Nat) : ((Nat.pow 10 n : Nat) : Int).sign = 1 :=
    Int.sign_eq_one_iff_pos.2 (Int.natCast_pos.2 (Nat.pow_pos (by decide)))
  simp only [numerators, Int.sign_mul, pos, Int.mul_one, and_self]

theorem natAbs_numerators (a b : Decimal) :
    (numerators a b).1.natAbs = a.digits.natAbs * Nat.pow 10 (b.scale - a.scale).toNat ∧
      (numerators a b).2.natAbs = b.digits.natAbs * Nat.pow 10 (a.scale - b.scale).toNat := by
  simp only [numerators, Int.natAbs_mul, Int.natAbs_natCast, and_self]

theorem natAbs_numerators_lt {a b : Decimal} (hb : b.digits ≠ 0)
    (h : a.magnitude < b.magnitude) : (numerators a b).1.natAbs < (numerators a b).2.natAbs := by
  rw [(natAbs_numerators a b).1, (natAbs_numerators a b).2]
  refine mul_pow_lt_mul_pow (Int.natAbs_pos.2 hb) ?_
  simp only [magnitude] at h
  omega

theorem lt_of_sign_lt {x y : Int} (h : x.sign < y.sign) : x < y := by
  rcases Int.lt_trichotomy x 0 with hx | hx | hx <;>
    rcases Int.lt_trichotomy y 0 with hy | hy | hy <;>
    simp_all [Int.sign_eq_neg_one_of_neg, Int.sign_eq_one_of_pos]
  omega

theorem compare_of_natAbs_lt {x y : Int} (hsign : x.sign = y.sign) (h : x.natAbs < y.natAbs) :
    Ord.compare x y = if x < 0 then .gt else .lt := by
  split
  · next hx =>
    have hy : y < 0 := Int.sign_eq_neg_one_iff_neg.1 (hsign ▸ Int.sign_eq_neg_one_of_neg hx)
    exact Int.compare_eq_gt.2 (by omega)
  · next hx =>
    have hy : ¬ y < 0 := fun hy =>
      hx (Int.sign_eq_neg_one_iff_neg.1 (hsign ▸ Int.sign_eq_neg_one_of_neg hy))
    exact Int.compare_eq_lt.2 (by omega)

theorem sign_neg_iff {x y : Int} (hsign : x.sign = y.sign) : x < 0 ↔ y < 0 := by
  rw [← Int.sign_eq_neg_one_iff_neg, ← Int.sign_eq_neg_one_iff_neg, hsign]

theorem compare_eq_compare_numerators (a b : Decimal) :
    compare a b = Ord.compare (numerators a b).1 (numerators a b).2 := by
  obtain ⟨hsa, hsb⟩ := sign_numerators a b
  unfold compare
  cases hsign : Ord.compare a.digits.sign b.digits.sign with
  | lt => exact (Int.compare_eq_lt.2 (lt_of_sign_lt (hsa ▸ hsb ▸ Int.compare_eq_lt.1 hsign))).symm
  | gt => exact (Int.compare_eq_gt.2 (lt_of_sign_lt (hsa ▸ hsb ▸ Int.compare_eq_gt.1 hsign))).symm
  | eq =>
    have heq : a.digits.sign = b.digits.sign := Int.compare_eq_eq.1 hsign
    have hn : (numerators a b).1.sign = (numerators a b).2.sign := by rw [hsa, hsb, heq]
    dsimp only
    split
    · next ha =>
      have hb : b.digits = 0 := Int.sign_eq_zero_iff_zero.1 (by rw [← heq, ha, Int.sign_zero])
      simp [numerators, ha, hb]
    · next ha =>
      have hb : b.digits ≠ 0 := fun hb =>
        ha (Int.sign_eq_zero_iff_zero.1 (by rw [heq, hb, Int.sign_zero]))
      cases hm : Ord.compare a.magnitude b.magnitude with
      | eq => rfl
      | lt =>
        rw [compare_of_natAbs_lt hn (natAbs_numerators_lt hb (Int.compare_eq_lt.1 hm))]
        simp only [sign_neg_iff hsa]
        split <;> rfl
      | gt =>
        have := natAbs_numerators_lt ha (Int.compare_eq_gt.1 hm)
        rw [← Int.compare_swap, compare_of_natAbs_lt hn.symm this]
        simp only [sign_neg_iff hsb, sign_neg_iff heq]
        split <;> rfl

/-! ## Text -/

/-- `digits` with a point before the last `places` of them, a zero before a leading point. -/
def withPoint (digits : List Char) (places : Nat) : List Char :=
  if places < digits.length then
    digits.take (digits.length - places) ++ '.' :: digits.drop (digits.length - places)
  else
    '0' :: '.' :: List.replicate (places - digits.length) '0' ++ digits

/-- `digits` with a point after the first of them, if there is more than one. -/
def afterFirst : List Char → List Char
  | [] => []
  | [c] => [c]
  | c :: rest => c :: '.' :: rest

/-- How a positive decimal with these digits and this scale is written. -/
def magnitudeText (digits : List Char) (scale : Int) : List Char :=
  if 0 < scale then
    let places := scale.toNat
    if digits.length + 5 < places then
      afterFirst digits ++ ['E', '-'] ++ Nat.toDigits 10 (places + 1 - digits.length)
    else withPoint digits places
  else
    let zeros := (-scale).toNat
    if 15 < zeros then digits ++ ['e', '+'] ++ Nat.toDigits 10 zeros
    else digits ++ List.replicate zeros '0'

/-- The text of a decimal. -/
def toText (d : Decimal) : String :=
  if d.digits = 0 then "0"
  else
    let magnitude := magnitudeText (Nat.toDigits 10 d.digits.natAbs) d.scale
    String.ofList (if d.digits < 0 then '-' :: magnitude else magnitude)

end Decimal

end SqlTemplate
