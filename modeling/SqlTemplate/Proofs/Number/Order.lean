import Mathlib.Algebra.Order.Field.Rat
import Mathlib.Algebra.Order.Field.Power
import Mathlib.Order.Compare
import Mathlib.Tactic.NormNum
import SqlTemplate.Number.Decimal

/-!
# Decimals as rational numbers

The number that a decimal stands for is a rational number, and comparing two decimals is comparing
their numbers (`compare_eq_compare_value`).
-/

namespace SqlTemplate.Decimal

/-- The number that a decimal stands for. -/
def value (d : Decimal) : ℚ := d.digits * 10 ^ (-d.scale)

theorem cast_mul_pow (d : Decimal) (m : Int) (h : d.scale ≤ m) :
    ((d.digits * (Nat.pow 10 (m - d.scale).toNat : Nat) : Int) : ℚ) = d.value * 10 ^ m := by
  have hpow : ((Nat.pow 10 (m - d.scale).toNat : Nat) : ℚ) = 10 ^ (m - d.scale) := by
    rw [← Int.toNat_of_nonneg (Int.sub_nonneg_of_le h), zpow_natCast, Int.toNat_natCast]
    exact Nat.cast_pow 10 _
  rw [value, mul_assoc, ← zpow_add₀ (by norm_num), neg_add_eq_sub, Int.cast_mul, Int.cast_natCast,
    hpow]

/-- The numerators are the numbers, multiplied by one power of ten. -/
theorem cast_numerators (a b : Decimal) :
    ((numerators a b).1 : ℚ) = a.value * 10 ^ max a.scale b.scale ∧
      ((numerators a b).2 : ℚ) = b.value * 10 ^ max a.scale b.scale := by
  have ha : (b.scale - a.scale).toNat = (max a.scale b.scale - a.scale).toNat := by omega
  have hb : (a.scale - b.scale).toNat = (max a.scale b.scale - b.scale).toNat := by omega
  rw [numerators, ha, hb]
  exact ⟨cast_mul_pow a _ (le_max_left ..), cast_mul_pow b _ (le_max_right ..)⟩

/-- **Decimals are compared as numbers.** -/
theorem compare_eq_compare_value (a b : Decimal) : compare a b = Ord.compare a.value b.value := by
  have hpos : (0 : ℚ) < 10 ^ max a.scale b.scale := zpow_pos (by norm_num) _
  have hcast : StrictMono fun n : Int => (n : ℚ) := Int.cast_strictMono
  obtain ⟨ha, hb⟩ := cast_numerators a b
  rw [compare_eq_compare_numerators, ← cmp_eq_compare, ← cmp_eq_compare]
  calc cmp (numerators a b).1 (numerators a b).2
    _ = cmp ((numerators a b).1 : ℚ) (numerators a b).2 := (hcast.cmp_map_eq _ _).symm
    _ = cmp (a.value * 10 ^ max a.scale b.scale) (b.value * 10 ^ max a.scale b.scale) := by
      rw [ha, hb]
    _ = cmp a.value b.value := cmp_mul_pos_right hpos _ _

end SqlTemplate.Decimal
