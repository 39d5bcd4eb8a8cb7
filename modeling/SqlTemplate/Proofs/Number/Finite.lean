import SqlTemplate.Json.Writer

/-!
# Finite floating-point numbers

A floating-point number is finite unless all bits of its exponent are set. Its shape says so
(`isFinite_shape`), and JSON has a numeral for finite numbers only (`isSome_ofFloat?`).
-/

namespace SqlTemplate

namespace Double

/-- Whether a shape is that of a finite number. -/
def Shape.isFinite : Shape → Bool
  | .nan | .infinite _ => false
  | .zero _ | .finite .. => true

open Float.Model (Format UnpackedFloat)

/-- The bits of the exponent. -/
theorem toNat_unpackExponent (x : Float) :
    (@UnpackedFloat.unpackExponent Format.binary64 x.toBits.toBitVec).toNat =
      x.toBits.toNat / 0x10000000000000 % 0x800 := by
  simp only [UnpackedFloat.unpackExponent, BitVec.toNat_cast, BitVec.extractLsb_toNat,
    UInt64.toNat_toBitVec, Nat.shiftRight_eq_div_pow]

theorem isFinite_eq (x : Float) :
    x.isFinite = (x.toBits.toNat / 0x10000000000000 % 0x800 != 0x7ff) := by
  have hset : @UnpackedFloat.unpackExponent Format.binary64 x.toBits.toBitVec = -1#_ ↔
      x.toBits.toNat / 0x10000000000000 % 0x800 = 0x7ff := by
    rw [← BitVec.toNat_inj, toNat_unpackExponent]
    rfl
  change (UnpackedFloat.unpack Format.binary64 x.toBits.toBitVec).isFinite = _
  delta UnpackedFloat.unpack
  dsimp only
  by_cases h : @UnpackedFloat.unpackExponent Format.binary64 x.toBits.toBitVec = -1#_
  · rw [if_pos h, hset.1 h]
    split <;> rfl
  · rw [if_neg h, bne_iff_ne.2 (mt hset.2 h)]
    by_cases hleast : @UnpackedFloat.unpackExponent Format.binary64 x.toBits.toBitVec = 0#_
    · rw [if_pos hleast]
      by_cases hzero : @UnpackedFloat.unpackMantissa Format.binary64 x.toBits.toBitVec = 0#_
      · rw [dif_pos hzero]
        rfl
      · rw [dif_neg hzero]
        rfl
    · rw [if_neg hleast]
      rfl

/-- **The shape of a number says whether it is finite.** -/
theorem isFinite_shape (x : Float) : (shape x).isFinite = x.isFinite := by
  rw [isFinite_eq, shape]
  split
  · next h =>
    rw [beq_iff_eq.1 h]
    split <;> rfl
  · next h =>
    rw [bne_iff_ne.2 (mt beq_iff_eq.2 h)]
    split
    · split <;> rfl
    · rfl

end Double

/-- **JSON has a numeral for a number exactly if it is finite.** -/
theorem Json.Numeral.isSome_ofFloat? (x : Float) : (ofFloat? x).isSome = x.isFinite := by
  rw [← Double.isFinite_shape, ofFloat?]
  cases Double.shape x <;> rfl

end SqlTemplate
