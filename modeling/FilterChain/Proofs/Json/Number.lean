import FilterChain.Json.Basic
import Mathlib

/-!
# Numbers of JSON documents

A whole number beyond the 64-bit signed integers is read as a float, and this float is finite: 64
bits stay far below the largest float, so that rounding does not reach infinity.
-/

namespace FilterChain.JsonNumber

open Float.Model (Format totalExponent)
open Float.Model.UnpackedFloat

/-- The exponent of an unpacked number leaves room below the infinities. -/
def HasRoom : Float.Model.UnpackedFloat → Prop
  | finite _ _ exponent _ => exponent ≤ 971
  | zero _ => True
  | _ => False

theorem isFinite_packComponents (sign : Sign) {exponent : BitVec 11} (mantissa : BitVec 52)
    (hexponent : exponent ≠ -1#11) :
    (unpack .binary64 (packComponents .binary64 sign exponent mantissa)).isFinite = true := by
  rw [unpack.eq_def]
  simp only [unpackExponent_packComponents, unpackMantissa_packComponents, if_neg hexponent]
  split
  · split
    · rfl
    · rfl
  · rfl

theorem isFinite_pack {x : Float.Model.UnpackedFloat} (hroom : HasRoom x) :
    (unpack .binary64 (pack .binary64 x)).isFinite = true := by
  cases x with
  | infinity sign => cases hroom
  | notANumber => cases hroom
  | zero sign => exact isFinite_packComponents sign 0 (by decide)
  | finite sign mantissa exponent hpos =>
      have hexponent : exponent ≤ 971 := hroom
      have hbias : (exponent + (1023 : Nat) + (52 : Nat)).toNat + 1 < 2 ^ 11 := by omega
      rw [pack]
      dsimp only
      have hbelow : ¬ 2 ^ Format.binary64.exponentBits ≤
          (exponent + Format.binary64.exponentBias +
            Format.binary64.mantissaBitsWithoutImplicit).toNat + 1 := Nat.not_le_of_lt hbias
      rw [if_neg hbelow]
      split
      · apply isFinite_packComponents
        intro heq
        have hsame := congrArg BitVec.toNat heq
        have hmod : (exponent + (1023 : Nat) + (52 : Nat)).toNat % 2 ^ 11 = 2047 := hsame
        rw [Nat.mod_eq_of_lt (by omega)] at hmod
        omega
      · exact isFinite_packComponents sign _ (by decide)

theorem mantissa_shiftRight_le (extended : ExtendedMantissa) (count : Nat) :
    (extended >>> count).mantissa ≤ extended.mantissa := by
  change (Nat.repeat ExtendedMantissa.shiftRightOne count extended).mantissa ≤ extended.mantissa
  induction count with
  | zero => exact le_rfl
  | succ count ih => exact (Nat.div_le_self _ 2).trans ih

theorem roundedMantissa_le (extended : ExtendedMantissa) :
    extended.roundedMantissa ≤ extended.mantissa + 1 := by
  rw [ExtendedMantissa.roundedMantissa]
  unfold Accuracy.roundToNearestEven
  split <;> omega

theorem totalExponent_le {mantissa bits : Nat} (exponent : Int) (hbits : 0 < bits)
    (hmantissa : mantissa < 2 ^ bits) : totalExponent mantissa exponent ≤ bits + exponent := by
  have hlog : mantissa.log2 < bits := by
    by_cases hzero : mantissa = 0
    · rw [hzero, Nat.log2_zero]
      exact hbits
    · exact (Nat.log2_lt hzero).mpr hmantissa
  rw [totalExponent]
  omega

theorem shiftToTargetExponent_le {mantissa bits : Nat} (exponent : Int) (hbits : 0 < bits)
    (hmantissa : mantissa < 2 ^ bits) :
    let shifted := shiftToTargetExponent .binary64 mantissa exponent .exact
    shifted.1.mantissa ≤ mantissa ∧
      shifted.2 ≤ max exponent (max (bits + exponent - 53) (-1074)) := by
  constructor
  · exact mantissa_shiftRight_le ⟨mantissa, false, false⟩ _
  · have htotal := totalExponent_le exponent hbits hmantissa
    change exponent +
      ((max (totalExponent mantissa exponent - 53) (-1074) - exponent).toNat : Int) ≤ _
    omega

theorem hasRoom_roundWithAccuracy (sign : Sign) {mantissa bits : Nat} {exponent : Int}
    (hbits : 0 < bits) (hfew : bits ≤ 400) (hmantissa : mantissa < 2 ^ bits)
    (hexponent : exponent ≤ 0) :
    HasRoom (roundWithAccuracy .binary64 sign mantissa exponent .exact) := by
  obtain ⟨hfirst, hfirstExponent⟩ := shiftToTargetExponent_le exponent hbits hmantissa
  rw [roundWithAccuracy]
  generalize shiftToTargetExponent .binary64 mantissa exponent .exact = first at *
  obtain ⟨extended, firstExponent⟩ := first
  dsimp only at *
  -- Rounding up may carry into one more bit, and the mantissa is then shifted once more.
  have hrounded : extended.roundedMantissa < 2 ^ (bits + 1) := by
    have hround := roundedMantissa_le extended
    have hpow : 2 ^ (bits + 1) = 2 * 2 ^ bits := by ring
    omega
  obtain ⟨-, hsecondExponent⟩ :=
    shiftToTargetExponent_le firstExponent (Nat.succ_pos bits) hrounded
  split
  · trivial
  · change _ ≤ (971 : Int)
    omega

theorem hasRoom_round (sign : Sign) {mantissa : Nat} (hmantissa : mantissa < 2 ^ 64) :
    HasRoom (round .binary64 sign mantissa 0) := by
  have hshift : (0 - max (totalExponent mantissa 0 - 53) (-1074)).toNat ≤ 52 := by
    rw [totalExponent]
    omega
  change HasRoom (roundWithAccuracy .binary64 sign
    (mantissa <<< (0 - max (totalExponent mantissa 0 - 53) (-1074)).toNat)
    (0 - ((0 - max (totalExponent mantissa 0 - 53) (-1074)).toNat : Int)) .exact)
  generalize (0 - max (totalExponent mantissa 0 - 53) (-1074)).toNat = shift at *
  have hshifted : mantissa <<< shift < 2 ^ (64 + shift) := by
    rw [Nat.shiftLeft_eq, pow_add]
    exact Nat.mul_lt_mul_of_pos_right hmantissa (Nat.two_pow_pos shift)
  exact hasRoom_roundWithAccuracy sign (by omega) (by omega) hshifted (by omega)

theorem isFinite_toFloat (n : UInt64) : n.toFloat.isFinite = true := by
  have hlt := n.toNat_lt
  change (unpack .binary64 (pack .binary64
    (Float.Model.UnpackedFloat.normalize .binary64 (n.toNat : Int) 0 .positive))).isFinite = true
  apply isFinite_pack
  unfold Float.Model.UnpackedFloat.normalize
  split
  · exact hasRoom_round .negative (by omega)
  · trivial
  · exact hasRoom_round .positive (by omega)

end FilterChain.JsonNumber
