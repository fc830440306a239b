import Mathlib
import TripleRules.Proofs.Number.Rank
import TripleRules.Proofs.Number.Rounding

/-!
# Integers as floating-point values

The conversion of an integer to a floating-point value rounds it to fifty-three binary digits, the
half to even.
-/

namespace TripleRules.Number

open Float.Model (Format totalExponent UnpackedFloat)
open Float.Model.UnpackedFloat

variable {m n k w : Nat} {e : Int} {sign : Sign} {f : UnpackedFloat}

-- ---------------------------------------------------------------------------
-- Shifting and rounding
-- ---------------------------------------------------------------------------

/-- What `k` shifts leave of a number: the quotient, and from the remainder whether it is at least
a half and whether it is neither zero nor a half. -/
structure Shifted (n k : Nat) (x : ExtendedMantissa) : Prop where
  mantissa : x.mantissa = n / 2 ^ k
  roundBit : x.roundBit = true ↔ 2 ^ k ≤ 2 * (n % 2 ^ k)
  stickyBit : x.stickyBit = true ↔ 2 * (n % 2 ^ k) ≠ 0 ∧ 2 * (n % 2 ^ k) ≠ 2 ^ k

theorem Shifted.zero (n : Nat) : Shifted n 0 ⟨n, false, false⟩ where
  mantissa := (Nat.div_one n).symm
  roundBit := by simp [Nat.mod_one]
  stickyBit := by simp [Nat.mod_one]

/-- One more shift: the last digit of the quotient becomes the first of the remainder. -/
theorem Shifted.succ {x : ExtendedMantissa} (h : Shifted n k x) :
    Shifted n (k + 1) x.shiftRightOne := by
  have hpow : 2 ^ (k + 1) = 2 * 2 ^ k := by rw [Nat.pow_succ, Nat.mul_comm]
  have hmod : n % 2 ^ (k + 1) = n % 2 ^ k + 2 ^ k * (n / 2 ^ k % 2) := by
    rw [Nat.pow_succ, Nat.mod_mul]
  have hlt : n % 2 ^ k < 2 ^ k := Nat.mod_lt _ (Nat.two_pow_pos k)
  refine ⟨?_, ?_, ?_⟩
  · rw [ExtendedMantissa.shiftRightOne, h.mantissa, Nat.div_div_eq_div_mul, Nat.pow_succ]
  · rw [ExtendedMantissa.shiftRightOne, h.mantissa, bne_iff_ne, hmod, hpow]
    rcases Nat.mod_two_eq_zero_or_one (n / 2 ^ k) with hdigit | hdigit <;> rw [hdigit] <;> omega
  · rw [ExtendedMantissa.shiftRightOne, Bool.or_eq_true, h.roundBit, h.stickyBit, hmod, hpow]
    rcases Nat.mod_two_eq_zero_or_one (n / 2 ^ k) with hdigit | hdigit <;> rw [hdigit] <;> omega

theorem shifted_shiftRight (n k : Nat) :
    Shifted n k (ExtendedMantissa.ofMantissaAndAccuracy n .exact >>> k) := by
  induction k with
  | zero => exact Shifted.zero n
  | succ k ih => exact ih.succ

/-- The two bits of a remainder are what rounding to even needs to know. -/
theorem Shifted.roundedMantissa {x : ExtendedMantissa} (h : Shifted n k x) :
    x.roundedMantissa = halfEven n (2 ^ k) := by
  obtain ⟨hmantissa, hround, hsticky⟩ := h
  obtain ⟨mantissa, roundBit, stickyBit⟩ := x
  obtain rfl : mantissa = n / 2 ^ k := hmantissa
  have hpos : 0 < 2 ^ k := Nat.two_pow_pos k
  rw [halfEven]
  cases roundBit <;> cases stickyBit <;>
    simp only [ExtendedMantissa.roundedMantissa, ExtendedMantissa.accuracy,
      Accuracy.roundToNearestEven, Bool.false_eq_true, false_iff, true_iff] at hround hsticky ⊢ <;>
    split <;> omega

theorem log2_of_bounds (hlower : 2 ^ 52 ≤ m) (hupper : m < 2 ^ 53) : m.log2 = 52 :=
  (Nat.log2_eq_iff (by omega)).mpr ⟨hlower, hupper⟩

theorem targetExponent_of_log2 (hlog : n.log2 = 52 + k) (he : -1074 ≤ e + k) :
    Format.binary64.targetExponent (totalExponent n e) = e + k := by
  simp only [Format.targetExponent, totalExponent, hlog, Format.mantissaBits, Format.minExponent]
  omega

theorem shiftToTargetExponent_of_log2 (hlog : n.log2 = 52 + k) (he : -1074 ≤ e + k) :
    shiftToTargetExponent .binary64 n e .exact =
      (ExtendedMantissa.ofMantissaAndAccuracy n .exact >>> k, e + k) := by
  have hshift : (e + k - e).toNat = k := by omega
  simp only [shiftToTargetExponent, targetExponent_of_log2 hlog he, shiftToExponent, hshift]

theorem roundWithAccuracy_of_lt (hlog : n.log2 = 52 + k) (he : -1074 ≤ e + k)
    (hlower : 2 ^ 52 ≤ halfEven n (2 ^ k)) (hupper : halfEven n (2 ^ k) < 2 ^ 53) :
    roundWithAccuracy .binary64 sign n e .exact =
      .finite sign (halfEven n (2 ^ k)) (e + k) (by omega) := by
  have hagain : (halfEven n (2 ^ k)).log2 = 52 + 0 := log2_of_bounds hlower hupper
  have hkept := (shifted_shiftRight (halfEven n (2 ^ k)) 0).mantissa
  simp only [roundWithAccuracy, shiftToTargetExponent_of_log2 hlog he,
    (shifted_shiftRight n k).roundedMantissa,
    shiftToTargetExponent_of_log2 hagain (e := e + k) (by omega), hkept]
  rw [dif_neg (by omega)]
  simp

/-- Digits that are rounded up to a power of two carry into the exponent. -/
theorem roundWithAccuracy_carry (hlog : n.log2 = 52 + k) (he : -1074 ≤ e + k)
    (hcarry : halfEven n (2 ^ k) = 2 ^ 53) :
    roundWithAccuracy .binary64 sign n e .exact =
      .finite sign (2 ^ 52) (e + k + 1) (Nat.two_pow_pos 52) := by
  have hagain : (2 ^ 53 : Nat).log2 = 52 + 1 := Nat.log2_two_pow
  have hkept := (shifted_shiftRight (2 ^ 53) 1).mantissa
  simp only [roundWithAccuracy, shiftToTargetExponent_of_log2 hlog he,
    (shifted_shiftRight n k).roundedMantissa, hcarry,
    shiftToTargetExponent_of_log2 hagain (e := e + k) (by omega), hkept]
  rw [dif_neg (by decide)]
  simp

-- ---------------------------------------------------------------------------
-- Normal values
-- ---------------------------------------------------------------------------

/-- A value of exactly fifty-three digits, which the sixty-three bits below the sign encode by
exponent and digits. The leading digit adds one to the exponent instead of being stored. -/
structure Encoded (f : UnpackedFloat) (sign : Sign) (w : Nat) (m : Nat) (e : Int) : Prop where
  lower : 2 ^ 52 ≤ m
  upper : m < 2 ^ 53
  least : -1074 ≤ e
  most : e ≤ 971
  eq_finite : f = .finite sign m e (Nat.lt_of_lt_of_le (Nat.two_pow_pos 52) lower)
  eq_bits : (w : Int) = (e + 1074) * 2 ^ 52 + m

theorem Encoded.pack_eq (h : Encoded f sign w m e) :
    UnpackedFloat.pack .binary64 f =
      packComponents .binary64 sign (BitVec.ofNat 11 (e + 1075).toNat) (BitVec.ofNat 52 m) := by
  obtain ⟨hlower, hupper, hleast, hmost, rfl, -⟩ := h
  have hbias : (e + Format.binary64.exponentBias + Format.binary64.mantissaBitsWithoutImplicit) =
      e + 1075 := by
    change e + 1023 + 52 = _
    omega
  simp only [UnpackedFloat.pack, hbias, log2_of_bounds hlower hupper]
  rw [if_neg (by change ¬ 2048 ≤ _; omega), if_pos (by decide)]

theorem Encoded.unpack_pack (h : Encoded f sign w m e) :
    UnpackedFloat.unpack .binary64 (UnpackedFloat.pack .binary64 f) = f := by
  have := h.lower
  have := h.upper
  have := h.least
  have := h.most
  have hexponent : (BitVec.ofNat 11 (e + 1075).toNat).toNat = (e + 1075).toNat := by
    rw [BitVec.toNat_ofNat]
    omega
  have hvalue : ((e + 1075).toNat : Int) - 1075 = e := by omega
  have hdigits : 2 ^ 52 + (BitVec.ofNat 52 m).toNat = m := by
    rw [BitVec.toNat_ofNat]
    omega
  rw [h.pack_eq, unpack_packComponents, hexponent, if_neg (by omega), if_neg (by omega)]
  simp only [hdigits, hvalue, h.eq_finite]

theorem Encoded.neg (h : Encoded f sign w m e) : Encoded f.neg (-sign) w m e :=
  ⟨h.lower, h.upper, h.least, h.most, congrArg UnpackedFloat.neg h.eq_finite, h.eq_bits⟩

theorem encoded_roundWithAccuracy (hlog : n.log2 = 52 + k) (hleast : -1074 ≤ e + k)
    (hmost : e + k < 971) (hw : (w : Int) = (e + k + 1074) * 2 ^ 52 + halfEven n (2 ^ k)) :
    ∃ m e', Encoded (roundWithAccuracy .binary64 sign n e .exact) sign w m e' := by
  have hpos : n ≠ 0 := by
    rintro rfl
    rw [Nat.log2_zero] at hlog
    omega
  obtain ⟨hlower, hupper⟩ := (Nat.log2_eq_iff hpos).mp hlog
  have hrounded : 2 ^ 52 ≤ halfEven n (2 ^ k) :=
    le_halfEven (Nat.two_pow_pos k) (by rwa [← Nat.pow_add])
  have hle : halfEven n (2 ^ k) ≤ 2 ^ 53 := by
    refine halfEven_le (Nat.two_pow_pos k) (hupper.le.trans_eq ?_)
    rw [← Nat.pow_add]
    congr 1
    omega
  rcases Nat.lt_or_eq_of_le hle with hlt | hcarry
  · exact ⟨_, _, hrounded, hlt, hleast, hmost.le, roundWithAccuracy_of_lt hlog hleast hrounded hlt,
      hw⟩
  · refine ⟨2 ^ 52, e + k + 1, le_rfl, by decide, by omega, by omega,
      roundWithAccuracy_carry hlog hleast hcarry, ?_⟩
    rw [hw, hcarry]
    push_cast
    omega

-- ---------------------------------------------------------------------------
-- Naturals
-- ---------------------------------------------------------------------------

/-- The encoding of a rounded number. Rounding up to a power of two carries into the exponent. -/
def encoding (n : Nat) : Nat := if n = 0 then 0 else (n.log2 + 1022) * 2 ^ 52 + significand n

theorem unpack_one : (Float.Model.ofBits 0x3FF0000000000000).unpack =
    .finite .positive (2 ^ 52) (-52) (Nat.two_pow_pos 52) := rfl

theorem mul_one_of_encoded (h : Encoded f .positive w m e) :
    UnpackedFloat.mul .binary64 f (.finite .positive (2 ^ 52) (-52) (Nat.two_pow_pos 52)) = f := by
  have hlog : (m * 2 ^ 52).log2 = 52 + 52 := by
    have := h.lower
    have := h.upper
    rw [Nat.log2_eq_iff (by omega)]
    omega
  have hdigits : halfEven (m * 2 ^ 52) (2 ^ 52) = m := by
    have := halfEven_mul_right m 1 (Nat.two_pow_pos 52)
    rwa [Nat.one_mul, halfEven_one] at this
  have hleast := h.least
  have hround := @roundWithAccuracy_of_lt _ _ (e + -52) .positive hlog (by omega)
    (hdigits.symm ▸ h.lower) (hdigits.symm ▸ h.upper)
  rw [h.eq_finite]
  change roundWithAccuracy .binary64 .positive (m * 2 ^ 52) (e + -52) .exact = _
  rw [hround]
  simp only [hdigits]
  congr 1
  omega

theorem log2_shiftLeft (hn : n ≠ 0) (k : Nat) : (n <<< k).log2 = n.log2 + k := by
  obtain ⟨hlower, hupper⟩ := (Nat.log2_eq_iff hn).mp rfl
  have hpos : 0 < n * 2 ^ k := Nat.mul_pos (Nat.pos_of_ne_zero hn) (Nat.two_pow_pos k)
  rw [Nat.shiftLeft_eq, Nat.log2_eq_iff hpos.ne']
  have hlength : n.log2 + k + 1 = n.log2 + 1 + k := by omega
  rw [hlength, Nat.pow_add, Nat.pow_add 2 (n.log2 + 1)]
  exact ⟨Nat.mul_le_mul_right _ hlower, Nat.mul_lt_mul_of_pos_right hupper (Nat.two_pow_pos k)⟩

theorem encoded_ofUInt64 (hn : n ≠ 0) (hlt : n < 2 ^ 53) :
    ∃ m e, Encoded (UnpackedFloat.ofUInt64 .binary64 n.toUInt64) .positive (encoding n) m e := by
  have hlog : n.log2 ≤ 52 := Nat.le_of_lt_succ ((Nat.log2_lt hn).mpr hlt)
  have hnat : n.toUInt64.toNat = n := by
    rw [Nat.toUInt64_eq, UInt64.toNat_ofNat']
    omega
  have hscaled : (n <<< (52 - n.log2)).log2 = 52 + 0 := by
    rw [log2_shiftLeft hn]
    omega
  have htarget : Format.binary64.targetExponent (totalExponent n 0) = (n.log2 : Int) - 52 := by
    simp only [Format.targetExponent, totalExponent, Format.mantissaBits, Format.minExponent]
    omega
  have hshift : (0 - ((n.log2 : Int) - 52)).toNat = 52 - n.log2 := by omega
  have hround : UnpackedFloat.ofUInt64 .binary64 n.toUInt64 =
      roundWithAccuracy .binary64 .positive (n <<< (52 - n.log2)) (0 - ↑(52 - n.log2)) .exact := by
    have hcompare : compare (n : Int) 0 = .gt := compare_gt_iff_gt.mpr (by omega)
    simp only [UnpackedFloat.ofUInt64, UnpackedFloat.ofNat, UnpackedFloat.ofInt,
      UnpackedFloat.normalize, hnat, hcompare, Int.toNat_natCast, UnpackedFloat.round,
      decreaseExponent, htarget, hshift]
  rw [hround]
  refine encoded_roundWithAccuracy hscaled (by omega) (by omega) ?_
  rw [Nat.pow_zero, halfEven_one, encoding, if_neg hn, significand, ulp_of_lt hlt, halfEven_one,
    Nat.shiftLeft_eq]
  push_cast
  omega

theorem encoded_ofScientific (h : 2 ^ 53 ≤ n) (hlt : n < 2 ^ 64) :
    ∃ m e, Encoded (UnpackedFloat.ofScientific .binary64 n 0) .positive (encoding n) m e := by
  have hn : n ≠ 0 := by omega
  have hlog : 53 ≤ n.log2 := (Nat.le_log2 hn).mpr h
  have hlog' : n.log2 < 64 := (Nat.log2_lt hn).mpr hlt
  have hscaled : (n <<< 53).log2 = 52 + (n.log2 + 1) := by
    rw [log2_shiftLeft hn]
    omega
  have hround : UnpackedFloat.ofScientific .binary64 n 0 =
      roundWithAccuracy .binary64 .positive (n <<< 53) (-53) .exact := by
    have hsmall : ¬ (0 : Int) < -(2 ^ Format.binary64.exponentBits + n.log2) := by
      change ¬ (0 : Int) < -(2048 + n.log2)
      omega
    rw [UnpackedFloat.ofScientific, dif_neg hn, if_neg (by decide), if_neg hsmall,
      if_pos le_rfl]
    change roundWithAccuracy .binary64 .positive (n <<< 53 * 1) (-53) .exact = _
    rw [Nat.mul_one]
  have hdigits : halfEven (n <<< 53) (2 ^ (n.log2 + 1)) = significand n := by
    have hunit : 2 ^ (n.log2 + 1) = ulp n * 2 ^ 53 := by
      have hlength : n.log2 - 52 + 53 = n.log2 + 1 := by omega
      rw [ulp, ← Nat.pow_add, hlength]
    have hfull : 52 - n.log2 = 0 := by omega
    rw [Nat.shiftLeft_eq, hunit, halfEven_mul_right n (ulp n) (Nat.two_pow_pos 53), significand,
      hfull, Nat.pow_zero, Nat.mul_one]
  rw [hround]
  refine encoded_roundWithAccuracy hscaled (by omega) (by omega) ?_
  rw [hdigits, encoding, if_neg hn]
  push_cast
  omega

theorem encoded_ofNat (hn : n ≠ 0) (hlt : n < 2 ^ 64) :
    ∃ m e, Encoded (Float.ofNat n).toModel.unpack .positive (encoding n) m e := by
  change ∃ m e, Encoded (Float.ofScientific n false 0).toModel.unpack .positive (encoding n) m e
  by_cases hshort : n < 2 ^ 53
  · obtain ⟨m, e, h⟩ := encoded_ofUInt64 hn hshort
    refine ⟨m, e, ?_⟩
    -- digits and power of ten are both exact, and here the power is one
    rw [Float.ofScientific, dif_pos ⟨hshort, by decide⟩]
    change Encoded (unpack .binary64 (pack .binary64 (UnpackedFloat.mul .binary64
      (unpack .binary64 (pack .binary64 (UnpackedFloat.ofUInt64 .binary64 n.toUInt64)))
      (Float.Model.ofBits 0x3FF0000000000000).unpack))) .positive (encoding n) m e
    rwa [h.unpack_pack, unpack_one, mul_one_of_encoded h, h.unpack_pack]
  · obtain ⟨m, e, h⟩ := encoded_ofScientific (Nat.le_of_not_lt hshort) hlt
    refine ⟨m, e, ?_⟩
    rw [Float.ofScientific, dif_neg (by omega)]
    change Encoded (unpack .binary64 (pack .binary64
      (UnpackedFloat.ofScientific .binary64 n 0))) .positive (encoding n) m e
    rwa [h.unpack_pack]

end TripleRules.Number
