import Mathlib
import TripleRules.Number.Decimal

/-!
# Ranks of floating-point values

The rank of a value, which is read off its encoding, is what its sign, exponent and digits say
(`Number.rank?_eq_unpackedRank?`), and values are in the order of their ranks
(`Number.compare_eq_compare_rank?`).
-/

namespace TripleRules.Number

open Float.Model (Format UnpackedFloat)
open Float.Model.UnpackedFloat

/-- The rank in terms of sign, exponent and digits: between two neighbouring exponents there are as
many values as fifty-two digits have, and infinity comes after the largest of all. -/
def unpackedRank? : UnpackedFloat → Option Int
  | .notANumber => none
  | .infinity sign => some (sign.apply (2047 * 2 ^ 52))
  | .zero _ => some 0
  | .finite sign m e _ => some (sign.apply ((e + 1074) * 2 ^ 52 + m))

/-- The digits and the exponent are in range, and there are fifty-three digits unless the exponent
is the least one. -/
def InFormat : UnpackedFloat → Prop
  | .finite _ m e _ => m < 2 ^ 53 ∧ -1074 ≤ e ∧ e ≤ 971 ∧ (2 ^ 52 ≤ m ∨ e = -1074)
  | _ => True

variable {x : Float} {f g : UnpackedFloat} {sign : Sign}

-- ---------------------------------------------------------------------------
-- Encodings
-- ---------------------------------------------------------------------------

variable {e : BitVec 11} {m : BitVec 52}

theorem exists_fields (b : BitVec Format.binary64.numBits) :
    ∃ (sign : Sign) (e : BitVec 11) (m : BitVec 52), b = packComponents .binary64 sign e m :=
  ⟨_, _, _, (packComponents_unpackSign_unpackExponent_unpackMantissa b).symm⟩

theorem toNat_packComponents (sign : Sign) (e : BitVec 11) (m : BitVec 52) :
    (packComponents .binary64 sign e m).toNat =
      (sign.toBitVec.toNat * 2 ^ 11 + e.toNat) * 2 ^ 52 + m.toNat := by
  rw [packComponents, BitVec.toNat_append, BitVec.toNat_append,
    ← Nat.shiftLeft_add_eq_or_of_lt (BitVec.isLt _),
    ← Nat.shiftLeft_add_eq_or_of_lt (BitVec.isLt _), Nat.shiftLeft_eq, Nat.shiftLeft_eq]

theorem rank?_of_fields (h : x.toModel.toBits.toBitVec = packComponents .binary64 sign e m) :
    rank? x = if 2047 * 2 ^ 52 < e.toNat * 2 ^ 52 + m.toNat then none
      else some (sign.apply (e.toNat * 2 ^ 52 + m.toNat)) := by
  have he := e.isLt
  have hm := m.isLt
  have hbits : x.toBits.toNat = (sign.toBitVec.toNat * 2 ^ 11 + e.toNat) * 2 ^ 52 + m.toNat := by
    rw [← toNat_packComponents, ← h]
    rfl
  have hmod : x.toBits.toNat % 0x8000000000000000 = e.toNat * 2 ^ 52 + m.toNat := by
    rw [hbits]
    omega
  simp only [rank?, hmod]
  by_cases hnan : 2047 * 2 ^ 52 < e.toNat * 2 ^ 52 + m.toNat
  · rw [if_pos (by omega), if_pos hnan]
  · rw [if_neg (by omega), if_neg hnan]
    cases sign with
    | positive =>
      have hbit : Sign.positive.toBitVec.toNat = 0 := rfl
      rw [if_pos (by omega)]
      rfl
    | negative =>
      have hbit : Sign.negative.toBitVec.toNat = 1 := rfl
      rw [if_neg (by omega)]
      rfl

/-- The value in terms of the fields. An exponent of all ones is for infinity and for what is no
number, one of all zeros for zero and for fewer than fifty-three digits. -/
theorem unpack_packComponents (sign : Sign) (e : BitVec 11) (m : BitVec 52) :
    unpack .binary64 (packComponents .binary64 sign e m) =
      if e.toNat = 2047 then if m.toNat = 0 then .infinity sign else .notANumber
      else if e.toNat = 0 then
        if hm : m.toNat = 0 then .zero sign
        else .finite sign m.toNat (-1074) (Nat.pos_of_ne_zero hm)
      else .finite sign (2 ^ 52 + m.toNat) (e.toNat - 1075) (by omega) := by
  have hones : e = -1#11 ↔ e.toNat = 2047 := BitVec.toNat_inj.symm
  have hzeros : e = 0#11 ↔ e.toNat = 0 := BitVec.toNat_inj.symm
  have hdigits : m = 0#52 ↔ m.toNat = 0 := BitVec.toNat_inj.symm
  have hleading : (1#1 ++ m).toNat = 2 ^ 52 + m.toNat := by
    rw [BitVec.toNat_append, ← Nat.shiftLeft_add_eq_or_of_lt m.isLt]
    rfl
  have hbias : ((Format.binary64.exponentBias : Int) +
      Format.binary64.mantissaBitsWithoutImplicit) = 1075 := rfl
  simp only [unpack, unpackMantissa_packComponents, unpackExponent_packComponents,
    unpackSign_packComponents, Sign.ofBitVec_toBitVec, hbias, hones, hzeros, hdigits, hleading]
  split
  · rfl
  · split
    case isTrue hleast => simp [hleast]
    case isFalse => rfl

theorem inFormat_unpack (b : BitVec Format.binary64.numBits) : InFormat (unpack .binary64 b) := by
  obtain ⟨sign, e, m, rfl⟩ := exists_fields b
  have he := e.isLt
  have hm := m.isLt
  rw [unpack_packComponents]
  split
  · split <;> trivial
  · split
    · split
      · trivial
      · exact ⟨by omega, by omega, by omega, .inr rfl⟩
    · exact ⟨by omega, by omega, by omega, .inl (by omega)⟩

theorem rank?_eq_unpackedRank? (x : Float) : rank? x = unpackedRank? x.toModel.unpack := by
  obtain ⟨sign, e, m, h⟩ := exists_fields x.toModel.toBits.toBitVec
  have he := e.isLt
  have hm := m.isLt
  rw [rank?_of_fields h, Float.Model.unpack, h, unpack_packComponents]
  by_cases hones : e.toNat = 2047
  · rw [if_pos hones]
    by_cases hdigits : m.toNat = 0
    · rw [if_pos hdigits, if_neg (by omega), hones, hdigits]
      rfl
    · rw [if_neg hdigits, if_pos (by omega)]
      rfl
  · rw [if_neg hones, if_neg (by omega)]
    by_cases hzeros : e.toNat = 0
    · rw [if_pos hzeros, hzeros]
      split
      case isTrue hdigits =>
        -- the two zeros have one rank
        rw [hdigits]
        cases sign <;> rfl
      case isFalse => rfl
    · rw [if_neg hzeros, unpackedRank?]
      congr 2
      push_cast
      omega

-- ---------------------------------------------------------------------------
-- Order
-- ---------------------------------------------------------------------------

theorem rank?_eq_none_iff : rank? x = none ↔ x.isNaN = true := by
  rw [rank?_eq_unpackedRank?]
  change _ ↔ x.toModel.unpack.isNaN = true
  rw [isNaN_iff]
  cases x.toModel.unpack <;> simp [unpackedRank?]

variable {a b : Nat} {d e : Int} {ha : 0 < a} {hb : 0 < b}

theorem magnitude_bounds (h : InFormat (.finite sign a d ha)) :
    0 < (d + 1074) * 2 ^ 52 + a ∧ (d + 1074) * 2 ^ 52 + a < 2047 * 2 ^ 52 := by
  obtain ⟨hdigits, hleast, hmost, -⟩ := h
  omega

theorem apply_bounds (h : InFormat (.finite sign a d ha)) :
    -(2047 * 2 ^ 52) < sign.apply ((d + 1074) * 2 ^ 52 + a) ∧
      sign.apply ((d + 1074) * 2 ^ 52 + a) < 2047 * 2 ^ 52 := by
  have := magnitude_bounds h
  cases sign <;> simp only [Sign.apply] <;> omega

theorem compare_eq_of {o : Ordering} {i j : Int} (hlt : o = .lt → i < j) (heq : o = .eq → i = j)
    (hgt : o = .gt → j < i) : o = compare i j := by
  cases o with
  | lt => exact (compare_lt_iff_lt.mpr (hlt rfl)).symm
  | eq => exact (compare_eq_iff_eq.mpr (heq rfl)).symm
  | gt => exact (compare_gt_iff_gt.mpr (hgt rfl)).symm

theorem compare_congr {i j k l : Int} (hlt : i < j ↔ k < l) (hgt : j < i ↔ l < k) :
    compare i j = compare k l := by
  refine compare_eq_of (fun h => hlt.mp (compare_lt_iff_lt.mp h)) (fun h => ?_)
    (fun h => hgt.mp (compare_gt_iff_gt.mp h))
  have := compare_eq_iff_eq.mp h
  omega

theorem compare_finite {s t : Sign} (hf : InFormat (.finite s a d ha))
    (hg : InFormat (.finite t b e hb)) :
    (compare d e).then (compare a b) =
      compare ((d + 1074) * 2 ^ 52 + (a : Int)) ((e + 1074) * 2 ^ 52 + b) := by
  -- a larger exponent is not the least one, so it comes with all fifty-three digits and counts more
  -- than any difference between digits
  obtain ⟨ha', hd, -, hda⟩ := hf
  obtain ⟨hb', he, -, heb⟩ := hg
  refine compare_eq_of ?_ ?_ ?_
  · rw [Ordering.then_eq_lt, compare_lt_iff_lt, compare_eq_iff_eq, compare_lt_iff_lt]
    omega
  · rw [Ordering.then_eq_eq, compare_eq_iff_eq, compare_eq_iff_eq]
    omega
  · rw [Ordering.then_eq_gt, compare_gt_iff_gt, compare_eq_iff_eq, compare_gt_iff_gt]
    omega

theorem compare_of_inFormat (hf : InFormat f) (hg : InFormat g) :
    f.compare g = do return compare (← unpackedRank? f) (← unpackedRank? g) := by
  have hlt {i j : Int} (h : i < j) : some Ordering.lt = some (compare i j) :=
    congrArg some (compare_lt_iff_lt.mpr h).symm
  have hgt {i j : Int} (h : j < i) : some Ordering.gt = some (compare i j) :=
    congrArg some (compare_gt_iff_gt.mpr h).symm
  cases f with
  | notANumber => rfl
  | infinity s =>
    cases g with
    | notANumber => rfl
    | infinity t => cases s <;> cases t <;> rfl
    | zero => cases s <;> rfl
    | finite =>
      obtain ⟨hlower, hupper⟩ := apply_bounds hg
      cases s with
      | negative => exact hlt hlower
      | positive => exact hgt hupper
  | zero =>
    cases g with
    | notANumber => rfl
    | infinity t => cases t <;> rfl
    | zero => rfl
    | finite t =>
      have hpos := (magnitude_bounds hg).1
      cases t with
      | negative => exact hgt (Int.neg_neg_of_pos hpos)
      | positive => exact hlt hpos
  | finite s =>
    have hpos := (magnitude_bounds hf).1
    cases g with
    | notANumber => rfl
    | infinity t =>
      obtain ⟨hlower, hupper⟩ := apply_bounds hf
      cases t with
      | negative => exact hgt hlower
      | positive => exact hlt hupper
    | zero =>
      cases s with
      | negative => exact hlt (Int.neg_neg_of_pos hpos)
      | positive => exact hgt hpos
    | finite t =>
      have hpos' := (magnitude_bounds hg).1
      have hcompare := compare_finite hf hg
      cases s <;> cases t
      case negative.negative =>
        -- of two negative values the larger has the smaller magnitude
        refine congrArg some ((congrArg Ordering.swap hcompare).trans ?_)
        rw [← Std.OrientedCmp.eq_swap]
        exact compare_congr Int.neg_lt_neg_iff.symm Int.neg_lt_neg_iff.symm
      case negative.positive => exact hlt ((Int.neg_neg_of_pos hpos).trans hpos')
      case positive.negative => exact hgt ((Int.neg_neg_of_pos hpos').trans hpos)
      case positive.positive => exact congrArg some hcompare

/-- The order of floating-point values is that of their ranks. -/
theorem compare_eq_compare_rank? (x y : Float) :
    x.toModel.compare y.toModel = do return compare (← rank? x) (← rank? y) := by
  rw [rank?_eq_unpackedRank?, rank?_eq_unpackedRank?]
  exact compare_of_inFormat (inFormat_unpack _) (inFormat_unpack _)

end TripleRules.Number
