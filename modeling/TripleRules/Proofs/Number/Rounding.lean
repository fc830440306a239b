import Mathlib.Algebra.Order.Group.Unbundled.Int
import Mathlib.Algebra.Order.Group.Nat

/-!
# Rounding to fifty-three binary digits

`Number.nearest` rounds an integer to one whose magnitude has at most fifty-three binary digits
before its trailing zeros, the nearest one, and of two equally near the one that is even in its last
digit. Rounding keeps the order (`Number.nearest_mono`) and leaves small integers as they are
(`Number.nearest_of_le`).
-/

namespace TripleRules.Number

/-- A quotient rounded to the nearest integer, from a half to the even one. -/
def halfEven (n unit : Nat) : Nat :=
  if 2 * (n % unit) < unit ∨ 2 * (n % unit) = unit ∧ n / unit % 2 = 0 then n / unit
  else n / unit + 1

/-- The gap between numbers of fifty-three binary digits that are as long as a given one. -/
def ulp (n : Nat) : Nat := 2 ^ (n.log2 - 52)

/-- The digits that are kept of a number, as a number of exactly fifty-three binary digits; rounded
up from all ones it is the next power of two. -/
def significand (n : Nat) : Nat := halfEven n (ulp n) * 2 ^ (52 - n.log2)

def nearestNat (n : Nat) : Nat := halfEven n (ulp n) * ulp n

def nearest (i : Int) : Int := i.sign * nearestNat i.natAbs

-- ---------------------------------------------------------------------------
-- Rounded quotients
-- ---------------------------------------------------------------------------

variable {m n unit k : Nat} {i j : Int}

theorem div_le_halfEven (n unit : Nat) : n / unit ≤ halfEven n unit := by
  rw [halfEven]
  split <;> omega

theorem halfEven_le_succ (n unit : Nat) : halfEven n unit ≤ n / unit + 1 := by
  rw [halfEven]
  split <;> omega

@[simp] theorem halfEven_one (n : Nat) : halfEven n 1 = n := by
  simp [halfEven, Nat.mod_one]

theorem halfEven_le (hunit : 0 < unit) (h : n ≤ k * unit) : halfEven n unit ≤ k := by
  rcases Nat.lt_or_ge n (k * unit) with hlt | hge
  · have hdiv : n / unit < k := (Nat.div_lt_iff_lt_mul hunit).mpr hlt
    exact (halfEven_le_succ n unit).trans hdiv
  · obtain rfl : n = k * unit := Nat.le_antisymm h hge
    simp [halfEven, Nat.mul_div_cancel _ hunit, hunit]

theorem le_halfEven (hunit : 0 < unit) (h : k * unit ≤ n) : k ≤ halfEven n unit :=
  ((Nat.le_div_iff_mul_le hunit).mpr h).trans (div_le_halfEven n unit)

theorem halfEven_mono (h : m ≤ n) : halfEven m unit ≤ halfEven n unit := by
  rcases Nat.lt_or_ge (m / unit) (n / unit) with hlt | hge
  · exact (halfEven_le_succ m unit).trans (Nat.le_trans hlt (div_le_halfEven n unit))
  · have hdiv : m / unit = n / unit := Nat.le_antisymm (Nat.div_le_div_right h) hge
    have hmod : m % unit ≤ n % unit := by
      have hm := Nat.div_add_mod m unit
      have hn := Nat.div_add_mod n unit
      rw [hdiv] at hm
      omega
    rw [halfEven, halfEven, hdiv]
    split <;> split <;> omega

theorem halfEven_mul_right (n unit : Nat) (hk : 0 < k) :
    halfEven (n * k) (unit * k) = halfEven n unit := by
  have hlt : 2 * (n % unit * k) < unit * k ↔ 2 * (n % unit) < unit := by
    rw [← Nat.mul_assoc]
    exact Nat.mul_lt_mul_right hk
  have heq : 2 * (n % unit * k) = unit * k ↔ 2 * (n % unit) = unit := by
    rw [← Nat.mul_assoc]
    exact Nat.mul_left_inj hk.ne'
  simp only [halfEven, Nat.mul_mod_mul_right, Nat.mul_div_mul_right _ _ hk, hlt, heq]

-- ---------------------------------------------------------------------------
-- Rounded numbers
-- ---------------------------------------------------------------------------

theorem ulp_pos (n : Nat) : 0 < ulp n := Nat.two_pow_pos _

theorem ulp_of_lt (h : n < 2 ^ 53) : ulp n = 1 := by
  have hlog : n.log2 - 52 = 0 := by
    rcases Nat.eq_zero_or_pos n with rfl | hpos
    · rfl
    · have := (Nat.log2_lt hpos.ne').mpr h
      omega
  rw [ulp, hlog, Nat.pow_zero]

theorem two_pow_mul_ulp (h : 52 ≤ n.log2) (k : Nat) : 2 ^ (52 + k) * ulp n = 2 ^ (n.log2 + k) := by
  rw [ulp, ← Nat.pow_add]
  congr 1
  omega

theorem two_pow_log2_le_nearestNat (hn : n ≠ 0) : 2 ^ n.log2 ≤ nearestNat n := by
  rcases Nat.lt_or_ge n.log2 52 with hshort | hlong
  · have hlt : n < 2 ^ 53 :=
      Nat.lt_log2_self.trans_le (Nat.pow_le_pow_right (by decide) (by omega))
    rw [nearestNat, ulp_of_lt hlt, halfEven_one, Nat.mul_one]
    exact Nat.log2_self_le hn
  · rw [← Nat.add_zero n.log2, ← two_pow_mul_ulp hlong 0]
    refine Nat.mul_le_mul_right _ (le_halfEven (ulp_pos n) ?_)
    rw [two_pow_mul_ulp hlong 0]
    exact Nat.log2_self_le hn

theorem nearestNat_le_two_pow (n : Nat) : nearestNat n ≤ 2 ^ (n.log2 + 1) := by
  rcases Nat.lt_or_ge n.log2 52 with hshort | hlong
  · have hlt : n < 2 ^ 53 :=
      Nat.lt_log2_self.trans_le (Nat.pow_le_pow_right (by decide) (by omega))
    rw [nearestNat, ulp_of_lt hlt, halfEven_one, Nat.mul_one]
    exact Nat.lt_log2_self.le
  · rw [← two_pow_mul_ulp hlong 1]
    refine Nat.mul_le_mul_right _ (halfEven_le (ulp_pos n) ?_)
    rw [two_pow_mul_ulp hlong 1]
    exact Nat.lt_log2_self.le

theorem nearestNat_mul_two_pow {a b : Nat} (h : n.log2 - 52 + a = 52 - n.log2 + b) :
    nearestNat n * 2 ^ a = significand n * 2 ^ b := by
  rw [nearestNat, significand, ulp, Nat.mul_assoc, Nat.mul_assoc, ← Nat.pow_add, ← Nat.pow_add, h]

theorem significand_bounds (hn : n ≠ 0) : 2 ^ 52 ≤ significand n ∧ significand n ≤ 2 ^ 53 := by
  have hpos : 0 < 2 ^ (n.log2 - 52) := Nat.two_pow_pos _
  have hscaled : nearestNat n * 2 ^ (52 - n.log2) = significand n * 2 ^ (n.log2 - 52) :=
    nearestNat_mul_two_pow (by omega)
  have hlower := Nat.mul_le_mul_right (2 ^ (52 - n.log2)) (two_pow_log2_le_nearestNat hn)
  have hupper := Nat.mul_le_mul_right (2 ^ (52 - n.log2)) (nearestNat_le_two_pow n)
  have hlength : n.log2 + (52 - n.log2) = 52 + (n.log2 - 52) := by omega
  have hlength' : n.log2 + 1 + (52 - n.log2) = 53 + (n.log2 - 52) := by omega
  rw [hscaled, ← Nat.pow_add, hlength, Nat.pow_add] at hlower
  rw [hscaled, ← Nat.pow_add, hlength', Nat.pow_add] at hupper
  exact ⟨Nat.le_of_mul_le_mul_right hlower hpos, Nat.le_of_mul_le_mul_right hupper hpos⟩

theorem nearestNat_of_lt (h : n < 2 ^ 53) : nearestNat n = n := by
  rw [nearestNat, ulp_of_lt h, halfEven_one, Nat.mul_one]

theorem nearestNat_of_le (h : n ≤ 2 ^ 53) : nearestNat n = n := by
  rcases Nat.lt_or_eq_of_le h with hlt | rfl
  · exact nearestNat_of_lt hlt
  · decide +kernel

theorem nearestNat_mono (h : m ≤ n) : nearestNat m ≤ nearestNat n := by
  rcases Nat.eq_zero_or_pos m with rfl | hm
  · rw [nearestNat_of_lt (n := 0) (by decide)]
    exact Nat.zero_le _
  · have hn : n ≠ 0 := by omega
    have hlog : m.log2 ≤ n.log2 :=
      (Nat.le_log2 hn).mpr ((Nat.log2_self_le hm.ne').trans h)
    -- the power of two between numbers of different length is not crossed by rounding, and numbers of
    -- one length are rounded in the same units
    rcases Nat.lt_or_eq_of_le hlog with hlt | heq
    · calc
        nearestNat m ≤ 2 ^ (m.log2 + 1) := nearestNat_le_two_pow m
        _ ≤ 2 ^ n.log2 := Nat.pow_le_pow_right (by decide) hlt
        _ ≤ nearestNat n := two_pow_log2_le_nearestNat hn
    · have hulp : ulp m = ulp n := by rw [ulp, ulp, heq]
      rw [nearestNat, nearestNat, hulp]
      exact Nat.mul_le_mul_right _ (halfEven_mono h)

theorem nearest_ofNat (n : Nat) : nearest n = nearestNat n := by
  rcases Nat.eq_zero_or_pos n with rfl | hn
  · rfl
  · rw [nearest, Int.sign_natCast_of_ne_zero hn.ne', Int.one_mul, Int.natAbs_natCast]

theorem nearest_neg (i : Int) : nearest (-i) = -nearest i := by
  rw [nearest, nearest, Int.sign_neg, Int.natAbs_neg, Int.neg_mul]

theorem nearest_nonneg (h : 0 ≤ i) : 0 ≤ nearest i := by
  obtain ⟨n, rfl⟩ := Int.eq_ofNat_of_zero_le h
  exact (nearest_ofNat n).symm ▸ Int.natCast_nonneg _

theorem nearest_mono_of_nonneg (hi : 0 ≤ i) (h : i ≤ j) : nearest i ≤ nearest j := by
  obtain ⟨m, rfl⟩ := Int.eq_ofNat_of_zero_le hi
  obtain ⟨n, rfl⟩ := Int.eq_ofNat_of_zero_le (hi.trans h)
  rw [nearest_ofNat, nearest_ofNat]
  exact Int.ofNat_le.mpr (nearestNat_mono (Int.ofNat_le.mp h))

theorem nearest_mono (h : i ≤ j) : nearest i ≤ nearest j := by
  rcases Int.le_total 0 i with hi | hi
  · exact nearest_mono_of_nonneg hi h
  · rcases Int.le_total 0 j with hj | hj
    · have hneg := nearest_nonneg (Int.neg_nonneg_of_nonpos hi)
      rw [nearest_neg] at hneg
      exact (Int.neg_nonneg.mp hneg).trans (nearest_nonneg hj)
    · have hneg := nearest_mono_of_nonneg (Int.neg_nonneg_of_nonpos hj) (Int.neg_le_neg h)
      rw [nearest_neg, nearest_neg] at hneg
      exact Int.neg_le_neg_iff.mp hneg

theorem nearest_of_le (h : i.natAbs ≤ 2 ^ 53) : nearest i = i := by
  rw [nearest, nearestNat_of_le h, Int.sign_mul_natAbs]

/-- Distinct results come from numbers in the same order. -/
theorem compare_nearest (h : nearest i ≠ nearest j) :
    compare (nearest i) (nearest j) = compare i j := by
  rcases Int.lt_or_lt_of_ne h with hlt | hlt
  · have hij : i < j := Int.lt_of_not_ge fun hle => Int.not_le.mpr hlt (nearest_mono hle)
    rw [compare_lt_iff_lt.mpr hlt, compare_lt_iff_lt.mpr hij]
  · have hji : j < i := Int.lt_of_not_ge fun hle => Int.not_le.mpr hlt (nearest_mono hle)
    rw [compare_gt_iff_gt.mpr hlt, compare_gt_iff_gt.mpr hji]

end TripleRules.Number
