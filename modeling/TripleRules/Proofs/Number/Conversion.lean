import TripleRules.Expr.Numeric
import TripleRules.Proofs.Number.Encoding

/-!
# The order of converted integers

Encodings of floating-point values are in the order of the values (`Number.units_strictMono`), so
integers are compared by what rounding leaves of them (`Numeric.order?_integer`).
-/

namespace TripleRules

namespace Number

open Float.Model.UnpackedFloat

variable {m n w : Nat} {e i j : Int} {sign : Sign} {x : Float}

-- ---------------------------------------------------------------------------
-- Places of integers
-- ---------------------------------------------------------------------------

theorem rank?_of_encoded (h : Encoded x.toModel.unpack sign w m e) :
    rank? x = some (sign.apply w) := by
  rw [rank?_eq_unpackedRank?, h.eq_finite, h.eq_bits]
  rfl

def place (i : Int) : Int := i.sign * encoding i.natAbs

theorem place_ofNat (n : Nat) : place n = encoding n := by
  rcases Nat.eq_zero_or_pos n with rfl | hn
  · rfl
  · rw [place, Int.sign_natCast_of_ne_zero hn.ne', Int.one_mul, Int.natAbs_natCast]

theorem place_neg (i : Int) : place (-i) = -place i := by
  rw [place, place, Int.sign_neg, Int.natAbs_neg, Int.neg_mul]

theorem rank?_ofNat (hlt : n < 2 ^ 64) : rank? (Float.ofInt n) = some (place n) := by
  rw [place_ofNat]
  rcases Nat.eq_zero_or_pos n with rfl | hn
  · decide +kernel
  · obtain ⟨m, e, h⟩ := encoded_ofNat hn.ne' hlt
    exact rank?_of_encoded h

theorem rank?_neg_ofNat (hlt : n < 2 ^ 64) : rank? (Float.ofInt (-n)) = some (place (-n)) := by
  rw [place_neg, place_ofNat]
  cases n with
  | zero => decide +kernel
  | succ n =>
    obtain ⟨m, e, h⟩ := encoded_ofNat n.succ_ne_zero hlt
    have hunpack : (Float.ofInt (Int.negSucc n)).toModel.unpack =
        (Float.ofNat (n + 1)).toModel.unpack.neg :=
      h.neg.unpack_pack
    exact rank?_of_encoded (hunpack ▸ h.neg)

theorem rank?_ofInt (hi : FitsSigned i) : rank? (Float.ofInt i) = some (place i) := by
  obtain ⟨hleast, hmost⟩ := hi
  obtain ⟨n, rfl | rfl⟩ := i.eq_nat_or_neg
  · exact rank?_ofNat (by omega)
  · exact rank?_neg_ofNat (by omega)

-- ---------------------------------------------------------------------------
-- Order
-- ---------------------------------------------------------------------------

/-- The value that sixty-three bits encode, in units of the least positive value. -/
def units (w : Nat) : Nat :=
  if w < 2 ^ 52 then w else (2 ^ 52 + w % 2 ^ 52) * 2 ^ (w / 2 ^ 52 - 1)

theorem units_normal {q r : Nat} (hr : r < 2 ^ 52) :
    units ((q + 1) * 2 ^ 52 + r) = (2 ^ 52 + r) * 2 ^ q := by
  have hdiv : ((q + 1) * 2 ^ 52 + r) / 2 ^ 52 = q + 1 := by omega
  have hmod : ((q + 1) * 2 ^ 52 + r) % 2 ^ 52 = r := by omega
  rw [units, if_neg (by omega), hdiv, hmod, Nat.add_sub_cancel]

theorem units_lt_succ (w : Nat) : units w < units (w + 1) := by
  rcases Nat.lt_or_ge w (2 ^ 52) with hlow | hhigh
  · rw [units, if_pos hlow]
    rcases Nat.lt_or_ge (w + 1) (2 ^ 52) with hnext | hnext
    · rw [units, if_pos hnext]
      omega
    · -- the least value with a leading digit comes after all the others
      obtain rfl : w = 2 ^ 52 - 1 := by omega
      decide +kernel
  · obtain ⟨q, r, hr, rfl⟩ : ∃ q r, r < 2 ^ 52 ∧ w = (q + 1) * 2 ^ 52 + r :=
      ⟨w / 2 ^ 52 - 1, w % 2 ^ 52, by omega, by omega⟩
    rw [units_normal hr]
    rcases Nat.lt_or_ge (r + 1) (2 ^ 52) with hnext | hnext
    · rw [Nat.add_assoc, units_normal hnext]
      exact Nat.mul_lt_mul_of_pos_right (by omega) (Nat.two_pow_pos q)
    · -- after all ones comes the next power of two
      obtain rfl : r = 2 ^ 52 - 1 := by omega
      have hcarry : (q + 1) * 2 ^ 52 + (2 ^ 52 - 1) + 1 = (q + 1 + 1) * 2 ^ 52 + 0 := by omega
      rw [hcarry, units_normal (by omega), pow_succ 2 q, Nat.mul_comm (2 ^ q) 2, ← Nat.mul_assoc]
      exact Nat.mul_lt_mul_of_pos_right (by omega) (Nat.two_pow_pos q)

theorem units_strictMono : StrictMono units := strictMono_nat_of_lt_succ units_lt_succ

/-- A converted integer has the value that rounding leaves of it. -/
theorem units_encoding (n : Nat) : units (encoding n) = nearestNat n * 2 ^ 1074 := by
  rcases Nat.eq_zero_or_pos n with rfl | hn
  · have hzero : nearestNat 0 = 0 := rfl
    rw [hzero, Nat.zero_mul]
    rfl
  · obtain ⟨hlower, hupper⟩ := significand_bounds hn.ne'
    rw [nearestNat_mul_two_pow (b := n.log2 + 1022) (by omega), encoding, if_neg hn.ne']
    rcases Nat.lt_or_eq_of_le hupper with hlt | hcarry
    · have hsplit : (n.log2 + 1022) * 2 ^ 52 + significand n =
          (n.log2 + 1022 + 1) * 2 ^ 52 + (significand n - 2 ^ 52) := by omega
      rw [hsplit, units_normal (by omega), Nat.add_sub_cancel' hlower]
    · have hsplit : (n.log2 + 1022) * 2 ^ 52 + 2 ^ 53 = (n.log2 + 1022 + 1 + 1) * 2 ^ 52 + 0 := by
        omega
      rw [hcarry, hsplit, units_normal (by omega), pow_succ 2 (n.log2 + 1022),
        Nat.mul_comm (2 ^ (n.log2 + 1022)) 2, ← Nat.mul_assoc]
      rfl

theorem encoding_lt_encoding : encoding m < encoding n ↔ nearestNat m < nearestNat n := by
  rw [← units_strictMono.lt_iff_lt, units_encoding, units_encoding,
    Nat.mul_lt_mul_right (Nat.two_pow_pos _)]

theorem encoding_pos : 0 < encoding n ↔ 0 < nearestNat n := encoding_lt_encoding (m := 0)

theorem place_lt_place : place i < place j ↔ nearest i < nearest j := by
  obtain ⟨m, rfl | rfl⟩ := i.eq_nat_or_neg <;> obtain ⟨n, rfl | rfl⟩ := j.eq_nat_or_neg <;>
    simp only [place_neg, place_ofNat, nearest_neg, nearest_ofNat]
  · exact Int.ofNat_lt.trans (encoding_lt_encoding.trans Int.ofNat_lt.symm)
  · omega
  · have hm := @encoding_pos m
    have hn := @encoding_pos n
    omega
  · have hnm := @encoding_lt_encoding n m
    omega

end Number

/-- Two integers in range are compared as rounding leaves them. -/
theorem Numeric.order?_integer {i j : Int} (hi : Number.FitsSigned i) (hj : Number.FitsSigned j) :
    order? (.integer i) (.integer j) = some (compare (Number.nearest i) (Number.nearest j)) := by
  simp only [order?, toFloat, Number.rank?_ofInt hi, Number.rank?_ofInt hj]
  exact congrArg some (Number.compare_congr Number.place_lt_place Number.place_lt_place)

end TripleRules
