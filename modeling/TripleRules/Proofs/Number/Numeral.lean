import TripleRules.Expr.Numeric

/-!
# Integers and their numerals

An integer in the signed range, written in decimal notation, is read back: as a numeral
(`Number.integer?_toString`), as a literal and as a term (`Numeric.ofTerm?_ofInt`).
-/

namespace TripleRules

namespace Number

theorem digits?_toDigits (n : Nat) : digits? (Nat.toDigits 10 n) = some n := by
  have hall : (Nat.toDigits 10 n).all Char.isDigit = true :=
    List.all_eq_true.mpr fun c hc => Nat.isDigit_of_mem_toDigits (by decide) (by decide) hc
  rw [digits?, if_pos ⟨Nat.toDigits_ne_nil, hall⟩, Nat.ofDigitChars_ten_toDigits]

theorem signed?_toDigits (n : Nat) : signed? (Nat.toDigits 10 n) = some (n : Int) := by
  have hread := digits?_toDigits n
  have hdigit : ∀ c ∈ Nat.toDigits 10 n, c.isDigit = true := fun c hc =>
    Nat.isDigit_of_mem_toDigits (by decide) (by decide) hc
  generalize Nat.toDigits 10 n = cs at hread hdigit
  rw [signed?.eq_def]
  split
  · cases hdigit '-' List.mem_cons_self
  · cases hdigit '+' List.mem_cons_self
  · rw [hread]
    rfl

theorem toList_toString_ofNat (n : Nat) : (toString (n : Int)).toList = Nat.toDigits 10 n :=
  Nat.toList_repr

theorem toList_toString_negSucc (n : Nat) :
    (toString (Int.negSucc n)).toList = '-' :: Nat.toDigits 10 (n + 1) := by
  change ("-" ++ (n + 1).repr).toList = _
  rw [String.toList_append, Nat.toList_repr]
  rfl

theorem signed?_toString (i : Int) : signed? (toString i).toList = some i := by
  cases i with
  | ofNat n => exact (toList_toString_ofNat n).symm ▸ signed?_toDigits n
  | negSucc n =>
    rw [toList_toString_negSucc, signed?, digits?_toDigits]
    rfl

theorem integer?_toString {i : Int} (h : FitsSigned i) : integer? (toString i).toList = some i := by
  rw [integer?, signed?_toString, Option.filter_some, if_pos (decide_eq_true h)]

theorem fitsSigned_of_integer? {cs : List Char} {i : Int} (h : integer? cs = some i) :
    FitsSigned i :=
  of_decide_eq_true (Option.filter_eq_some_iff.mp h).2

end Number

namespace Text

theorem trim_of_forall {s : String} (h : ∀ c ∈ s.toList, isBlank c = false) :
    trim s = s.toList := by
  have hdrop : ∀ cs : List Char, (∀ c ∈ cs, isBlank c = false) → cs.dropWhile isBlank = cs := by
    intro cs hcs
    cases cs with
    | nil => rfl
    | cons c rest => rw [List.dropWhile_cons, hcs c List.mem_cons_self]; rfl
  rw [trim, hdrop _ h, hdrop _ fun c hc => h c (List.mem_reverse.mp hc), List.reverse_reverse]

theorem isBlank_of_isDigit {c : Char} (h : c.isDigit = true) : isBlank c = false := by
  have hrange : 48 ≤ c.toNat ∧ c.toNat ≤ 57 := by
    simpa [Char.isDigit, UInt32.le_iff_toNat_le] using h
  simp only [isBlank, Bool.or_eq_false_iff, Bool.and_eq_false_iff, beq_eq_false_iff_ne,
    decide_eq_false_iff_not]
  omega

theorem trim_toString (i : Int) : trim (toString i) = (toString i).toList := by
  have hdigits (n : Nat) : ∀ c ∈ Nat.toDigits 10 n, isBlank c = false := fun c hc =>
    isBlank_of_isDigit (Nat.isDigit_of_mem_toDigits (by decide) (by decide) hc)
  refine trim_of_forall ?_
  cases i with
  | ofNat n => exact (Number.toList_toString_ofNat n).symm ▸ hdigits n
  | negSucc n =>
    rw [Number.toList_toString_negSucc, List.forall_mem_cons]
    exact ⟨rfl, hdigits (n + 1)⟩

end Text

theorem Literal.integer?_integer {i : Int} (h : Number.FitsSigned i) :
    (Literal.integer i).integer? = some i := by
  have htyped : (Literal.integer i).isIntegerTyped = true := rfl
  have hvalue : (Literal.integer i).value = toString i := rfl
  rw [integer?, if_pos htyped, hvalue, Text.trim_toString, Number.integer?_toString h]

theorem Numeric.ofTerm?_of_integer? {l : Literal} {i : Int} (h : l.integer? = some i) :
    ofTerm? (.literal l) = some (.integer i) := by
  simp only [ofTerm?, Term.literal?, Option.bind_some, h]

theorem Numeric.ofTerm?_ofInt {i : Int} (h : Number.FitsSigned i) :
    ofTerm? (.ofInt i) = some (.integer i) :=
  ofTerm?_of_integer? (Literal.integer?_integer h)

theorem Literal.fitsSigned_of_integer? {l : Literal} {i : Int} (h : l.integer? = some i) :
    Number.FitsSigned i := by
  rw [integer?] at h
  split at h
  · exact Number.fitsSigned_of_integer? h
  · cases h

end TripleRules
