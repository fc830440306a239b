import TripleRules.Expr.Eval
import TripleRules.Expr.Standard
import TripleRules.Proofs.Number.Conversion
import TripleRules.Proofs.Number.Numeral

/-!
# Comparisons of integers

Unlike arithmetic, a comparison of two integers is one of the floating-point values next to them.
It is exact up to the magnitude from which on neighbouring integers are rounded to the same value
(`Expr.eval_compare_of_le`). Beyond it two integers that are rounded alike count as equal, and the
result is right only for a comparison that does not tell them from equal ones
(`Expr.eval_compare_exact_iff`).
-/

namespace TripleRules

open Number (nearest)

/-- The relation between integers that a comparison is meant to decide. -/
def CompareOp.relation : CompareOp → Int → Int → Prop
  | .eq, i, j => i = j
  | .ne, i, j => i ≠ j
  | .lt, i, j => i < j
  | .le, i, j => i ≤ j
  | .gt, i, j => i > j
  | .ge, i, j => i ≥ j

instance (op : CompareOp) (i j : Int) : Decidable (op.relation i j) := by
  cases op <;> unfold CompareOp.relation <;> infer_instance

variable {op : CompareOp} {i j : Int}

theorem CompareOp.holds_compare (op : CompareOp) (i j : Int) :
    op.holds (compare i j) = decide (op.relation i j) := by
  rw [Bool.eq_iff_iff, decide_eq_true_iff]
  cases op <;>
    simp only [holds, relation, ne_eq, decide_eq_true_iff, compare_eq_iff_eq, compare_lt_iff_lt,
      compare_gt_iff_gt] <;>
    omega

theorem CompareOp.relation_nearest (h : nearest i ≠ nearest j) :
    op.relation (nearest i) (nearest j) ↔ op.relation i j := by
  rw [← decide_eq_decide, ← op.holds_compare, ← op.holds_compare, Number.compare_nearest h]

theorem Term.ofBool_inj {u v : Bool} : ofBool u = ofBool v ↔ u = v := by
  cases u <;> cases v <;> decide

namespace Expr

variable {functions : FunctionRegistry} {b : Binding} {l r : Expr} {s t : Literal}

theorem eval_compare_integer (hl : l.eval functions b = .ok (.literal s))
    (hr : r.eval functions b = .ok (.literal t)) (hs : s.integer? = some i)
    (ht : t.integer? = some j) :
    (Expr.compare op l r).eval functions b =
      .ok (.ofBool (op.relation (nearest i) (nearest j))) := by
  have horder := Numeric.order?_integer (Literal.fitsSigned_of_integer? hs)
    (Literal.fitsSigned_of_integer? ht)
  have hcompare : Term.compareBy op (.literal s) (.literal t) =
      .ok (decide (op.relation (nearest i) (nearest j))) := by
    simp only [Term.compareBy, Numeric.ofTerm?_of_integer? hs, Numeric.ofTerm?_of_integer? ht,
      horder, CompareOp.holds_compare]
  rw [eval, hl, hr]
  simp only [bind, Except.bind, hcompare]
  rfl

/-- Integers of at most fifty-three binary digits are compared exactly. -/
theorem eval_compare_of_le (hl : l.eval functions b = .ok (.literal s))
    (hr : r.eval functions b = .ok (.literal t)) (hs : s.integer? = some i)
    (ht : t.integer? = some j) (hi : i.natAbs ≤ 2 ^ 53) (hj : j.natAbs ≤ 2 ^ 53) :
    (Expr.compare op l r).eval functions b = .ok (.ofBool (op.relation i j)) := by
  rw [eval_compare_integer hl hr hs ht, Number.nearest_of_le hi, Number.nearest_of_le hj]

/-- A comparison of two integers always succeeds, and it is exact unless they are rounded to the
same value and are related otherwise than equal ones. -/
theorem eval_compare_exact_iff (hl : l.eval functions b = .ok (.literal s))
    (hr : r.eval functions b = .ok (.literal t)) (hs : s.integer? = some i)
    (ht : t.integer? = some j) :
    (Expr.compare op l r).eval functions b =
        .ok (.ofBool (op.relation (nearest i) (nearest j))) ∧
      ((Expr.compare op l r).eval functions b = .ok (.ofBool (op.relation i j)) ↔
        (nearest i = nearest j → (op.relation i j ↔ op.relation i i))) := by
  have heval : (Expr.compare op l r).eval functions b =
      .ok (.ofBool (op.relation (nearest i) (nearest j))) := eval_compare_integer hl hr hs ht
  refine ⟨heval, ?_⟩
  rw [heval, Except.ok.injEq, Term.ofBool_inj, decide_eq_decide]
  by_cases h : nearest i = nearest j
  · have hsame : op.relation (nearest i) (nearest j) ↔ op.relation i i := by
      rw [h]
      cases op <;> simp [CompareOp.relation]
    rw [hsame]
    exact ⟨fun hiff _ => hiff.symm, fun hiff => (hiff h).symm⟩
  · exact iff_of_true (CompareOp.relation_nearest h) fun heq => absurd heq h

/-- The first integer that is rounded, and to the one before it, is found to be at least as large as
that one, and it is. -/
theorem eval_compare_exact_iff_adjacent :
    let l : Expr := .var ⟨"x"⟩
    let r : Expr := .constant (.literal (.ofSchema " 9007199254740992 " "long"))
    let b : Binding := Binding.empty.insert ⟨"x"⟩ (.ofInt 9007199254740993)
    (Literal.integer 9007199254740993).integer? = some 9007199254740993 ∧
      (Literal.ofSchema " 9007199254740992 " "long").integer? = some 9007199254740992 ∧
      nearest 9007199254740993 = nearest 9007199254740992 ∧
      (Expr.compare .ge l r).eval .standard b =
        .ok (.ofBool (CompareOp.ge.relation 9007199254740993 9007199254740992)) := by
  intro l r b
  have hl : l.eval .standard b = .ok (.literal (.integer 9007199254740993)) := rfl
  have hs : (Literal.integer 9007199254740993).integer? = some 9007199254740993 :=
    Literal.integer?_integer (by decide)
  have ht : (Literal.ofSchema " 9007199254740992 " "long").integer? = some 9007199254740992 := by
    decide +kernel
  refine ⟨hs, ht, by decide +kernel, ?_⟩
  exact (eval_compare_exact_iff hl rfl hs ht).2.mpr fun _ => by decide +kernel

/-- It is also found to be equal, which it is not. -/
theorem eval_compare_inexact :
    (Literal.integer 9007199254740993).integer? = some 9007199254740993 ∧
      (Literal.integer 9007199254740992).integer? = some 9007199254740992 ∧
      (Expr.compare .eq (.constant (.ofInt 9007199254740993))
        (.constant (.ofInt 9007199254740992))).eval .standard .empty = .ok (.ofBool true) ∧
      ¬ CompareOp.eq.relation 9007199254740993 9007199254740992 := by
  have hs : (Literal.integer 9007199254740993).integer? = some 9007199254740993 :=
    Literal.integer?_integer (by decide)
  have ht : (Literal.integer 9007199254740992).integer? = some 9007199254740992 :=
    Literal.integer?_integer (by decide)
  have hequal : CompareOp.eq.relation (nearest 9007199254740993) (nearest 9007199254740992) := by
    decide +kernel
  refine ⟨hs, ht, ?_, by decide⟩
  rw [eval_compare_integer rfl rfl hs ht, decide_eq_true hequal]

end Expr

end TripleRules
