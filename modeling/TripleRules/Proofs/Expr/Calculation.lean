import Mathlib.Algebra.Order.Group.Unbundled.Int
import TripleRules.Expr.Eval
import TripleRules.Expr.Standard
import TripleRules.Proofs.Dictionary
import TripleRules.Proofs.Number.Numeral

/-!
# Integer arithmetic

Sums, differences, products and magnitudes of integers are exact or fail. Each operation writes its
result as a numeral, which the next one reads, so the results of a whole calculation are those of
arithmetic on integers of any size as long as all of them are in range, and an overflow as soon as
one of them is not (`Expr.Computes.eval_eq`).
-/

namespace TripleRules

namespace FunctionRegistry

variable {functions : FunctionRegistry} {name other : String} {f : Function}

theorem get?_congr (h : Text.lower name = Text.lower other) :
    functions.get? name = functions.get? other := by
  rw [get?, get?, h]

theorem lookup_put (entries : List (String × Function)) :
    (put name f entries).lookup name = some f := by
  induction entries with
  | nil => simp [put]
  | cons e rest ih =>
    obtain ⟨first, g⟩ := e
    by_cases h : first = name
    · simp [put, h]
    · simp [put, h, lookup_cons_eq_ite, Ne.symm h, ih]

theorem get?_register : (functions.register name f).get? name = some f := lookup_put _

theorem standardWith_get?_abs (engine : Regex.Engine) :
    (standardWith engine).get? "abs" = some .abs := by
  simp only [standardWith, List.foldl_cons, List.foldl_nil]
  exact get?_register

end FunctionRegistry

namespace Expr

/-- An expression of integer arithmetic over integer literals, and variables that stand for such,
with its value among the integers of any size and with the results of its operations in the order
of evaluation. An operand alone has no such results. -/
inductive Computes (b : Binding) : Expr → Int → List Int → Prop
  | literal {l : Literal} {i : Int} (h : l.integer? = some i) :
      Computes b (.constant (.literal l)) i []
  | var {v : Variable} {l : Literal} {i : Int} (hv : b.get? v = some (.literal l))
      (h : l.integer? = some i) : Computes b (.var v) i []
  | constantVar {v : Variable} {l : Literal} {i : Int} (hv : b.get? v = some (.literal l))
      (h : l.integer? = some i) : Computes b (.constant (.variable v)) i []
  | add {l r : Expr} {i j : Int} {is js : List Int} : Computes b l i is → Computes b r j js →
      Computes b (.arith .add l r) (i + j) (is ++ js ++ [i + j])
  | sub {l r : Expr} {i j : Int} {is js : List Int} : Computes b l i is → Computes b r j js →
      Computes b (.arith .sub l r) (i - j) (is ++ js ++ [i - j])
  | mul {l r : Expr} {i j : Int} {is js : List Int} : Computes b l i is → Computes b r j js →
      Computes b (.arith .mul l r) (i * j) (is ++ js ++ [i * j])
  | abs {name : String} {e : Expr} {i : Int} {is : List Int} (hname : Text.lower name = "abs") :
      Computes b e i is → Computes b (.call name [e]) |i| (is ++ [|i|])

variable {functions : FunctionRegistry} {b : Binding} {e l r : Expr} {i j k : Int}
  {is js : List Int}

-- ---------------------------------------------------------------------------
-- Results in range
-- ---------------------------------------------------------------------------

def checkedResult (value : Int) (results : List Int) : Except EvalError Term :=
  if ∀ k ∈ results, Number.FitsSigned k then .ok (.ofInt value) else .error .overflow

theorem checkedResult_of_mem (hk : k ∈ is) (h : ¬ Number.FitsSigned k) :
    checkedResult i is = .error .overflow :=
  if_neg fun hfits => h (hfits k hk)

theorem checkedResult_append (h : ∀ k ∈ is, Number.FitsSigned k) :
    checkedResult i (is ++ js) = checkedResult i js := by
  simp only [checkedResult, List.forall_mem_append]
  exact if_congr (and_iff_right h) rfl rfl

theorem ofChecked_map_toTerm (k : Int) :
    (Numeric.ofChecked k).map Numeric.toTerm = checkedResult k [k] := by
  simp only [Numeric.ofChecked, Number.checked, checkedResult, List.mem_singleton, forall_eq]
  by_cases hk : Number.FitsSigned k
  · simp only [if_pos hk]
    rfl
  · simp only [if_neg hk]
    rfl

/-- What the operation above sees of a calculation: a term that reads as the value, or an overflow
if some result was out of range. -/
inductive Supplies (functions : FunctionRegistry) (b : Binding) (e : Expr) (value : Int)
    (results : List Int) : Prop
  | value {t : Term} (hfits : ∀ k ∈ results, Number.FitsSigned k)
      (heval : e.eval functions b = .ok t) (hread : Numeric.ofTerm? t = some (.integer value))
  | overflow {k : Int} (hk : k ∈ results) (hfits : ¬ Number.FitsSigned k)
      (heval : e.eval functions b = .error .overflow)

theorem supplies_literal {l : Literal} (he : e.eval functions b = .ok (.literal l))
    (h : l.integer? = some i) : Supplies functions b e i [] :=
  .value nofun he (Numeric.ofTerm?_of_integer? h)

theorem supplies_of_checkedResult (h : e.eval functions b = checkedResult k (is ++ [k])) :
    Supplies functions b e k (is ++ [k]) := by
  by_cases hfits : ∀ i ∈ is ++ [k], Number.FitsSigned i
  · have hk : Number.FitsSigned k := hfits k (List.mem_append_right _ (List.mem_singleton_self k))
    exact .value hfits (h.trans (if_pos hfits)) (Numeric.ofTerm?_ofInt hk)
  · have heval := h.trans (if_neg hfits)
    push Not at hfits
    obtain ⟨i, hi, hout⟩ := hfits
    exact .overflow hi hout heval

-- ---------------------------------------------------------------------------
-- One operation
-- ---------------------------------------------------------------------------

/-- An operation on two calculations. The left one is taken first, but whichever result is out of
range, the failure is the same. -/
theorem eval_arith {op : ArithOp}
    (hop : Numeric.arithmetic op (.integer i) (.integer j) = Numeric.ofChecked k)
    (hl : Supplies functions b l i is) (hr : Supplies functions b r j js) :
    (Expr.arith op l r).eval functions b = checkedResult k (is ++ js ++ [k]) := by
  rw [eval]
  cases hl with
  | overflow hk hout hl =>
    rw [hl, checkedResult_of_mem (by simp [hk]) hout]
    rfl
  | @value s his hl hi =>
    cases hr with
    | overflow hk hout hr =>
      rw [hl, hr, checkedResult_of_mem (by simp [hk]) hout]
      rfl
    | @value t hjs hr hj =>
      have hresult : Term.arithmetic op s t = checkedResult k [k] := by
        simp only [Term.arithmetic, hi, hj, hop, ofChecked_map_toTerm]
      rw [hl, hr, checkedResult_append (List.forall_mem_append.mpr ⟨his, hjs⟩)]
      exact hresult

theorem eval_abs {name : String} (habs : functions.get? "abs" = some .abs)
    (hname : Text.lower name = "abs") (he : Supplies functions b e i is) :
    (Expr.call name [e]).eval functions b = checkedResult |i| (is ++ [|i|]) := by
  rw [eval, evalList, evalList]
  cases he with
  | overflow hk hout he =>
    rw [he, checkedResult_of_mem (by simp [hk]) hout]
    rfl
  | @value t his he hi =>
    have hget : functions.get? name = some .abs :=
      (FunctionRegistry.get?_congr (hname.trans (by decide +kernel))).trans habs
    have hcall : functions.call name [t] = Function.abs.apply [t] := by
      rw [FunctionRegistry.call, hget]
      rfl
    have hresult : Function.abs.apply [t] = checkedResult |i| [|i|] := by
      simp only [Function.abs, Function.unary, hi, Numeric.abs, ← Int.abs_eq_natAbs,
        ofChecked_map_toTerm]
    rw [he, checkedResult_append his, ← hresult, ← hcall]
    rfl

-- ---------------------------------------------------------------------------
-- Calculations
-- ---------------------------------------------------------------------------

namespace Computes

theorem supplies (habs : functions.get? "abs" = some .abs) (h : Computes b e i is) :
    Supplies functions b e i is := by
  induction h with
  | literal h => exact supplies_literal rfl h
  | var hv h => exact supplies_literal (by rw [eval, read, hv]) h
  | constantVar hv h => exact supplies_literal (by rw [eval, read, hv]) h
  | add _ _ hl hr => exact supplies_of_checkedResult (eval_arith rfl hl hr)
  | sub _ _ hl hr => exact supplies_of_checkedResult (eval_arith rfl hl hr)
  | mul _ _ hl hr => exact supplies_of_checkedResult (eval_arith rfl hl hr)
  | abs hname _ he => exact supplies_of_checkedResult (eval_abs habs hname he)

/-- Integer arithmetic with at least one operation is exact: its value is the integer that it has
in mathematics if all results on the way are in range, and otherwise it overflows. Of the functions
that there are it needs the magnitude alone. -/
theorem eval_eq (habs : functions.get? "abs" = some .abs) (h : Computes b e i is) (hop : is ≠ []) :
    e.eval functions b =
      if ∀ k ∈ is, Number.FitsSigned k then .ok (.ofInt i) else .error .overflow := by
  cases h with
  | literal | var | constantVar => exact absurd rfl hop
  | add hl hr => exact eval_arith rfl (hl.supplies habs) (hr.supplies habs)
  | sub hl hr => exact eval_arith rfl (hl.supplies habs) (hr.supplies habs)
  | mul hl hr => exact eval_arith rfl (hl.supplies habs) (hr.supplies habs)
  | abs hname he => exact eval_abs habs hname (he.supplies habs)

/-- The least integer, as the numeral of another integer type and with space around it: its
successor is in range and its magnitude is not, not even on the way to a result that is. -/
theorem eval_eq_least :
    let least : Expr := .constant (.literal (.ofSchema " -9223372036854775808 " "long"))
    let one : Expr := .constant (.ofInt 1)
    FunctionRegistry.standard.get? "abs" = some .abs ∧
    (Computes .empty (.arith .add least one) (-9223372036854775807) [-9223372036854775807] ∧
      (Expr.arith .add least one).eval .standard .empty = .ok (.ofInt (-9223372036854775807))) ∧
    (Computes .empty (.arith .sub (.call "ABS" [least]) one) 9223372036854775807
        [9223372036854775808, 9223372036854775807] ∧
      (Expr.arith .sub (.call "ABS" [least]) one).eval .standard .empty = .error .overflow) := by
  intro least one
  have hleast : Computes .empty least (-9223372036854775808) [] := .literal rfl
  have hone : Computes .empty one 1 [] :=
    .literal (Literal.integer?_integer (by decide +kernel))
  have hsum : Computes .empty (.arith .add least one) (-9223372036854775807)
      [-9223372036854775807] := hleast.add hone
  have hdifference : Computes .empty (.arith .sub (.call "ABS" [least]) one) 9223372036854775807
      [9223372036854775808, 9223372036854775807] :=
    (hleast.abs (by decide +kernel)).sub hone
  have habs : FunctionRegistry.standard.get? "abs" = some .abs :=
    FunctionRegistry.standardWith_get?_abs _
  exact ⟨habs, ⟨hsum, (eval_eq habs hsum nofun).trans (if_pos (by decide +kernel))⟩,
    hdifference, (eval_eq habs hdifference nofun).trans (if_neg (by decide +kernel))⟩

end Computes

end Expr

end TripleRules
