import TripleRules.Proofs.Expr.Reading

/-!
# Failures under connectives

A failure is a third truth value under the connectives. It never decides a result: whatever truth
values stand in the place of failing leaves, a formula that has a truth value keeps it, and a
formula that fails does so with the failure of a leaf (`Formula.condition_absorbs`). De Morgan's
laws hold for truth values and for failures, the choice among two failures included.
-/

namespace TripleRules

@[simp] theorem Term.truth_ofBool (v : Bool) : (Term.ofBool v).truth = .ok v := by
  cases v <;> rfl

namespace Expr

variable {functions : FunctionRegistry} {b : Binding} {x x' y y' : Except EvalError Bool} {v : Bool}

-- ---------------------------------------------------------------------------
-- Outcomes under the connectives
-- ---------------------------------------------------------------------------

/-- Every truth value of one outcome is one of the other; where the one fails, the
other is free. -/
def Refines (x x' : Except EvalError Bool) : Prop := ∀ v, x = .ok v → x' = .ok v

theorem refines_error (d : EvalError) (x' : Except EvalError Bool) : Refines (.error d) x' := nofun

theorem Refines.map_not (h : Refines x x') : Refines (x.map (!·)) (x'.map (!·)) := by
  intro v hv
  obtain ⟨u, hu, rfl⟩ := Except.map_ok.mp hv
  rw [h u hu]
  rfl

theorem both_true : both x y = .ok true ↔ x = .ok true ∧ y = .ok true := by
  rcases x with _ | _ | _ <;> rcases y with _ | _ | _ <;> simp [both]

theorem both_false : both x y = .ok false ↔ x = .ok false ∨ y = .ok false := by
  rcases x with _ | _ | _ <;> rcases y with _ | _ | _ <;> simp [both]

theorem Refines.both (hx : Refines x x') (hy : Refines y y') : Refines (both x y) (both x' y') := by
  intro v hv
  cases v with
  | true => exact both_true.mpr ((both_true.mp hv).imp (hx true) (hy true))
  | false => exact both_false.mpr ((both_false.mp hv).imp (hx false) (hy false))

/-- De Morgan's law, in which the failure of the left side is preferred on both sides. -/
theorem map_not_both (x y : Except EvalError Bool) :
    (both x y).map (!·) = either (x.map (!·)) (y.map (!·)) := by
  rcases x with _ | _ | _ <;> rcases y with _ | _ | _ <;> rfl

theorem map_not_map_not (x : Except EvalError Bool) : (x.map (!·)).map (!·) = x := by
  rcases x with _ | _ | _ <;> rfl

theorem map_not_either (x y : Except EvalError Bool) :
    (either x y).map (!·) = both (x.map (!·)) (y.map (!·)) := by
  rw [← map_not_map_not (both _ _), map_not_both, map_not_map_not, map_not_map_not]

theorem Refines.either (hx : Refines x x') (hy : Refines y y') :
    Refines (either x y) (either x' y') := by
  have h := (hx.map_not.both hy.map_not).map_not
  rwa [← map_not_either, ← map_not_either, map_not_map_not, map_not_map_not] at h

-- ---------------------------------------------------------------------------
-- Conditions
-- ---------------------------------------------------------------------------

theorem eval_not (e : Expr) :
    (Expr.not e).eval functions b = ((e.condition functions b).map (!·)).map .ofBool := by
  simp only [eval, condition]
  cases (e.eval functions b).bind Term.truth <;> rfl

theorem eval_and (l r : Expr) : (Expr.and l r).eval functions b =
    (both (l.condition functions b) (r.condition functions b)).map .ofBool := by
  simp only [eval, condition]
  cases both _ _ <;> rfl

theorem eval_or (l r : Expr) : (Expr.or l r).eval functions b =
    (either (l.condition functions b) (r.condition functions b)).map .ofBool := by
  simp only [eval, condition]
  cases either _ _ <;> rfl

theorem map_ofBool_truth (x : Except EvalError Bool) : (x.map .ofBool).bind Term.truth = x := by
  cases x with
  | ok v => exact Term.truth_ofBool v
  | error d => rfl

@[simp] theorem condition_not (e : Expr) :
    (Expr.not e).condition functions b = (e.condition functions b).map (!·) := by
  rw [condition, eval_not, map_ofBool_truth]

@[simp] theorem condition_and (l r : Expr) : (Expr.and l r).condition functions b =
    both (l.condition functions b) (r.condition functions b) := by
  rw [condition, eval_and, map_ofBool_truth]

@[simp] theorem condition_or (l r : Expr) : (Expr.or l r).condition functions b =
    either (l.condition functions b) (r.condition functions b) := by
  rw [condition, eval_or, map_ofBool_truth]

end Expr

-- ---------------------------------------------------------------------------
-- Formulas
-- ---------------------------------------------------------------------------

inductive Formula where
  | leaf (e : Expr)
  | not (f : Formula)
  | and (left right : Formula)
  | or (left right : Formula)

namespace Formula

variable {functions : FunctionRegistry} {b : Binding}

def toExpr : Formula → Expr
  | leaf e => e
  | not f => .not f.toExpr
  | and l r => .and l.toExpr r.toExpr
  | or l r => .or l.toExpr r.toExpr

def leaves : Formula → List Expr
  | leaf e => [e]
  | not f => f.leaves
  | and l r | or l r => l.leaves ++ r.leaves

/-- One formula is the other with a truth value in the place of some of its failing leaves, or of
all of them, and for each leaf a truth value of its own. -/
inductive Filled (functions : FunctionRegistry) (b : Binding) : Formula → Formula → Prop
  | kept (e : Expr) : Filled functions b (leaf e) (leaf e)
  | filled {e : Expr} {d : EvalError} (h : e.condition functions b = .error d) (v : Bool) :
      Filled functions b (leaf e) (leaf (.constant (.ofBool v)))
  | not {f g : Formula} : Filled functions b f g → Filled functions b (not f) (not g)
  | and {k l m n : Formula} : Filled functions b k m → Filled functions b l n →
      Filled functions b (and k l) (and m n)
  | or {k l m n : Formula} : Filled functions b k m → Filled functions b l n →
      Filled functions b (or k l) (or m n)

theorem Filled.refines {f g : Formula} (h : Filled functions b f g) :
    Expr.Refines (f.toExpr.condition functions b) (g.toExpr.condition functions b) := by
  induction h with
  | kept e => exact fun _ hv => hv
  | filled h v => exact h ▸ Expr.refines_error _ _
  | not _ ih => simpa only [toExpr, Expr.condition_not] using ih.map_not
  | and _ _ ihl ihr => simpa only [toExpr, Expr.condition_and] using ihl.both ihr
  | or _ _ ihl ihr => simpa only [toExpr, Expr.condition_or] using ihl.either ihr

theorem exists_leaf_of_error {d : EvalError} : ∀ f : Formula,
    f.toExpr.condition functions b = .error d → ∃ e ∈ f.leaves, e.condition functions b = .error d
  | leaf e, h => ⟨e, List.mem_singleton_self e, h⟩
  | not f, h => by
    rw [toExpr, Expr.condition_not, Except.map_error] at h
    exact exists_leaf_of_error f h
  | and l r, h => by
    rw [toExpr, Expr.condition_and] at h
    simp only [leaves, List.mem_append, or_and_right, exists_or]
    exact (Expr.both_error h).imp (exists_leaf_of_error l) (exists_leaf_of_error r)
  | or l r, h => by
    rw [toExpr, Expr.condition_or] at h
    simp only [leaves, List.mem_append, or_and_right, exists_or]
    exact (Expr.either_error h).imp (exists_leaf_of_error l) (exists_leaf_of_error r)

/-- Absorbed failures never decide a condition: a formula keeps its truth value whatever stands in
the place of its failing leaves, it fails only with the failure of a leaf, and De Morgan's laws
hold with the failures. -/
theorem condition_absorbs (functions : FunctionRegistry) (b : Binding) :
    (∀ (f g : Formula) (v : Bool), f.toExpr.condition functions b = .ok v →
      Filled functions b f g → g.toExpr.condition functions b = .ok v) ∧
    (∀ (f : Formula) (d : EvalError), f.toExpr.condition functions b = .error d →
      ∃ e ∈ f.leaves, e.condition functions b = .error d) ∧
    (∀ l r : Expr,
      (Expr.not (.and l r)).eval functions b = (Expr.or (.not l) (.not r)).eval functions b) ∧
    ∀ l r : Expr,
      (Expr.not (.or l r)).eval functions b = (Expr.and (.not l) (.not r)).eval functions b := by
  refine ⟨fun f g v hv h => h.refines v hv, fun f d => exists_leaf_of_error f, ?_, ?_⟩
  · intro l r
    simp only [Expr.eval_not, Expr.eval_or, Expr.condition_and, Expr.condition_not,
      Expr.map_not_both]
  · intro l r
    simp only [Expr.eval_not, Expr.eval_and, Expr.condition_or, Expr.condition_not,
      Expr.map_not_either]

/-- An unbound variable beside a side that is false, and beside one that is true. -/
theorem condition_absorbs_unbound :
    let unbound : Formula := leaf (.var ⟨"x"⟩)
    let truth (v : Bool) : Formula := leaf (.constant (.ofBool v))
    ((and unbound (truth false)).toExpr.condition .standard .empty = .ok false ∧
      Filled .standard .empty (and unbound (truth false)) (and (truth true) (truth false)) ∧
      (and (truth true) (truth false)).toExpr.condition .standard .empty = .ok false) ∧
    (and unbound (truth true)).toExpr.condition .standard .empty =
      .error (.unboundVariable ⟨"x"⟩) ∧
    ∃ e ∈ (and unbound (truth true)).leaves,
      e.condition .standard .empty = .error (.unboundVariable ⟨"x"⟩) := by
  intro unbound truth
  have hdecided : (and unbound (truth false)).toExpr.condition .standard .empty = .ok false := rfl
  have hfails : (and unbound (truth true)).toExpr.condition .standard .empty =
      .error (.unboundVariable ⟨"x"⟩) := rfl
  have hfill : Filled .standard .empty (and unbound (truth false))
      (and (truth true) (truth false)) := .and (.filled rfl true) (.kept _)
  obtain ⟨hkeeps, hleaf, -, -⟩ := condition_absorbs .standard .empty
  exact ⟨⟨hdecided, hfill, hkeeps _ _ _ hdecided hfill⟩, hfails, hleaf _ _ hfails⟩

end Formula

end TripleRules
