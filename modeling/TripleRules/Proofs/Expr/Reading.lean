import TripleRules.Proofs.Expr.Concrete
import TripleRules.Proofs.Extension

/-!
# What expressions read

The outcome of an expression depends only on the terms of its variables (`Expr.eval_congr`). Unless
functions themselves speak of unbound variables, which the standard ones never do
(`FunctionRegistry.standardWith_knowsArguments`), a failure for an unbound variable names one that
the expression reads (`Expr.unbound_of_eval`). So it is enough for a value to be concrete that the
terms of these variables are (`Expr.isConcrete_of_vars`), whatever else is bound.
-/

namespace TripleRules

def Except.NotUnbound {α : Type} (x : Except EvalError α) : Prop :=
  ∀ v, x ≠ .error (.unboundVariable v)

/-- Arguments in a number that is accepted never make a function fail for an unbound variable. -/
def Function.KnowsArguments (f : Function) : Prop :=
  ∀ args, f.arity.accepts args.length = true → Except.NotUnbound (f.apply args)

def FunctionRegistry.KnowsArguments (r : FunctionRegistry) : Prop :=
  ∀ e ∈ r.entries, e.2.KnowsArguments

-- ---------------------------------------------------------------------------
-- Outcomes
-- ---------------------------------------------------------------------------

namespace Except

variable {α β σ : Type} {x : Except EvalError α}

theorem notUnbound_ok (a : α) : NotUnbound (.ok a : Except EvalError α) := nofun

theorem NotUnbound.bind {f : α → Except EvalError β} (hx : NotUnbound x)
    (hf : ∀ a, NotUnbound (f a)) : NotUnbound (x >>= f) := by
  intro v h
  rcases bind_error.mp h with h | ⟨a, -, h⟩
  · exact hx v h
  · exact hf a v h

theorem NotUnbound.map (hx : NotUnbound x) (f : α → β) : NotUnbound (x.map f) := by
  intro v h
  cases x with
  | ok a => cases h
  | error d => exact hx v (congrArg _ (Except.error.inj h))

theorem notUnbound_mapM {f : α → Except EvalError β} (hf : ∀ a, NotUnbound (f a)) :
    ∀ l : List α, NotUnbound (l.mapM f)
  | [] => notUnbound_ok []
  | a :: rest => by
    rw [List.mapM_cons]
    exact (hf a).bind fun b => (notUnbound_mapM hf rest).bind fun _ => notUnbound_ok _

theorem notUnbound_foldlM {f : σ → α → Except EvalError σ} (hf : ∀ s a, NotUnbound (f s a))
    (l : List α) (s : σ) : NotUnbound (l.foldlM f s) := by
  intro v h
  obtain ⟨a, -, s, ha⟩ := foldlM_error h
  exact hf s a v ha

end Except

open TripleRules.Except (NotUnbound notUnbound_ok)

namespace Numeric

theorem notUnbound_ofChecked (i : Int) : NotUnbound (ofChecked i) := by
  intro v h
  simp only [ofChecked] at h
  split at h
  · cases h
  · cases h

theorem notUnbound_quotient (x y : Float) : NotUnbound (quotient x y) := by
  intro v h
  simp only [quotient] at h
  split at h
  · cases h
  · cases h

theorem notUnbound_arithmetic (op : ArithOp) (a b : Numeric) : NotUnbound (arithmetic op a b) := by
  cases a <;> cases b <;> cases op
  all_goals
    first
    | exact notUnbound_ok _
    | exact notUnbound_ofChecked _
    | exact notUnbound_quotient _ _

theorem notUnbound_abs (n : Numeric) : NotUnbound n.abs := by
  cases n with
  | integer i => exact notUnbound_ofChecked i.natAbs
  | decimal x => exact notUnbound_ok _

end Numeric

namespace Term

theorem notUnbound_truth (t : Term) : NotUnbound t.truth := by
  intro v h
  simp only [truth] at h
  split at h
  · split at h
    · cases h
    · cases h
    · split at h
      · cases h
      · cases h
  · cases h

theorem notUnbound_compareBy (op : CompareOp) (l r : Term) : NotUnbound (compareBy op l r) := by
  intro v h
  simp only [compareBy] at h
  split at h
  · split at h
    · cases h
    · cases h
  · split at h
    · cases h
    · split at h
      · cases h
      · cases h
      · cases h

theorem notUnbound_arithmetic (op : ArithOp) (l r : Term) : NotUnbound (arithmetic op l r) := by
  simp only [arithmetic]
  split
  · exact (Numeric.notUnbound_arithmetic op _ _).map _
  · rintro _ ⟨⟩

end Term

-- ---------------------------------------------------------------------------
-- Expressions
-- ---------------------------------------------------------------------------

theorem FunctionRegistry.KnowsArguments.call {r : FunctionRegistry} (hr : r.KnowsArguments)
    (name : String) (args : List Term) : NotUnbound (r.call name args) := by
  intro v h
  simp only [FunctionRegistry.call] at h
  split at h
  · cases h
  · next f hf =>
    split at h
    · next haccepts =>
      obtain ⟨before, after, hentries, -⟩ := List.lookup_eq_some_iff.mp hf
      have hmem : (Text.lower name, f) ∈ r.entries := by simp [hentries]
      exact hr _ hmem args haccepts v h
    · cases h

namespace Expr

variable {functions : FunctionRegistry} {b c : Binding} {v : Variable}

mutual

theorem eval_congr : ∀ e : Expr, (∀ v ∈ e.vars, b.get? v = c.get? v) →
    e.eval functions b = e.eval functions c
  | .constant (.variable v), h => by simp only [eval, read, h v List.mem_cons_self]
  | .constant (.iri _), _ | .constant (.literal _), _ | .constant (.blank _), _ => rfl
  | .var v, h => by simp only [eval, read, h v List.mem_cons_self]
  | .not e, h => by simp only [eval, eval_congr e h]
  | .and l r, h | .or l r, h | .compare _ l r, h | .arith _ l r, h => by
    have hl := eval_congr l fun v hv => h v (List.mem_append_left _ hv)
    have hr := eval_congr r fun v hv => h v (List.mem_append_right _ hv)
    simp only [eval, hl, hr]
  | .call _ args, h => by simp only [eval, evalList_congr args h]

theorem evalList_congr : ∀ es : List Expr, (∀ v ∈ varsOfList es, b.get? v = c.get? v) →
    evalList functions b es = evalList functions c es
  | [], _ => rfl
  | e :: rest, h => by
    have he := eval_congr e fun v hv => h v (List.mem_append_left _ hv)
    have hrest := evalList_congr rest fun v hv => h v (List.mem_append_right _ hv)
    simp only [evalList, he, hrest]

end

theorem condition_congr {e : Expr} (h : ∀ v ∈ e.vars, b.get? v = c.get? v) :
    e.condition functions b = e.condition functions c := by
  rw [condition, condition, eval_congr e h]

theorem get?_of_read (h : read b w = .error (.unboundVariable v)) : w = v ∧ b.get? w = none := by
  simp only [read] at h
  split at h
  · cases h
  · next hnone => exact ⟨EvalError.unboundVariable.inj (Except.error.inj h), hnone⟩

theorem eval_of_truth {x : Except EvalError Term}
    (h : x.bind Term.truth = .error (.unboundVariable v)) : x = .error (.unboundVariable v) := by
  rcases Except.bind_error.mp h with h | ⟨t, -, h⟩
  · exact h
  · exact absurd h (t.notUnbound_truth v)

theorem both_error {x y : Except EvalError Bool} {d : EvalError} (h : both x y = .error d) :
    x = .error d ∨ y = .error d := by
  rcases x with d' | _ | _ <;> rcases y with d'' | _ | _ <;> simp_all [both]

theorem either_error {x y : Except EvalError Bool} {d : EvalError} (h : either x y = .error d) :
    x = .error d ∨ y = .error d := by
  rcases x with d' | _ | _ <;> rcases y with d'' | _ | _ <;> simp_all [either]

mutual

theorem unbound_of_eval (hf : functions.KnowsArguments) :
    ∀ (e : Expr) {v : Variable}, e.eval functions b = .error (.unboundVariable v) →
      v ∈ e.vars ∧ b.get? v = none
  | .constant (.variable w), v, h => by
    obtain ⟨rfl, hnone⟩ := get?_of_read h
    exact ⟨List.mem_cons_self, hnone⟩
  | .constant (.iri _), _, h | .constant (.literal _), _, h | .constant (.blank _), _, h => nomatch h
  | .var w, v, h => by
    obtain ⟨rfl, hnone⟩ := get?_of_read h
    exact ⟨List.mem_cons_self, hnone⟩
  | .not e, v, h => by
    simp only [eval, Except.bind_error, Except.pure_error, and_false, exists_false, or_false] at h
    exact unbound_of_eval hf e (eval_of_truth h)
  | .and l r, v, h => by
    simp only [eval, Except.bind_error, Except.pure_error, and_false, exists_false, or_false] at h
    rcases both_error h with h | h
    · exact (unbound_of_eval hf l (eval_of_truth h)).imp_left (List.mem_append_left _)
    · exact (unbound_of_eval hf r (eval_of_truth h)).imp_left (List.mem_append_right _)
  | .or l r, v, h => by
    simp only [eval, Except.bind_error, Except.pure_error, and_false, exists_false, or_false] at h
    rcases either_error h with h | h
    · exact (unbound_of_eval hf l (eval_of_truth h)).imp_left (List.mem_append_left _)
    · exact (unbound_of_eval hf r (eval_of_truth h)).imp_left (List.mem_append_right _)
  | .compare op l r, v, h => by
    simp only [eval, Except.bind_error, Except.pure_error, and_false, exists_false, or_false] at h
    rcases h with h | ⟨s, -, h | ⟨t, -, h⟩⟩
    · exact (unbound_of_eval hf l h).imp_left (List.mem_append_left _)
    · exact (unbound_of_eval hf r h).imp_left (List.mem_append_right _)
    · exact absurd h (Term.notUnbound_compareBy op s t v)
  | .arith op l r, v, h => by
    simp only [eval, Except.bind_error] at h
    rcases h with h | ⟨s, -, h | ⟨t, -, h⟩⟩
    · exact (unbound_of_eval hf l h).imp_left (List.mem_append_left _)
    · exact (unbound_of_eval hf r h).imp_left (List.mem_append_right _)
    · exact absurd h (Term.notUnbound_arithmetic op s t v)
  | .call name args, v, h => by
    simp only [eval, Except.bind_error] at h
    rcases h with h | ⟨values, -, h⟩
    · exact unbound_of_evalList hf args h
    · exact absurd h (hf.call name values v)

theorem unbound_of_evalList (hf : functions.KnowsArguments) :
    ∀ (es : List Expr) {v : Variable}, evalList functions b es = .error (.unboundVariable v) →
      v ∈ varsOfList es ∧ b.get? v = none
  | [], _, h => nomatch h
  | e :: rest, v, h => by
    simp only [evalList, Except.bind_error, Except.pure_error, and_false, exists_false,
      or_false] at h
    rcases h with h | ⟨t, -, h⟩
    · exact (unbound_of_eval hf e h).imp_left (List.mem_append_left _)
    · exact (unbound_of_evalList hf rest h).imp_left (List.mem_append_right _)

end

end Expr

-- ---------------------------------------------------------------------------
-- The standard functions
-- ---------------------------------------------------------------------------

namespace Function

variable {name : String}

theorem unary_knowsArguments {f : Term → Except EvalError Term} (h : ∀ t, NotUnbound (f t)) :
    (unary name f).KnowsArguments := by
  intro args _
  simp only [unary]
  split
  · exact h _
  · rintro _ ⟨⟩

theorem binary_knowsArguments {f : Term → Term → Except EvalError Term}
    (h : ∀ s t, NotUnbound (f s t)) : (binary name f).KnowsArguments := by
  intro args _
  simp only [binary]
  split
  · exact h _ _
  · rintro _ ⟨⟩

theorem notUnbound_textArgument (name : String) (t : Term) : NotUnbound (textArgument name t) := by
  intro v h
  simp only [textArgument] at h
  split at h
  · split at h
    · cases h
    · cases h
  · cases h

theorem str_knowsArguments : str.KnowsArguments := by
  refine unary_knowsArguments fun t => ?_
  split
  · exact notUnbound_ok _
  · exact notUnbound_ok _
  · rintro _ ⟨⟩

theorem strlen_knowsArguments : strlen.KnowsArguments :=
  unary_knowsArguments fun t =>
    (notUnbound_textArgument "strlen" t).bind fun _ => notUnbound_ok _

theorem concat_knowsArguments : concat.KnowsArguments := fun args _ =>
  (Except.notUnbound_mapM (fun t =>
    (notUnbound_textArgument "concat" t).bind fun _ => notUnbound_ok _) args).bind fun _ =>
      notUnbound_ok _

theorem ucase_knowsArguments : ucase.KnowsArguments :=
  unary_knowsArguments fun t =>
    (notUnbound_textArgument "ucase" t).bind fun _ => notUnbound_ok _

theorem lcase_knowsArguments : lcase.KnowsArguments :=
  unary_knowsArguments fun t =>
    (notUnbound_textArgument "lcase" t).bind fun _ => notUnbound_ok _

theorem contains_knowsArguments : contains.KnowsArguments :=
  binary_knowsArguments fun s t =>
    (notUnbound_textArgument "contains" s).bind fun _ =>
      (notUnbound_textArgument "contains" t).bind fun _ => notUnbound_ok _

theorem strstarts_knowsArguments : strstarts.KnowsArguments :=
  binary_knowsArguments fun s t =>
    (notUnbound_textArgument "strstarts" s).bind fun _ =>
      (notUnbound_textArgument "strstarts" t).bind fun _ => notUnbound_ok _

theorem notUnbound_addFlag (flags : Regex.Flags) (letter : Char) :
    NotUnbound (addFlag flags letter) := by
  simp only [addFlag]
  split
  · exact notUnbound_ok _
  · exact notUnbound_ok _
  · exact notUnbound_ok _
  · exact notUnbound_ok _
  · rintro _ ⟨⟩

theorem regex_knowsArguments {engine : Regex.Engine} : (regex engine).KnowsArguments := by
  intro args _
  simp only [regex]
  split
  · refine (notUnbound_textArgument "regex" _).bind fun text => ?_
    refine (notUnbound_textArgument "regex" _).bind fun pattern => ?_
    -- with flags or without, a pattern is read
    split
    all_goals
      refine NotUnbound.bind ?_ fun letters =>
        (Except.notUnbound_foldlM notUnbound_addFlag letters _).bind fun flags => ?_
    case h_1.refine_2 | h_2.refine_2 =>
      split
      · exact notUnbound_ok _
      · rintro _ ⟨⟩
    · exact notUnbound_ok _
    · exact (notUnbound_textArgument "regex" _).map _
  · rintro _ ⟨⟩

theorem localname_knowsArguments : localname.KnowsArguments := by
  refine unary_knowsArguments fun t => ?_
  split
  · exact notUnbound_ok _
  · rintro _ ⟨⟩

theorem iri_knowsArguments : iri.KnowsArguments := by
  refine unary_knowsArguments fun t => ?_
  split
  · exact notUnbound_ok _
  · split
    · split
      · rintro _ ⟨⟩
      · exact notUnbound_ok _
    · rintro _ ⟨⟩
  · rintro _ ⟨⟩

theorem abs_knowsArguments : abs.KnowsArguments := by
  refine unary_knowsArguments fun t => ?_
  split
  · next n _ => exact (Numeric.notUnbound_abs n).map _
  · rintro _ ⟨⟩

end Function

namespace FunctionRegistry

variable {r : FunctionRegistry} {name : String} {f : Function}

theorem KnowsArguments.register (hr : r.KnowsArguments) (hf : f.KnowsArguments) :
    (r.register name f).KnowsArguments := by
  intro e he
  rcases mem_put he with heq | he
  · exact heq ▸ hf
  · exact hr e he

theorem standardWith_knowsArguments (engine : Regex.Engine) :
    (standardWith engine).KnowsArguments := by
  have hbool {name : String} {f : Term → Bool} :
      (Function.unary name fun t => .ok (.ofBool (f t))).KnowsArguments :=
    Function.unary_knowsArguments fun t => notUnbound_ok _
  refine foldl_register (motive := KnowsArguments) (r := empty)
    (fun _ _ _ => KnowsArguments.register) nofun ?_
  simp only [List.forall_mem_cons]
  exact ⟨Function.str_knowsArguments, Function.strlen_knowsArguments,
    Function.concat_knowsArguments, Function.ucase_knowsArguments, Function.lcase_knowsArguments,
    Function.contains_knowsArguments, Function.strstarts_knowsArguments,
    Function.regex_knowsArguments, hbool, hbool, hbool, Function.localname_knowsArguments,
    Function.iri_knowsArguments, Function.abs_knowsArguments, nofun⟩

theorem standard_knowsArguments : standard.KnowsArguments := standardWith_knowsArguments _

end FunctionRegistry

-- ---------------------------------------------------------------------------
-- Variables as all that counts
-- ---------------------------------------------------------------------------

namespace Expr

variable {functions : FunctionRegistry} {b : Binding}

theorem isConcrete_of_vars (hf : functions.KeepsConcrete) {e : Expr} {t : Term}
    (hb : ∀ v ∈ e.vars, ∃ u, b.get? v = some u ∧ u.isConcrete = true)
    (h : e.eval functions b = .ok t) : t.isConcrete = true := by
  -- other variables may have any terms, so the binding is cut down to those that are read
  have hrestrict : ∀ v ∈ e.vars, b.get? v = (b.restrict e.vars).get? v := fun v hv => by
    rw [Binding.get?_restrict, if_pos hv]
  rw [eval_congr e hrestrict] at h
  refine isConcrete_of_eval hf (fun v u hu => ?_) e h
  rw [Binding.get?_restrict, Option.ite_none_right_eq_some] at hu
  obtain ⟨hv, hu⟩ := hu
  obtain ⟨w, hw, hconcrete⟩ := hb v hv
  rwa [Option.some.inj (hu.symm.trans hw)]

/-- The variables of an expression are all that it reads. Bindings that agree on them give it the
same outcome; if it fails for an unbound variable, that is one of them without a term; and where
they have concrete terms and functions keep terms concrete, its value is concrete. -/
theorem eval_reads_vars (hf : functions.KnowsArguments) (e : Expr) :
    (∀ b c : Binding, (∀ v ∈ e.vars, b.get? v = c.get? v) →
      e.eval functions b = e.eval functions c) ∧
    (∀ (b : Binding) (v : Variable), e.eval functions b = .error (.unboundVariable v) →
      v ∈ e.vars ∧ b.get? v = none) ∧
    (functions.KeepsConcrete → ∀ b : Binding,
      (∀ v ∈ e.vars, ∃ u, b.get? v = some u ∧ u.isConcrete = true) →
        ∀ t, e.eval functions b = .ok t → t.isConcrete = true) :=
  ⟨fun _ _ h => eval_congr e h, fun _ _ => unbound_of_eval hf e,
    fun hkeeps _ hb _ => isConcrete_of_vars hkeeps hb⟩

/-- A variable in the place of a constant is read too: without a term for it the expression fails,
and with one it has a concrete value, even beside a variable whose term is itself a variable. -/
theorem eval_reads_vars_concat :
    let e : Expr := .call "concat" [.constant (.variable ⟨"x"⟩), .call "STR" [.var ⟨"y"⟩]]
    let unbound := Binding.empty.insert ⟨"y"⟩ (.ofInt 1)
    let bound := unbound.insert ⟨"x"⟩ (.ofText "a")
    let beside := bound.insert ⟨"z"⟩ (.variable ⟨"z"⟩)
    FunctionRegistry.standard.KnowsArguments ∧ FunctionRegistry.standard.KeepsConcrete ∧
      e.vars = [⟨"x"⟩, ⟨"y"⟩] ∧ bound ≠ beside ∧
      e.eval .standard bound = e.eval .standard beside ∧
      (e.eval .standard unbound = .error (.unboundVariable ⟨"x"⟩) ∧ ⟨"x"⟩ ∈ e.vars ∧
        unbound.get? ⟨"x"⟩ = none) ∧
      e.eval .standard beside = .ok (.ofText "a1") ∧ (Term.ofText "a1").isConcrete = true := by
  intro e unbound bound beside
  obtain ⟨hsame, hunbound, hconcrete⟩ := eval_reads_vars FunctionRegistry.standard_knowsArguments e
  have hagree : ∀ v ∈ e.vars, bound.get? v = beside.get? v := by decide
  have hterms : ∀ v ∈ e.vars, ∃ u, beside.get? v = some u ∧ u.isConcrete = true := by
    intro v hv
    rcases List.mem_pair.mp hv with rfl | rfl
    · exact ⟨.ofText "a", by decide, rfl⟩
    · exact ⟨.ofInt 1, by decide, rfl⟩
  have hfails : e.eval .standard unbound = .error (.unboundVariable ⟨"x"⟩) := by decide +kernel
  have hvalue : e.eval .standard beside = .ok (.ofText "a1") := by decide +kernel
  exact ⟨FunctionRegistry.standard_knowsArguments, FunctionRegistry.standard_keepsConcrete, rfl,
    by decide, hsame _ _ hagree, ⟨hfails, hunbound _ _ hfails⟩, hvalue,
    hconcrete FunctionRegistry.standard_keepsConcrete _ hterms _ hvalue⟩

end Expr

end TripleRules
