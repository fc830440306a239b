import TripleRules.Expr.Eval
import TripleRules.Expr.Standard
import TripleRules.Proofs.Binding
import TripleRules.Proofs.Outcome

/-!
# Values are concrete

Where all bound terms are concrete and functions keep terms concrete, so does
every expression (`Expr.isConcrete_of_eval`). The standard functions do
(`FunctionRegistry.standardWith_keepsConcrete`): whatever they are given, they return
literals and identifiers.
-/

namespace TripleRules

/-- Concrete arguments, in a number that is accepted, have concrete results. -/
def Function.KeepsConcrete (f : Function) : Prop :=
  ∀ args, f.arity.accepts args.length = true → (∀ t ∈ args, t.isConcrete = true) →
    ∀ t, f.apply args = .ok t → t.isConcrete = true

def FunctionRegistry.KeepsConcrete (r : FunctionRegistry) : Prop :=
  ∀ e ∈ r.entries, e.2.KeepsConcrete

-- ---------------------------------------------------------------------------
-- Expressions
-- ---------------------------------------------------------------------------

theorem FunctionRegistry.KeepsConcrete.call {r : FunctionRegistry} (hr : r.KeepsConcrete)
    {name : String} {args : List Term} {t : Term} (hargs : ∀ u ∈ args, u.isConcrete = true)
    (h : r.call name args = .ok t) : t.isConcrete = true := by
  simp only [FunctionRegistry.call] at h
  split at h
  · cases h
  · next f hf =>
    split at h
    · next haccepts =>
      obtain ⟨before, after, hentries, -⟩ := List.lookup_eq_some_iff.mp hf
      have hmem : (Text.lower name, f) ∈ r.entries := by simp [hentries]
      exact hr _ hmem args haccepts hargs t h
    · cases h

theorem Numeric.isConcrete_toTerm (n : Numeric) : n.toTerm.isConcrete = true := by
  cases n <;> rfl

theorem Term.isConcrete_of_arithmetic {op : ArithOp} {l r t : Term}
    (h : Term.arithmetic op l r = .ok t) : t.isConcrete = true := by
  simp only [Term.arithmetic] at h
  split at h
  · next a b _ _ =>
    obtain ⟨n, -, rfl⟩ := Except.map_ok.mp h
    exact n.isConcrete_toTerm
  · cases h

namespace Expr

variable {functions : FunctionRegistry} {b : Binding}

theorem isConcrete_of_read (hb : b.Forall fun t => t.isConcrete = true) {v : Variable} {t : Term}
    (h : read b v = .ok t) : t.isConcrete = true := by
  simp only [read] at h
  split at h
  · next u hu => exact Except.ok.inj h ▸ hb v u hu
  · cases h

mutual

theorem isConcrete_of_eval (hf : functions.KeepsConcrete)
    (hb : b.Forall fun t => t.isConcrete = true) :
    ∀ (e : Expr) {t : Term}, e.eval functions b = .ok t → t.isConcrete = true
  | .constant (.variable v), t, h => isConcrete_of_read hb h
  | .constant (.iri _), t, h => Except.ok.inj h ▸ rfl
  | .constant (.literal _), t, h => Except.ok.inj h ▸ rfl
  | .constant (.blank _), t, h => Except.ok.inj h ▸ rfl
  | .var v, t, h => isConcrete_of_read hb h
  | .not e, t, h => by
    simp only [eval, Except.bind_ok, Except.pure_ok] at h
    obtain ⟨_, -, rfl⟩ := h
    rfl
  | .and l r, t, h => by
    simp only [eval, Except.bind_ok, Except.pure_ok] at h
    obtain ⟨_, -, rfl⟩ := h
    rfl
  | .or l r, t, h => by
    simp only [eval, Except.bind_ok, Except.pure_ok] at h
    obtain ⟨_, -, rfl⟩ := h
    rfl
  | .compare op l r, t, h => by
    simp only [eval, Except.bind_ok, Except.pure_ok] at h
    obtain ⟨_, -, _, -, _, -, rfl⟩ := h
    rfl
  | .arith op l r, t, h => by
    simp only [eval, Except.bind_ok] at h
    obtain ⟨_, -, _, -, h⟩ := h
    exact Term.isConcrete_of_arithmetic h
  | .call name args, t, h => by
    simp only [eval, Except.bind_ok] at h
    obtain ⟨values, hvalues, h⟩ := h
    exact hf.call (isConcrete_of_evalList hf hb args hvalues) h

theorem isConcrete_of_evalList (hf : functions.KeepsConcrete)
    (hb : b.Forall fun t => t.isConcrete = true) :
    ∀ (args : List Expr) {ts : List Term}, evalList functions b args = .ok ts →
      ∀ t ∈ ts, t.isConcrete = true
  | [], ts, h => by
    obtain rfl := Except.ok.inj h
    simp
  | e :: rest, ts, h => by
    simp only [evalList, Except.bind_ok, Except.pure_ok] at h
    obtain ⟨value, hvalue, values, hvalues, rfl⟩ := h
    intro t ht
    rcases List.mem_cons.mp ht with rfl | ht
    · exact isConcrete_of_eval hf hb e hvalue
    · exact isConcrete_of_evalList hf hb rest hvalues t ht

end

end Expr

-- ---------------------------------------------------------------------------
-- The standard functions
-- ---------------------------------------------------------------------------

namespace Function

variable {name : String}

theorem unary_keepsConcrete {f : Term → Except EvalError Term}
    (h : ∀ s t, f s = .ok t → t.isConcrete = true) : (unary name f).KeepsConcrete := by
  intro args _ _ t ht
  simp only [unary] at ht
  split at ht
  · exact h _ t ht
  · cases ht

theorem binary_keepsConcrete {f : Term → Term → Except EvalError Term}
    (h : ∀ r s t, f r s = .ok t → t.isConcrete = true) : (binary name f).KeepsConcrete := by
  intro args _ _ t ht
  simp only [binary] at ht
  split at ht
  · exact h _ _ t ht
  · cases ht

theorem isConcrete_inSameLanguage (l : Literal) (value : String) :
    (inSameLanguage l value).isConcrete = true := by
  simp only [inSameLanguage]
  split
  · rfl
  · rfl

theorem str_keepsConcrete : str.KeepsConcrete := by
  refine unary_keepsConcrete fun s t h => ?_
  split at h
  · exact Except.ok.inj h ▸ rfl
  · exact Except.ok.inj h ▸ rfl
  · cases h

theorem strlen_keepsConcrete : strlen.KeepsConcrete := by
  refine unary_keepsConcrete fun s t h => ?_
  simp only [Except.bind_ok, Except.pure_ok] at h
  obtain ⟨_, -, rfl⟩ := h
  rfl

theorem concat_keepsConcrete : concat.KeepsConcrete := by
  intro args _ _ t h
  simp only [concat, Except.bind_ok, Except.pure_ok] at h
  obtain ⟨_, -, rfl⟩ := h
  rfl

theorem ucase_keepsConcrete : ucase.KeepsConcrete := by
  refine unary_keepsConcrete fun s t h => ?_
  simp only [Except.bind_ok, Except.pure_ok] at h
  obtain ⟨l, -, rfl⟩ := h
  exact isConcrete_inSameLanguage l _

theorem lcase_keepsConcrete : lcase.KeepsConcrete := by
  refine unary_keepsConcrete fun s t h => ?_
  simp only [Except.bind_ok, Except.pure_ok] at h
  obtain ⟨l, -, rfl⟩ := h
  exact isConcrete_inSameLanguage l _

theorem contains_keepsConcrete : contains.KeepsConcrete := by
  refine binary_keepsConcrete fun r s t h => ?_
  simp only [Except.bind_ok, Except.pure_ok] at h
  obtain ⟨_, -, _, -, rfl⟩ := h
  rfl

theorem strstarts_keepsConcrete : strstarts.KeepsConcrete := by
  refine binary_keepsConcrete fun r s t h => ?_
  simp only [Except.bind_ok, Except.pure_ok] at h
  obtain ⟨_, -, _, -, rfl⟩ := h
  rfl

theorem regex_keepsConcrete {engine : Regex.Engine} : (regex engine).KeepsConcrete := by
  intro args _ _ t h
  simp only [regex] at h
  split at h
  · simp only [Except.bind_ok] at h
    obtain ⟨_, -, _, -, h⟩ := h
    -- with flags or without, the result is a truth value
    split at h
    all_goals
      simp only [Except.bind_ok] at h
      obtain ⟨_, -, _, -, h⟩ := h
      split at h
      · exact Except.ok.inj h ▸ rfl
      · cases h
  · cases h

theorem localname_keepsConcrete : localname.KeepsConcrete := by
  refine unary_keepsConcrete fun s t h => ?_
  split at h
  · exact Except.ok.inj h ▸ rfl
  · cases h

theorem iri_keepsConcrete : iri.KeepsConcrete := by
  refine unary_keepsConcrete fun s t h => ?_
  split at h
  · exact Except.ok.inj h ▸ rfl
  · split at h
    · split at h
      · cases h
      · exact Except.ok.inj h ▸ rfl
    · cases h
  · cases h

theorem abs_keepsConcrete : abs.KeepsConcrete := by
  refine unary_keepsConcrete fun s t h => ?_
  split at h
  · obtain ⟨n, -, rfl⟩ := Except.map_ok.mp h
    exact Numeric.isConcrete_toTerm n
  · cases h

end Function

namespace FunctionRegistry

variable {r : FunctionRegistry} {name : String} {f : Function}

theorem mem_put {entries : List (String × Function)} {e : String × Function}
    (h : e ∈ put name f entries) : e.2 = f ∨ e ∈ entries := by
  induction entries with
  | nil => simp_all [put]
  | cons a rest ih =>
    simp only [put] at h
    split at h
    · rcases List.mem_cons.mp h with rfl | h
      · exact .inl rfl
      · exact .inr (List.mem_cons_of_mem _ h)
    · rcases List.mem_cons.mp h with rfl | h
      · exact .inr List.mem_cons_self
      · exact (ih h).imp_right (List.mem_cons_of_mem _)

theorem KeepsConcrete.register (hr : r.KeepsConcrete) (hf : f.KeepsConcrete) :
    (r.register name f).KeepsConcrete := by
  intro e he
  rcases mem_put he with heq | he
  · exact heq ▸ hf
  · exact hr e he

theorem foldl_register {motive : FunctionRegistry → Prop} {P : Function → Prop}
    (hstep : ∀ r name f, motive r → P f → motive (r.register name f)) (hr : motive r)
    {functions : List (String × Function)} (h : ∀ e ∈ functions, P e.2) :
    motive (functions.foldl (fun r e => r.register e.1 e.2) r) := by
  induction functions generalizing r with
  | nil => exact hr
  | cons e rest ih =>
    rw [List.forall_mem_cons] at h
    exact ih (hstep r e.1 e.2 hr h.1) h.2

theorem standardWith_keepsConcrete (engine : Regex.Engine) :
    (standardWith engine).KeepsConcrete := by
  have hbool {name : String} {f : Term → Bool} :
      (Function.unary name fun t => .ok (.ofBool (f t))).KeepsConcrete :=
    Function.unary_keepsConcrete fun s t h => Except.ok.inj h ▸ rfl
  refine foldl_register (motive := KeepsConcrete) (r := empty)
    (fun _ _ _ => KeepsConcrete.register) nofun ?_
  simp only [List.forall_mem_cons]
  exact ⟨Function.str_keepsConcrete, Function.strlen_keepsConcrete, Function.concat_keepsConcrete,
    Function.ucase_keepsConcrete, Function.lcase_keepsConcrete, Function.contains_keepsConcrete,
    Function.strstarts_keepsConcrete, Function.regex_keepsConcrete, hbool, hbool, hbool,
    Function.localname_keepsConcrete, Function.iri_keepsConcrete, Function.abs_keepsConcrete,
    nofun⟩

theorem standard_keepsConcrete : standard.KeepsConcrete := standardWith_keepsConcrete _

end FunctionRegistry

end TripleRules
