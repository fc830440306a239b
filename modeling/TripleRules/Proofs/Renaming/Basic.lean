import Mathlib.Data.Set.Function
import TripleRules.Dependency.Basic
import TripleRules.Proofs.Scope

/-!
# Names of variables

Rename the variables of a rule, different ones differently. The renamed rule is
well-formed exactly if the rule was (`Scope.checkRule_rename`), its patterns overlap the
same templates (`Dependency.overlaps_rename`), and its expressions have the same values
where the renamed variables are bound to the same terms (`Expr.eval_rename`).
-/

namespace TripleRules

variable {ρ σ : Variable → Variable} {V : Set Variable}

-- ---------------------------------------------------------------------------
-- Terms and triples
-- ---------------------------------------------------------------------------

def Term.rename (ρ : Variable → Variable) : Term → Term
  | .variable v => .variable (ρ v)
  | t => t

def Triple.rename (ρ : Variable → Variable) (t : Triple) : Triple := t.map (Term.rename ρ)

namespace Term

variable {t : Term}

theorem isVariable_rename : (t.rename ρ).isVariable = t.isVariable := by
  cases t <;> rfl

theorem slot_rename : (t.rename ρ).slot = t.slot := by
  cases t <;> rfl

theorem toVariable?_rename : (t.rename ρ).toVariable? = t.toVariable?.map ρ := by
  cases t <;> rfl

theorem rename_of_isConcrete (h : t.isConcrete = true) : t.rename ρ = t := by
  rcases t with i | l | label | v
  · rfl
  · rfl
  · rfl
  · cases h

end Term

namespace Triple

variable {t : Triple}

theorem slots_rename : (t.rename ρ).slots = t.slots := by
  simp only [rename, map, slots, Term.slot_rename]

theorem isConcrete_rename : (t.rename ρ).isConcrete = t.isConcrete := by
  simp only [rename, map, isConcrete, hasVariables, Term.isVariable_rename]

theorem rename_of_isConcrete (h : t.isConcrete = true) : t.rename ρ = t := by
  have hterms := isConcrete_iff.mp h
  simp only [terms, List.mem_cons, List.not_mem_nil, or_false, forall_eq_or_imp, forall_eq] at hterms
  simp only [rename, map, Term.rename_of_isConcrete hterms.1, Term.rename_of_isConcrete hterms.2.1,
    Term.rename_of_isConcrete hterms.2.2]

theorem vars_rename : (t.rename ρ).vars = t.vars.map ρ := by
  have hterms : (t.rename ρ).terms = t.terms.map (Term.rename ρ) := rfl
  rw [vars, vars, hterms, List.filterMap_map, List.map_filterMap]
  exact List.filterMap_congr fun u _ => Term.toVariable?_rename

end Triple

-- ---------------------------------------------------------------------------
-- Expressions
-- ---------------------------------------------------------------------------

namespace Expr

mutual

/-- The expression under other names for variables, also those that stand as constants. -/
def rename (ρ : Variable → Variable) : Expr → Expr
  | .constant t => .constant (t.rename ρ)
  | .var v => .var (ρ v)
  | .not e => .not (e.rename ρ)
  | .and l r => .and (l.rename ρ) (r.rename ρ)
  | .or l r => .or (l.rename ρ) (r.rename ρ)
  | .compare op l r => .compare op (l.rename ρ) (r.rename ρ)
  | .arith op l r => .arith op (l.rename ρ) (r.rename ρ)
  | .call function args => .call function (renameList ρ args)

def renameList (ρ : Variable → Variable) : List Expr → List Expr
  | [] => []
  | e :: rest => e.rename ρ :: renameList ρ rest

end

mutual

theorem vars_rename : ∀ e : Expr, (e.rename ρ).vars = e.vars.map ρ
  | .constant (.iri _) | .constant (.literal _) | .constant (.blank _) | .constant (.variable _) => rfl
  | .var _ => rfl
  | .not e => by simp only [rename, vars, vars_rename e]
  | .and l r | .or l r | .compare _ l r | .arith _ l r => by
    simp only [rename, vars, vars_rename l, vars_rename r, List.map_append]
  | .call _ args => by simp only [rename, vars, varsOfList_rename args]

theorem varsOfList_rename : ∀ es : List Expr, varsOfList (renameList ρ es) = (varsOfList es).map ρ
  | [] => rfl
  | e :: rest => by
    simp only [renameList, varsOfList, vars_rename e, varsOfList_rename rest, List.map_append]

end

section
variable {x y : Except EvalError Term} {p p' q q' : Except EvalError Bool}

theorem truth_related (h : Except.Related Eq x y) :
    Except.Related Eq (x.bind Term.truth) (y.bind Term.truth) :=
  h.bind fun t _ htu => htu ▸ .refl t.truth

theorem both_related : Except.Related Eq p p' → Except.Related Eq q q' →
    Except.Related Eq (both p q) (both p' q')
  | .ok (a := false) rfl, _ => .ok rfl
  | .ok (a := true) rfl, .ok (a := false) rfl => .ok rfl
  | .ok (a := true) rfl, .ok (a := true) rfl => .ok rfl
  | .ok (a := true) rfl, .error d d' => .error d d'
  | .error _ _, .ok (a := false) rfl => .ok rfl
  | .error d d', .ok (a := true) rfl => .error d d'
  | .error d d', .error _ _ => .error d d'

theorem either_related : Except.Related Eq p p' → Except.Related Eq q q' →
    Except.Related Eq (either p q) (either p' q')
  | .ok (a := true) rfl, _ => .ok rfl
  | .ok (a := false) rfl, .ok (a := true) rfl => .ok rfl
  | .ok (a := false) rfl, .ok (a := false) rfl => .ok rfl
  | .ok (a := false) rfl, .error d d' => .error d d'
  | .error _ _, .ok (a := true) rfl => .ok rfl
  | .error d d', .ok (a := false) rfl => .error d d'
  | .error d d', .error _ _ => .error d d'

end

variable {functions : FunctionRegistry} {b b' : Binding}

theorem read_related {v : Variable} (h : b'.get? (ρ v) = b.get? v) :
    Except.Related Eq (read b v) (read b' (ρ v)) := by
  simp only [read, h]
  split
  · exact .ok rfl
  · exact .error _ _

mutual

theorem eval_rename : ∀ e : Expr, (∀ v ∈ e.vars, b'.get? (ρ v) = b.get? v) →
    Except.Related Eq (e.eval functions b) ((e.rename ρ).eval functions b')
  | .constant (.variable v), h => read_related (h v List.mem_cons_self)
  | .constant (.iri _), _ | .constant (.literal _), _ | .constant (.blank _), _ => .ok rfl
  | .var v, h => read_related (h v List.mem_cons_self)
  | .not e, h => (truth_related (eval_rename e h)).bind fun _ _ heq => heq ▸ .ok rfl
  | .and l r, h =>
    have hl := eval_rename l fun v hv => h v (List.mem_append_left _ hv)
    have hr := eval_rename r fun v hv => h v (List.mem_append_right _ hv)
    (both_related (truth_related hl) (truth_related hr)).bind fun _ _ heq => heq ▸ .ok rfl
  | .or l r, h =>
    have hl := eval_rename l fun v hv => h v (List.mem_append_left _ hv)
    have hr := eval_rename r fun v hv => h v (List.mem_append_right _ hv)
    (either_related (truth_related hl) (truth_related hr)).bind fun _ _ heq => heq ▸ .ok rfl
  | .compare op l r, h =>
    have hl := eval_rename l fun v hv => h v (List.mem_append_left _ hv)
    have hr := eval_rename r fun v hv => h v (List.mem_append_right _ hv)
    hl.bind fun _ _ hleft => hr.bind fun _ _ hright => by
      subst hleft hright
      exact .refl _
  | .arith op l r, h =>
    have hl := eval_rename l fun v hv => h v (List.mem_append_left _ hv)
    have hr := eval_rename r fun v hv => h v (List.mem_append_right _ hv)
    hl.bind fun _ _ hleft => hr.bind fun _ _ hright => by
      subst hleft hright
      exact .refl _
  | .call function args, h => (evalList_rename args h).bind fun _ _ heq => heq ▸ .refl _

theorem evalList_rename : ∀ es : List Expr, (∀ v ∈ varsOfList es, b'.get? (ρ v) = b.get? v) →
    Except.Related Eq (evalList functions b es) (evalList functions b' (renameList ρ es))
  | [], _ => .ok rfl
  | e :: rest, h =>
    have he := eval_rename e fun v hv => h v (List.mem_append_left _ hv)
    have hrest := evalList_rename rest fun v hv => h v (List.mem_append_right _ hv)
    he.bind fun _ _ hvalue => hrest.bind fun _ _ hvalues => by
      subst hvalue hvalues
      exact .ok rfl

end

end Expr

-- ---------------------------------------------------------------------------
-- Bodies and rules
-- ---------------------------------------------------------------------------

namespace BodyElement

mutual

def vars : BodyElement → List Variable
  | .pattern t => t.vars
  | .condition e => e.vars
  | .assignment v e => v :: e.vars
  | .negation body => varsOfBody body

def varsOfBody : List BodyElement → List Variable
  | [] => []
  | e :: rest => e.vars ++ varsOfBody rest

end

mutual

def rename (ρ : Variable → Variable) : BodyElement → BodyElement
  | .pattern t => .pattern (t.rename ρ)
  | .condition e => .condition (e.rename ρ)
  | .assignment v e => .assignment (ρ v) (e.rename ρ)
  | .negation body => .negation (renameBody ρ body)

def renameBody (ρ : Variable → Variable) : List BodyElement → List BodyElement
  | [] => []
  | e :: rest => e.rename ρ :: renameBody ρ rest

end

end BodyElement

def Rule.vars (r : Rule) : List Variable :=
  r.head.flatMap Triple.vars ++ BodyElement.varsOfBody r.body

/-- A rule says the same as another under other names for its variables, different ones for
different variables. What the rules themselves are called does not matter. -/
def Rule.Renames (r r' : Rule) : Prop :=
  ∃ ρ : Variable → Variable, Set.InjOn ρ {v | v ∈ r.vars} ∧
    r'.head = r.head.map (Triple.rename ρ) ∧ r'.body = BodyElement.renameBody ρ r.body

namespace Dependency

theorem compatible_rename {a b : Term} : compatible (a.rename ρ) (b.rename σ) = compatible a b := by
  rcases a.exists_variable_or_isConcrete with ⟨v, rfl⟩ | ha
  · rfl
  · rcases b.exists_variable_or_isConcrete with ⟨v, rfl⟩ | hb
    · simp [compatible, Term.rename, Term.isVariable, Term.toVariable?]
    · rw [Term.rename_of_isConcrete ha, Term.rename_of_isConcrete hb]

theorem overlaps_rename {p t : Triple} : overlaps (p.rename ρ) (t.rename σ) = overlaps p t := by
  simp only [overlaps, Triple.rename, Triple.map, compatible_rename]

mutual

theorem signedPatterns_rename : ∀ (e : BodyElement) (sign : Sign),
    signedPatterns sign (e.rename ρ) = (signedPatterns sign e).map (Prod.map id (Triple.rename ρ))
  | .pattern _, _ | .condition _, _ | .assignment .., _ => rfl
  | .negation body, _ => signedPatternsOfBody_rename body .negative

theorem signedPatternsOfBody_rename : ∀ (body : List BodyElement) (sign : Sign),
    signedPatternsOfBody sign (BodyElement.renameBody ρ body) =
      (signedPatternsOfBody sign body).map (Prod.map id (Triple.rename ρ))
  | [], _ => rfl
  | e :: rest, sign => by
    simp only [BodyElement.renameBody, signedPatternsOfBody, List.map_append,
      signedPatterns_rename e, signedPatternsOfBody_rename rest]

end

end Dependency

-- ---------------------------------------------------------------------------
-- Scopes
-- ---------------------------------------------------------------------------

namespace Scope

structure Renames (ρ : Variable → Variable) (V : Set Variable) (scope scope' : List Variable) :
    Prop where
  eq_map : scope' = scope.map ρ
  subset : ∀ v ∈ scope, v ∈ V

variable {scope scope' vs : List Variable}

theorem Renames.append (h : Renames ρ V scope scope') (hvs : ∀ v ∈ vs, v ∈ V) :
    Renames ρ V (scope ++ vs) (scope' ++ vs.map ρ) :=
  ⟨by rw [h.eq_map, List.map_append], fun v hv => (List.mem_append.mp hv).elim (h.subset v) (hvs v)⟩

section
variable (hρ : Set.InjOn ρ V)
include hρ

theorem Renames.mem_iff (h : Renames ρ V scope scope') {v : Variable} (hv : v ∈ V) :
    ρ v ∈ scope' ↔ v ∈ scope := by
  rw [h.eq_map, List.mem_map]
  constructor
  · rintro ⟨w, hw, heq⟩
    exact hρ (h.subset w hw) hv heq ▸ hw
  · exact fun hmem => ⟨v, hmem, rfl⟩

theorem require_rename (h : Renames ρ V scope scope') (hvs : ∀ v ∈ vs, v ∈ V) (place : Place) :
    Except.Related Eq (require scope place vs) (require scope' place (vs.map ρ)) := by
  refine .of_ok_iff ?_
  rw [require_ok, require_ok, List.forall_mem_map]
  exact forall₂_congr fun v hv => (h.mem_iff hρ (hvs v hv)).symm

end

mutual

theorem afterElement_rename (hρ : Set.InjOn ρ V) :
    ∀ (e : BodyElement) {scope scope' : List Variable}, Renames ρ V scope scope' →
      (∀ v ∈ e.vars, v ∈ V) →
        Except.Related (Renames ρ V) (afterElement scope e) (afterElement scope' (e.rename ρ))
  | .pattern t, _, _, h, hvars => by
    simp only [afterElement, BodyElement.rename, Triple.vars_rename]
    exact .ok (h.append hvars)
  | .condition e, _, _, h, hvars => by
    simp only [afterElement, BodyElement.rename, Expr.vars_rename]
    exact (require_rename hρ h hvars _).bind fun _ _ _ => .ok h
  | .assignment v e, scope, scope', h, hvars => by
    obtain ⟨hv, he⟩ := List.forall_mem_cons.mp hvars
    simp only [afterElement, BodyElement.rename, Expr.vars_rename, h.mem_iff hρ hv]
    refine (require_rename hρ h he _).bind fun _ _ _ => ?_
    split
    · exact .error _ _
    · exact .ok (h.append (List.forall_mem_singleton.mpr hv))
  | .negation body, _, _, h, hvars => by
    simp only [afterElement, BodyElement.rename]
    exact (afterBody_rename hρ body h hvars).bind fun _ _ _ => .ok h

theorem afterBody_rename (hρ : Set.InjOn ρ V) :
    ∀ (body : List BodyElement) {scope scope' : List Variable}, Renames ρ V scope scope' →
      (∀ v ∈ BodyElement.varsOfBody body, v ∈ V) →
        Except.Related (Renames ρ V) (afterBody scope body)
          (afterBody scope' (BodyElement.renameBody ρ body))
  | [], _, _, h, _ => .ok h
  | e :: rest, _, _, h, hvars =>
    have he := afterElement_rename hρ e h fun v hv => hvars v (List.mem_append_left _ hv)
    he.bind fun _ _ hnext =>
      afterBody_rename hρ rest hnext fun v hv => hvars v (List.mem_append_right _ hv)

end

theorem checkRule_rename {r r' : Rule} (h : r.Renames r') :
    checkRule r = .ok () ↔ checkRule r' = .ok () := by
  obtain ⟨ρ, hρ, hhead, hbody⟩ := h
  have hvars : r'.head.flatMap Triple.vars = (r.head.flatMap Triple.vars).map ρ := by
    simp only [hhead, List.flatMap_map, Triple.vars_rename, List.map_flatMap]
  have hnone : Renames ρ {v | v ∈ r.vars} [] [] := ⟨rfl, nofun⟩
  have hscope := afterBody_rename hρ r.body hnone fun v hv => List.mem_append_right _ hv
  have hrelated : Except.Related Eq (checkRule r) (checkRule r') := by
    simp only [checkRule, hvars, hbody]
    exact hscope.bind fun _ _ hscope =>
      require_rename hρ hscope (fun v hv => List.mem_append_left _ hv) _
  exact hrelated.ok_iff

end Scope

end TripleRules
