import TripleRules.Proofs.Engine.Solution
import TripleRules.Proofs.Expr.Concrete
import TripleRules.Rule.Scope

/-!
# Scopes are sound

The scope that the check ends a body with is bound by everything that solves the body
(`Body.Solves.binds`), to concrete terms if functions keep terms concrete
(`Rule.isConcrete_of_solves`). So the templates of a checked rule have concrete
instances, whatever negations let through.
-/

namespace TripleRules

open Scope (require afterElement afterBody checkRule checkRuleSet)

-- ---------------------------------------------------------------------------
-- The checks
-- ---------------------------------------------------------------------------

namespace Scope

variable {scope : List Variable} {place : Place} {vs : List Variable} {r : Rule} {s : RuleSet}

theorem require_ok {u : Unit} : require scope place vs = .ok u ↔ ∀ v ∈ vs, v ∈ scope := by
  simp only [require]
  split
  · next v hv =>
    have hmem := List.mem_of_find?_eq_some hv
    have hnot : v ∉ scope := by simpa using List.find?_some hv
    exact ⟨fun h => (nomatch h), fun h => absurd (h v hmem) hnot⟩
  · next hnone =>
    have hall := List.find?_eq_none.mp hnone
    exact ⟨fun _ v hv => by simpa using hall v hv, fun _ => rfl⟩

theorem checkRule_ok {u : Unit} :
    checkRule r = .ok u ↔ ∃ scope, afterBody [] r.body = .ok scope ∧
      ∀ template ∈ r.head, ∀ v ∈ template.vars, v ∈ scope := by
  simp only [checkRule, Except.bind_ok, require_ok, List.mem_flatMap]
  constructor
  · rintro ⟨scope, hscope, hhead⟩
    exact ⟨scope, hscope, fun template htemplate v hv => hhead v ⟨template, htemplate, hv⟩⟩
  · rintro ⟨scope, hscope, hhead⟩
    refine ⟨scope, hscope, ?_⟩
    rintro v ⟨template, htemplate, hv⟩
    exact hhead template htemplate v hv

theorem checkRule_congr {r' : Rule} (hhead : r.head = r'.head) (hbody : r.body = r'.body) :
    checkRule r = checkRule r' := by
  simp only [checkRule, hhead, hbody]

theorem checkRuleSet_ok {u : Unit} :
    checkRuleSet s = .ok u ↔
      (∀ r ∈ s.rules, checkRule r = .ok ()) ∧ ∀ t ∈ s.data, t.isConcrete = true := by
  have hrules : ∀ rules : List Rule,
      rules.forM (fun r => (checkRule r).mapError (.scope r)) = Except.ok (ε := Defect) () ↔
        ∀ r ∈ rules, checkRule r = .ok () := by
    intro rules
    induction rules with
    | nil => simp [Except.pure_ok]
    | cons r rest ih =>
      rw [List.forall_mem_cons, ← ih]
      refine Except.bind_ok.trans ?_
      constructor
      · rintro ⟨_, h, hrest⟩
        exact ⟨Except.mapError_ok.mp h, hrest⟩
      · rintro ⟨h, hrest⟩
        exact ⟨(), Except.mapError_ok.mpr h, hrest⟩
  simp only [checkRuleSet, Except.bind_ok, hrules]
  constructor
  · rintro ⟨_, hr, h⟩
    refine ⟨hr, ?_⟩
    split at h
    · cases h
    · next hnone => simpa using hnone
  · rintro ⟨hr, hd⟩
    refine ⟨(), hr, ?_⟩
    split
    · next t ht =>
      have hopen := List.find?_some ht
      simp [hd t (List.mem_of_find?_eq_some ht)] at hopen
    · rfl

end Scope

-- ---------------------------------------------------------------------------
-- Solutions
-- ---------------------------------------------------------------------------

namespace Body

variable {functions : FunctionRegistry} {facts : Sign → Set Triple} {sign : Sign}
  {scope scope' : List Variable} {b c : Binding}

theorem Extends.binds {e : BodyElement} (hscope : afterElement scope e = .ok scope')
    (h : Extends functions facts sign e b c) (hb : b.Binds scope) : c.Binds scope' := by
  cases e with
  | pattern t =>
    obtain rfl := Except.ok.inj hscope
    obtain ⟨u, -, hmatch⟩ := h
    intro v hv
    rcases List.mem_append.mp hv with hv | hv
    · exact hb.of_le (Binding.le_matchTriple hmatch) v hv
    · exact Binding.binds_of_matchTriple hmatch v hv
  | condition e =>
    simp only [afterElement, Except.bind_ok, Except.pure_ok] at hscope
    obtain ⟨_, -, rfl⟩ := hscope
    exact h.2 ▸ hb
  | assignment v e =>
    simp only [afterElement, Except.bind_ok] at hscope
    obtain ⟨_, -, hscope⟩ := hscope
    split at hscope
    · cases hscope
    · obtain rfl := Except.pure_ok.mp hscope
      simp only [Extends, assign] at h
      split at h
      · intro w hw
        rcases List.mem_append.mp hw with hw | hw
        · exact hb.of_le (Binding.le_extend h) w hw
        · obtain rfl := List.mem_singleton.mp hw
          simp [Binding.get?_extend h]
      · cases h
  | negation body =>
    simp only [afterElement, Except.bind_ok, Except.pure_ok] at hscope
    obtain ⟨_, -, rfl⟩ := hscope
    exact h.2 ▸ hb

theorem Solves.binds {body : List BodyElement} (hscope : afterBody scope body = .ok scope')
    (h : Solves functions facts sign body b c) (hb : b.Binds scope) : c.Binds scope' := by
  induction body generalizing scope b with
  | nil =>
    obtain rfl := Except.ok.inj hscope
    exact h ▸ hb
  | cons e rest ih =>
    simp only [afterBody, Except.bind_ok] at hscope
    obtain ⟨mid, hmid, hrest⟩ := hscope
    obtain ⟨d, hext, hsol⟩ := h
    exact ih hrest hsol (hext.binds hmid hb)

theorem Extends.forall {P : Term → Prop} {e : BodyElement}
    (hfacts : ∀ u ∈ facts sign, ∀ t ∈ u.terms, P t)
    (hassign : ∀ v a, e = .assignment v a → ∀ t, a.eval functions b = .ok t → P t)
    (h : Extends functions facts sign e b c) (hb : b.Forall P) : c.Forall P := by
  cases e with
  | pattern t =>
    obtain ⟨u, hu, hmatch⟩ := h
    exact hb.matchTriple (hfacts u hu) hmatch
  | condition e => exact h.2 ▸ hb
  | assignment v e =>
    simp only [Extends, assign] at h
    split at h
    · next value hvalue => exact hb.extend (hassign v e rfl value hvalue) h
    · cases h
  | negation body => exact h.2 ▸ hb

theorem Solves.forall {P : Term → Prop} {body : List BodyElement}
    (hfacts : ∀ u ∈ facts sign, ∀ t ∈ u.terms, P t)
    (hassign : ∀ v e, .assignment v e ∈ body → ∀ b : Binding, b.Forall P →
      ∀ t, e.eval functions b = .ok t → P t)
    (h : Solves functions facts sign body b c) (hb : b.Forall P) : c.Forall P := by
  induction body generalizing b with
  | nil => exact h ▸ hb
  | cons e rest ih =>
    obtain ⟨d, hext, hsol⟩ := h
    refine ih (fun v e he => hassign v e (List.mem_cons_of_mem _ he)) hsol (hext.forall hfacts ?_ hb)
    rintro v a rfl
    exact hassign v a List.mem_cons_self b hb

end Body

-- ---------------------------------------------------------------------------
-- Rules
-- ---------------------------------------------------------------------------

theorem Rule.isConcrete_of_solves {functions : FunctionRegistry} (hf : functions.KeepsConcrete)
    {r : Rule} (hr : checkRule r = .ok ()) {facts : Sign → Set Triple}
    (hfacts : ∀ u ∈ facts .positive, u.isConcrete = true) {b : Binding}
    (h : Body.Solves functions facts .positive r.body .empty b) {template : Triple}
    (htemplate : template ∈ r.head) : (b.substitute template).isConcrete = true := by
  obtain ⟨scope, hscope, hhead⟩ := Scope.checkRule_ok.mp hr
  have hbinds := h.binds hscope (fun v hv => by simp at hv)
  have hconcrete : b.Forall fun t => t.isConcrete = true :=
    h.forall (fun u hu => Triple.isConcrete_iff.mp (hfacts u hu))
      (fun _ e _ _ hb _ ht => Expr.isConcrete_of_eval hf hb e ht) (Binding.forall_empty _)
  exact Binding.isConcrete_substitute hconcrete fun v hv =>
    hbinds v (hhead template htemplate v hv)

end TripleRules
