import TripleRules.Proofs.Engine.Answer
import TripleRules.Proofs.Engine.Round
import TripleRules.Proofs.Rearrangement
import TripleRules.Proofs.Renaming.Basic

/-!
# Equivalent rules

Rules that differ in the order of conjuncts, inside negations as well, have the same
solutions and derive the same triples (`Rule.solutions_of_equivalent`), as long as both are
accepted and their negations are safe: what a negation shares with elements that bind it is
bound before the negation.

A body with a negation is compared from two starts, because in another order other variables
may be bound before the negation. With safe negations these are variables that do not occur
in it.
-/

namespace TripleRules

open Scope (afterElement afterBody checkRule)
open BodyElement (boundByBody varsOfBody equivalentBodies Rearranged)

namespace BodyElement

variable {v : Variable} {e : BodyElement} {body : List BodyElement}

theorem mem_varsOfBody : v ∈ varsOfBody body ↔ ∃ e ∈ body, v ∈ e.vars := by
  induction body with
  | nil => simp [varsOfBody]
  | cons e rest ih => simp [varsOfBody, ih]

theorem mem_boundByBody : v ∈ boundByBody body ↔ ∃ e ∈ body, v ∈ e.bound := List.mem_flatMap

theorem boundByBody_of_before {before after : List BodyElement} (hbody : body = before ++ after)
    (h : v ∈ boundByBody before) : v ∈ boundByBody body := by
  rw [hbody, boundByBody, List.flatMap_append]
  exact List.mem_append_left _ h

theorem vars_of_bound (h : v ∈ e.bound) : v ∈ e.vars := by
  cases e with
  | pattern t => exact h
  | assignment w e => exact List.mem_singleton.mp h ▸ List.mem_cons_self
  | _ => cases h

theorem varsOfBody_of_bound (h : v ∈ boundByBody body) : v ∈ varsOfBody body := by
  obtain ⟨e, he, hv⟩ := mem_boundByBody.mp h
  exact mem_varsOfBody.mpr ⟨e, he, vars_of_bound hv⟩

/-- A variable inside a negation that the body around it binds is bound before the negation
already, in the body or in the scope around that, and so on inside the negation. -/
def NegationsSafe (scope : List Variable) (body : List BodyElement) : Prop :=
  ∀ before inner after, (_ : body = before ++ .negation inner :: after) →
    (∀ v ∈ varsOfBody inner, v ∈ boundByBody body → v ∈ scope ++ boundByBody before) ∧
    NegationsSafe (scope ++ boundByBody before) inner
  termination_by sizeOf body
  decreasing_by subst body; exact sizeOf_negation_lt

theorem negationsSafe_iff {scope : List Variable} : NegationsSafe scope body ↔
    ∀ before inner after, body = before ++ .negation inner :: after →
      (∀ v ∈ varsOfBody inner, v ∈ boundByBody body → v ∈ scope ++ boundByBody before) ∧
      NegationsSafe (scope ++ boundByBody before) inner := by
  rw [NegationsSafe]

theorem negationsSafe_of_forall {scope : List Variable} (h : ∀ inner, .negation inner ∉ body) :
    NegationsSafe scope body :=
  negationsSafe_iff.mpr fun _ inner _ hbody =>
    absurd (hbody ▸ List.mem_append_right _ List.mem_cons_self) (h inner)

theorem NegationsSafe.mem_scope {scope : List Variable} {before inner after : List BodyElement}
    (h : NegationsSafe scope body) (hbody : body = before ++ .negation inner :: after)
    (hv : v ∈ varsOfBody inner) :
    v ∈ scope ++ boundByBody before ↔ v ∈ scope ∨ v ∈ boundByBody body := by
  constructor
  · intro hmem
    exact (List.mem_append.mp hmem).imp_right (boundByBody_of_before hbody)
  · rintro (hmem | hmem)
    · exact List.mem_append_left _ hmem
    · exact (negationsSafe_iff.mp h before inner after hbody).1 v hv hmem

end BodyElement

-- ---------------------------------------------------------------------------
-- Counterparts
-- ---------------------------------------------------------------------------

theorem Rule.perm_of_equivalentHeads {xs ys : List Triple} (h : equivalentHeads xs ys = true) :
    xs.Perm ys :=
  equivalentHeads_iff.mp h

structure Matched {α : Type} (R : α → α → Prop) (xs ys : List α) : Prop where
  forth : ∀ x ∈ xs, ∃ y ∈ ys, R x y
  back : ∀ y ∈ ys, ∃ x ∈ xs, R x y

namespace Matched

variable {α : Type} {R : α → α → Prop} {xs ys : List α}

theorem symm (h : Matched R xs ys) (hR : ∀ x y, R x y → R y x) : Matched R ys xs where
  forth y hy := (h.back y hy).imp fun x ⟨hx, hxy⟩ => ⟨hx, hR x y hxy⟩
  back x hx := (h.forth x hx).imp fun y ⟨hy, hxy⟩ => ⟨hy, hR x y hxy⟩

theorem of_rel (h : Multiset.Rel R (xs : Multiset α) ys) : Matched R xs ys where
  forth _ hx := Multiset.exists_mem_of_rel_of_mem h hx
  back _ hy := Multiset.exists_mem_of_rel_of_mem (Multiset.rel_flip.mpr h) hy

end Matched

-- ---------------------------------------------------------------------------
-- Bodies in another order
-- ---------------------------------------------------------------------------

namespace Body

variable {functions : FunctionRegistry} {g : Graph} {sx sy : List Variable} {b b' c c' : Binding}
  {x y : BodyElement} {xs ys : List BodyElement} {v : Variable}

/-- Of two bodies with the same variables, one has an answer if the other has, from starts
that agree on these. -/
structure Exchangeable (functions : FunctionRegistry) (g : Graph) (xs ys : List BodyElement) :
    Prop where
  vars : ∀ v, v ∈ varsOfBody xs ↔ v ∈ varsOfBody ys
  answers : ∀ {sx sy : List Variable} {b b' : Binding}, b.HasDomain sx → b'.HasDomain sy →
    BodyElement.NegationsSafe sx xs → BodyElement.NegationsSafe sy ys →
    (∀ v ∈ varsOfBody xs, b.get? v = b'.get? v) →
    ((∃ c, Answers functions g b xs c) ↔ ∃ c, Answers functions g b' ys c)

theorem Exchangeable.symm (h : Exchangeable functions g xs ys) : Exchangeable functions g ys xs where
  vars v := (h.vars v).symm
  answers hb hb' hys hxs hstart :=
    (h.answers hb' hb hxs hys fun v hv => (hstart v ((h.vars v).mp hv)).symm).symm

/-- Elements say the same: they are equal, or negations of bodies that are exchangeable. -/
inductive Same (functions : FunctionRegistry) (g : Graph) : BodyElement → BodyElement → Prop
  | pattern (p : Triple) : Same functions g (.pattern p) (.pattern p)
  | condition (e : Expr) : Same functions g (.condition e) (.condition e)
  | assignment (v : Variable) (e : Expr) : Same functions g (.assignment v e) (.assignment v e)
  | negation {xs ys : List BodyElement} : Exchangeable functions g xs ys →
    Same functions g (.negation xs) (.negation ys)

namespace Same

theorem symm (h : Same functions g x y) : Same functions g y x := by
  cases h with
  | pattern p => exact .pattern p
  | condition e => exact .condition e
  | assignment v e => exact .assignment v e
  | negation h => exact .negation h.symm

theorem bound (h : Same functions g x y) : x.bound = y.bound := by
  cases h <;> rfl

theorem mem_vars (h : Same functions g x y) : v ∈ x.vars ↔ v ∈ y.vars := by
  cases h with
  | negation h => exact h.vars v
  | _ => exact Iff.rfl

end Same

theorem hasDomain_before {scope : List Variable} {before after : List BodyElement}
    (hc : c.HasDomain (scope ++ boundByBody xs)) (hxs : xs = before ++ after) :
    (c.restrict (scope ++ boundByBody before)).HasDomain (scope ++ boundByBody before) := by
  refine Binding.hasDomain_restrict fun v hv => (hc v).mpr (List.mem_append.mpr ?_)
  exact (List.mem_append.mp hv).imp_right (BodyElement.boundByBody_of_before hxs)

section
variable (h : Matched (Same functions g) xs ys)
include h

theorem mem_boundByBody_of_matched : v ∈ boundByBody xs ↔ v ∈ boundByBody ys := by
  simp only [BodyElement.mem_boundByBody]
  constructor
  · rintro ⟨x, hx, hv⟩
    obtain ⟨y, hy, hxy⟩ := h.forth x hx
    exact ⟨y, hy, hxy.bound ▸ hv⟩
  · rintro ⟨y, hy, hv⟩
    obtain ⟨x, hx, hxy⟩ := h.back y hy
    exact ⟨x, hx, hxy.bound ▸ hv⟩

theorem mem_varsOfBody_of_matched : v ∈ varsOfBody xs ↔ v ∈ varsOfBody ys := by
  simp only [BodyElement.mem_varsOfBody]
  constructor
  · rintro ⟨x, hx, hv⟩
    obtain ⟨y, hy, hxy⟩ := h.forth x hx
    exact ⟨y, hy, hxy.mem_vars.mp hv⟩
  · rintro ⟨y, hy, hv⟩
    obtain ⟨x, hx, hxy⟩ := h.back y hy
    exact ⟨x, hx, hxy.mem_vars.mpr hv⟩

variable (hb : b.HasDomain sx) (hb' : b'.HasDomain sy) (hxs : BodyElement.NegationsSafe sx xs)
  (hys : BodyElement.NegationsSafe sy ys) (hstart : ∀ v ∈ varsOfBody xs, b.get? v = b'.get? v)
include hb hb' hxs hys hstart

theorem Answers.of_matched (hc : Answers functions g b xs c) (hle : b' ≤ c')
    (hdomain : c'.HasDomain (sy ++ boundByBody ys))
    (hsame : ∀ v ∈ varsOfBody xs, c.get? v = c'.get? v) : Answers functions g b' ys c' := by
  obtain ⟨-, hcdomain, hmeets⟩ := (answers_iff hb).mp hc
  refine (answers_iff hb').mpr ⟨hle, hdomain, fun before y after hy => ?_⟩
  obtain ⟨x, hx, hxy⟩ := h.back y (hy ▸ List.mem_append_right _ List.mem_cons_self)
  obtain ⟨before', after', hx'⟩ := List.append_of_mem hx
  have hmeet := hmeets before' x after' hx'
  have hvars : ∀ v ∈ x.vars, c.get? v = c'.get? v := fun v hv =>
    hsame v (BodyElement.mem_varsOfBody.mpr ⟨x, hx, hv⟩)
  cases hxy with
  | pattern p =>
    rw [Meets, ← Binding.substitute_congr hvars]
    exact hmeet
  | condition e =>
    rw [Meets, ← Expr.condition_congr hvars]
    exact hmeet
  | assignment w e =>
    obtain ⟨hw, he⟩ := List.forall_mem_cons.mp hvars
    rw [Meets, ← hw, ← Expr.eval_congr e he]
    exact hmeet
  | @negation inner inner' hinner =>
    -- safe negations: the two scopes differ only in variables that do not occur inside
    have hscope : ∀ v ∈ varsOfBody inner,
        v ∈ sx ++ boundByBody before' ↔ v ∈ sy ++ boundByBody before := fun v hv => by
      rw [hxs.mem_scope hx' hv, hys.mem_scope hy ((hinner.vars v).mp hv),
        mem_boundByBody_of_matched h, ← hb v, ← hb' v, Binding.mem_domain, Binding.mem_domain,
        hstart v (BodyElement.mem_varsOfBody.mpr ⟨_, hx, hv⟩)]
    have hagree : ∀ v ∈ varsOfBody inner, (c.restrict (sx ++ boundByBody before')).get? v =
        (c'.restrict (sy ++ boundByBody before)).get? v := fun v hv => by
      simp only [Binding.get?_restrict, hscope v hv, hvars v hv]
    intro d hd
    have hback := hinner.answers (hasDomain_before hcdomain hx') (hasDomain_before hdomain hy)
      (BodyElement.negationsSafe_iff.mp hxs _ _ _ hx').2
      (BodyElement.negationsSafe_iff.mp hys _ _ _ hy).2 hagree
    obtain ⟨d', hd'⟩ := hback.mpr ⟨d, hd⟩
    exact hmeet d' hd'

theorem Answers.exists_of_matched (hc : Answers functions g b xs c) :
    ∃ c', Answers functions g b' ys c' := by
  obtain ⟨hle, hcdomain, -⟩ := (answers_iff hb).mp hc
  have hisSome : ∀ v ∈ boundByBody ys, (c.get? v).isSome = true := fun v hv =>
    Binding.mem_domain.mp ((hcdomain v).mpr
      (List.mem_append_right _ ((mem_boundByBody_of_matched h).mpr hv)))
  -- the terms of the answer for what the other body binds, over the other start
  have hget : ∀ v, (b'.update c (boundByBody ys)).get? v =
      if v ∈ boundByBody ys then c.get? v else b'.get? v := fun v => by
    rw [Binding.get?_update]
    exact if_congr (and_iff_left_of_imp (hisSome v)) rfl rfl
  have hvars : ∀ v ∈ boundByBody ys, v ∈ varsOfBody xs := fun v hv =>
    BodyElement.varsOfBody_of_bound ((mem_boundByBody_of_matched h).mpr hv)
  refine ⟨b'.update c (boundByBody ys), hc.of_matched h hb hb' hxs hys hstart (fun v t hv => ?_)
    (fun v => ?_) fun v hv => ?_⟩
  · rw [hget]
    split
    · next hmem => exact hle v t ((hstart v (hvars v hmem)).trans hv)
    · exact hv
  · rw [Binding.mem_domain, hget, List.mem_append, ← hb' v, Binding.mem_domain]
    split
    · next hmem => exact iff_of_true (hisSome v hmem) (.inr hmem)
    · next hmem => exact (or_iff_left hmem).symm
  · rw [hget]
    split
    · rfl
    · next hmem =>
      have hbound : v ∉ boundByBody xs := fun hmem' => hmem ((mem_boundByBody_of_matched h).mp hmem')
      rw [← hstart v hv]
      by_cases hbv : v ∈ b.domain
      · exact Binding.get?_of_le hle hbv
      · have hcv : v ∉ c.domain := fun hmem' =>
          (List.mem_append.mp ((hcdomain v).mp hmem')).elim (fun hsx => hbv ((hb v).mpr hsx)) hbound
        rw [Binding.get?_eq_none.mpr hbv, Binding.get?_eq_none.mpr hcv]

end

theorem exchangeable_of_matched (h : Matched (Same functions g) xs ys) :
    Exchangeable functions g xs ys where
  vars _ := mem_varsOfBody_of_matched h
  answers hb hb' hxs hys hstart := by
    constructor
    · rintro ⟨c, hc⟩
      exact hc.exists_of_matched h hb hb' hxs hys hstart
    · rintro ⟨c, hc⟩
      refine hc.exists_of_matched (h.symm fun _ _ => Same.symm) hb' hb hys hxs fun v hv => ?_
      exact (hstart v ((mem_varsOfBody_of_matched h).mpr hv)).symm

theorem same_of_rearranged {x y : BodyElement} (h : Rearranged x y) : Same functions g x y := by
  cases x with
  | negation xs =>
    obtain ⟨ys, rfl, hrel⟩ := BodyElement.rearranged_negation.mp h
    refine .negation (exchangeable_of_matched (.of_rel (hrel.mono fun x hx y _ hxy => ?_)))
    have : x ∈ xs := hx
    exact same_of_rearranged hxy
  | pattern p =>
    obtain rfl := (BodyElement.rearranged_iff_eq (by simp)).mp h
    exact .pattern p
  | condition e =>
    obtain rfl := (BodyElement.rearranged_iff_eq (by simp)).mp h
    exact .condition e
  | assignment v e =>
    obtain rfl := (BodyElement.rearranged_iff_eq (by simp)).mp h
    exact .assignment v e
termination_by sizeOf x

theorem matched_of_equivalent (xs ys : List BodyElement) (h : equivalentBodies xs ys = true) :
    Matched (Same functions g) xs ys :=
  .of_rel ((BodyElement.equivalentBodies_iff.mp h).mono fun _ _ _ _ => same_of_rearranged)

end Body

-- ---------------------------------------------------------------------------
-- Rules
-- ---------------------------------------------------------------------------

namespace Rule

variable {functions : FunctionRegistry} {g : Graph} {r r' : Rule} {b : Binding}

theorem answers_of_equivalent (h : Matched (Body.Same functions g) r.body r'.body)
    (hsafe : BodyElement.NegationsSafe [] r.body) (hsafe' : BodyElement.NegationsSafe [] r'.body)
    (hb : Body.Answers functions g .empty r.body b) : Body.Answers functions g .empty r'.body b := by
  have hempty := Binding.grounds_empty.domain
  obtain ⟨hle, hdomain, -⟩ := (Body.answers_iff hempty).mp hb
  refine hb.of_matched h hempty hempty hsafe hsafe' (fun _ _ => rfl) hle (fun v => ?_) fun _ _ => rfl
  rw [hdomain v, List.nil_append, List.nil_append, Body.mem_boundByBody_of_matched h]

theorem mem_solutions (hf : functions.KeepsConcrete) (hr : checkRule r = .ok ()) :
    b ∈ r.solutions functions g ↔ Body.Answers functions g .empty r.body b := by
  obtain ⟨scope, hscope, -⟩ := Scope.checkRule_ok.mp hr
  exact Body.mem_solve_iff_answers hf Binding.grounds_empty hscope

theorem nodup_solutions (hf : functions.KeepsConcrete) (hr : checkRule r = .ok ()) :
    (r.solutions functions g).Nodup := by
  obtain ⟨scope, hscope, -⟩ := Scope.checkRule_ok.mp hr
  exact Body.nodup_solve hf Binding.grounds_empty hscope

theorem exists_instantiate (hf : functions.KeepsConcrete) (hr : checkRule r = .ok ())
    (hb : b ∈ r.solutions functions g) : r.instantiate b = .ok (r.head.map b.substitute) :=
  instantiate_ok.mpr ⟨fun _ htemplate => isConcrete_of_solves hf hr
    (fun _ hu => Graph.isConcrete_of_mem hu) (Body.mem_solve.mp hb) htemplate, rfl⟩

/-- Equivalent rules that are accepted and have safe negations find the same solutions
equally often, instantiate their heads under each to the same triples but for the order, and
so derive the same triples. -/
theorem solutions_of_equivalent (h : r.equivalent r' = true)
    (hr : checkRule r = .ok ()) (hr' : checkRule r' = .ok ())
    (hsafe : BodyElement.NegationsSafe [] r.body) (hsafe' : BodyElement.NegationsSafe [] r'.body)
    (hf : functions.KeepsConcrete) (g : Graph) :
    (r.solutions functions g).Perm (r'.solutions functions g) ∧
    (∀ b ∈ r.solutions functions g, ∃ ts ts', r.instantiate b = .ok ts ∧
      r'.instantiate b = .ok ts' ∧ ts.Perm ts') ∧
    ∀ t, r.Derives functions g t ↔ r'.Derives functions g t := by
  obtain ⟨hheads, hbodies⟩ := Bool.and_eq_true_iff.mp h
  have hhead : r.head.Perm r'.head := perm_of_equivalentHeads hheads
  have hmatched : Matched (Body.Same functions g) r.body r'.body :=
    Body.matched_of_equivalent _ _ hbodies
  have hperm : (r.solutions functions g).Perm (r'.solutions functions g) := by
    refine (List.perm_ext_iff_of_nodup (nodup_solutions hf hr) (nodup_solutions hf hr')).mpr
      fun b => ?_
    rw [mem_solutions hf hr, mem_solutions hf hr']
    exact ⟨answers_of_equivalent hmatched hsafe hsafe',
      answers_of_equivalent (hmatched.symm fun _ _ => Body.Same.symm) hsafe' hsafe⟩
  refine ⟨hperm, fun b hb => ?_, fun t => ?_⟩
  · exact ⟨_, _, exists_instantiate hf hr hb, exists_instantiate hf hr' (hperm.mem_iff.mp hb),
      hhead.map _⟩
  · simp only [Derives, hperm.mem_iff, hhead.mem_iff]

/-- People who know nobody where they live. -/
def alone : Rule where
  id := ⟨0⟩
  name := none
  head := [⟨.ofVariable "x", .ofIri "is", .ofIri "alone"⟩]
  body := [
    .pattern ⟨.ofVariable "x", .ofIri "is", .ofIri "person"⟩,
    .pattern ⟨.ofVariable "x", .ofIri "lives", .ofVariable "p"⟩,
    .negation [
      .pattern ⟨.ofVariable "x", .ofIri "knows", .ofVariable "y"⟩,
      .pattern ⟨.ofVariable "y", .ofIri "lives", .ofVariable "p"⟩]]

def aloneReordered : Rule where
  id := ⟨1⟩
  name := none
  head := alone.head
  body := [
    .pattern ⟨.ofVariable "x", .ofIri "lives", .ofVariable "p"⟩,
    .negation [
      .pattern ⟨.ofVariable "y", .ofIri "lives", .ofVariable "p"⟩,
      .pattern ⟨.ofVariable "x", .ofIri "knows", .ofVariable "y"⟩],
    .pattern ⟨.ofVariable "x", .ofIri "is", .ofIri "person"⟩]

theorem solutions_of_equivalent_alone :
    alone.equivalent aloneReordered = true ∧ checkRule alone = .ok () ∧
    checkRule aloneReordered = .ok () ∧ BodyElement.NegationsSafe [] alone.body ∧
    BodyElement.NegationsSafe [] aloneReordered.body ∧
    ∀ g t, alone.Derives .standard g t ↔ aloneReordered.Derives .standard g t := by
  have hequivalent : alone.equivalent aloneReordered = true := by decide +kernel
  have hcheck : checkRule alone = .ok () := by decide +kernel
  have hcheck' : checkRule aloneReordered = .ok () := by decide +kernel
  have hsafe : BodyElement.NegationsSafe [] alone.body := by
    refine BodyElement.negationsSafe_iff.mpr fun before inner after h => ?_
    rcases before with _ | ⟨a, _ | ⟨b, _ | ⟨c, before⟩⟩⟩ <;> simp [alone] at h
    obtain ⟨rfl, rfl, rfl, -⟩ := h
    exact ⟨by decide, BodyElement.negationsSafe_of_forall (by simp)⟩
  have hsafe' : BodyElement.NegationsSafe [] aloneReordered.body := by
    refine BodyElement.negationsSafe_iff.mpr fun before inner after h => ?_
    rcases before with _ | ⟨a, _ | ⟨b, _ | ⟨c, before⟩⟩⟩ <;> simp [aloneReordered] at h
    obtain ⟨rfl, rfl, -⟩ := h
    exact ⟨by decide, BodyElement.negationsSafe_of_forall (by simp)⟩
  exact ⟨hequivalent, hcheck, hcheck', hsafe, hsafe', fun g => (solutions_of_equivalent hequivalent
    hcheck hcheck' hsafe hsafe' FunctionRegistry.standard_keepsConcrete g).2.2⟩

end Rule

end TripleRules
