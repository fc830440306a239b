import TripleRules.Proofs.Engine.Solution
import TripleRules.Proofs.Expr.Reading
import TripleRules.Proofs.Extension
import TripleRules.Proofs.Scope

/-!
# Scopes are domains

The scope that the check of a rule has at a position of the body is what the evaluation has
bound there, in every binding of its list and inside negations as well
(`Rule.scope_eq_domain`). So no expression fails for want of a variable, and no assignment
finds its variable bound.
-/

namespace TripleRules

open Scope (afterElement afterBody checkRule)

-- ---------------------------------------------------------------------------
-- Scopes
-- ---------------------------------------------------------------------------

def BodyElement.bound : BodyElement → List Variable
  | .pattern t => t.vars
  | .assignment v _ => [v]
  | .condition _ | .negation _ => []

def BodyElement.boundByBody (body : List BodyElement) : List Variable := body.flatMap bound

namespace Scope

variable {scope scope' : List Variable} {e : Expr} {v : Variable} {body rest : List BodyElement}

theorem afterElement_condition : afterElement scope (.condition e) = .ok scope' ↔
    (∀ w ∈ e.vars, w ∈ scope) ∧ scope = scope' := by
  simp only [afterElement, Except.bind_ok, require_ok, Except.pure_ok, exists_const]

theorem afterElement_assignment : afterElement scope (.assignment v e) = .ok scope' ↔
    (∀ w ∈ e.vars, w ∈ scope) ∧ v ∉ scope ∧ scope ++ [v] = scope' := by
  simp only [afterElement, Except.bind_ok, require_ok, exists_const]
  by_cases hv : v ∈ scope
  · simp [hv, throw, throwThe, MonadExceptOf.throw, bind, Except.bind]
  · simp [hv, pure, Except.pure]

theorem afterElement_negation : afterElement scope (.negation body) = .ok scope' ↔
    (∃ inner, afterBody scope body = .ok inner) ∧ scope = scope' := by
  simp only [afterElement, Except.bind_ok, Except.pure_ok, exists_and_right]

theorem afterBody_cons {element : BodyElement} : afterBody scope (element :: rest) = .ok scope' ↔
    ∃ mid, afterElement scope element = .ok mid ∧ afterBody mid rest = .ok scope' := by
  rw [afterBody, Except.bind_ok]

theorem eq_of_afterElement {element : BodyElement} (h : afterElement scope element = .ok scope') :
    scope' = scope ++ element.bound := by
  cases element with
  | pattern t => exact (Except.ok.inj h).symm
  | condition e => rw [← (afterElement_condition.mp h).2, BodyElement.bound, List.append_nil]
  | assignment v e => exact (afterElement_assignment.mp h).2.2.symm
  | negation body => rw [← (afterElement_negation.mp h).2, BodyElement.bound, List.append_nil]

end Scope

-- ---------------------------------------------------------------------------
-- Steps
-- ---------------------------------------------------------------------------

/-- Exactly these variables are bound, and to concrete terms. -/
structure Binding.Grounds (b : Binding) (scope : List Variable) : Prop where
  domain : b.HasDomain scope
  concrete : b.Forall fun t => t.isConcrete = true

theorem Binding.grounds_empty : Binding.empty.Grounds [] := ⟨fun _ => Iff.rfl, forall_empty _⟩

namespace Body

variable {functions : FunctionRegistry} {facts : Sign → Set Triple} {sign : Sign} {g : Graph}
  {scope scope' : List Variable} {b c : Binding} {e : Expr} {v : Variable}

theorem assign_eq_some_iff : assign functions v e b = some c ↔
    ∃ t, e.eval functions b = .ok t ∧ b.extend v t = some c := by
  simp only [assign]
  split
  · next t ht => simp [ht]
  · next d hd => simp [hd]

theorem assign_eq_none_iff (hv : v ∉ b.domain) :
    assign functions v e b = none ↔ ∃ d, e.eval functions b = .error d := by
  simp only [assign]
  split
  · next t ht => simp [ht, Binding.extend, Binding.get?_eq_none.mpr hv]
  · next d hd => simp [hd]

theorem Extends.grounds {element : BodyElement} (hf : functions.KeepsConcrete)
    (hfacts : ∀ u ∈ facts sign, u.isConcrete = true)
    (hscope : afterElement scope element = .ok scope')
    (h : Extends functions facts sign element b c) (hb : b.Grounds scope) : c.Grounds scope' where
  domain := by
    intro w
    obtain rfl := Scope.eq_of_afterElement hscope
    rw [List.mem_append, ← hb.domain w]
    cases element with
    | pattern t =>
      obtain ⟨u, -, hmatch⟩ := h
      exact Binding.mem_domain_matchTriple (Binding.matchTriple_substitute hb.concrete ▸ hmatch)
    | condition e =>
      obtain ⟨-, rfl⟩ := h
      exact (or_iff_left List.not_mem_nil).symm
    | assignment v e =>
      obtain ⟨t, -, hextend⟩ := assign_eq_some_iff.mp h
      rw [Binding.mem_domain_extend hextend, BodyElement.bound, List.mem_singleton]
    | negation body =>
      obtain ⟨-, rfl⟩ := h
      exact (or_iff_left List.not_mem_nil).symm
  concrete := by
    refine h.forall (fun u hu => Triple.isConcrete_iff.mp (hfacts u hu)) ?_ hb.concrete
    rintro v a - t ht
    exact Expr.isConcrete_of_eval hf hb.concrete a ht

theorem grounds_step {element : BodyElement} {chain : List Binding} (hf : functions.KeepsConcrete)
    (hscope : afterElement scope element = .ok scope') (h : ∀ b ∈ chain, b.Grounds scope) :
    ∀ c ∈ step functions g element chain, c.Grounds scope' := by
  intro c hc
  obtain ⟨b, hb, hext⟩ := (mem_step element .positive chain c).mp hc
  exact hext.grounds hf (fun u hu => Graph.isConcrete_of_mem hu) hscope (h b hb)

end Body

theorem Expr.notUnbound_eval {functions : FunctionRegistry} (hf : functions.KnowsArguments)
    {e : Expr} {b : Binding} {scope : List Variable} (hb : b.HasDomain scope)
    (hvars : ∀ v ∈ e.vars, v ∈ scope) : Except.NotUnbound (e.eval functions b) := by
  intro v h
  obtain ⟨hv, hnone⟩ := unbound_of_eval hf e h
  exact Binding.get?_eq_none.mp hnone ((hb v).mpr (hvars v hv))

-- ---------------------------------------------------------------------------
-- Positions
-- ---------------------------------------------------------------------------

/-- The check of a rule and its evaluation pass positions of the body together: the one has a
scope, the other a list of bindings, and some elements are left. A negation is entered with
each of the bindings in front of it alone. -/
inductive Rule.Passes (functions : FunctionRegistry) (g : Graph) (r : Rule) :
    List Variable → List Binding → List BodyElement → Prop
  | start : Passes functions g r [] [.empty] r.body
  | next {scope scope' : List Variable} {chain : List Binding} {e : BodyElement}
      {rest : List BodyElement} : Passes functions g r scope chain (e :: rest) →
      afterElement scope e = .ok scope' →
      Passes functions g r scope' (Body.step functions g e chain) rest
  | enter {scope : List Variable} {chain : List Binding} {b : Binding}
      {inner rest : List BodyElement} : Passes functions g r scope chain (.negation inner :: rest) →
      b ∈ chain → Passes functions g r scope [b] inner

namespace Rule

variable {functions : FunctionRegistry} {g : Graph} {r : Rule} {scope : List Variable}
  {chain : List Binding} {rest : List BodyElement}

/-- In a checked rule what is left is accepted from the scope, and the scope is bound. -/
theorem Passes.grounds (hf : functions.KeepsConcrete) (hr : checkRule r = .ok ())
    (h : r.Passes functions g scope chain rest) :
    (∃ last, afterBody scope rest = .ok last) ∧ ∀ b ∈ chain, b.Grounds scope := by
  induction h with
  | start =>
    obtain ⟨last, hlast, -⟩ := Scope.checkRule_ok.mp hr
    exact ⟨⟨last, hlast⟩, List.forall_mem_singleton.mpr Binding.grounds_empty⟩
  | next _ hscope ih =>
    obtain ⟨⟨last, hlast⟩, hchain⟩ := ih
    obtain ⟨mid, hmid, hrest⟩ := Scope.afterBody_cons.mp hlast
    obtain rfl := Except.ok.inj (hmid.symm.trans hscope)
    exact ⟨⟨last, hrest⟩, Body.grounds_step hf hscope hchain⟩
  | enter _ hb ih =>
    obtain ⟨⟨last, hlast⟩, hchain⟩ := ih
    obtain ⟨mid, hmid, -⟩ := Scope.afterBody_cons.mp hlast
    exact ⟨(Scope.afterElement_negation.mp hmid).1, List.forall_mem_singleton.mpr (hchain _ hb)⟩

/-- At every position of a checked rule the scope is the domain of every binding there. So no
condition and no assignment fails for an unbound variable, and an assignment drops a binding
only where its expression fails. -/
theorem scope_eq_domain (hconcrete : functions.KeepsConcrete)
    (hknows : functions.KnowsArguments) (hr : checkRule r = .ok ())
    (h : r.Passes functions g scope chain rest) :
    (∃ last, afterBody scope rest = .ok last) ∧ ∀ b ∈ chain,
      (∀ v, v ∈ b.domain ↔ v ∈ scope) ∧
      (∀ e tail, rest = .condition e :: tail →
        ∀ w, e.condition functions b ≠ .error (.unboundVariable w)) ∧
      ∀ v e tail, rest = .assignment v e :: tail →
        (∀ w, e.eval functions b ≠ .error (.unboundVariable w)) ∧ v ∉ b.domain ∧
        (Body.assign functions v e b = none ↔ ∃ d, e.eval functions b = .error d) := by
  obtain ⟨⟨last, hlast⟩, hchain⟩ := h.grounds hconcrete hr
  refine ⟨⟨last, hlast⟩, fun b hb => ⟨(hchain b hb).domain, ?_, ?_⟩⟩
  · rintro e tail rfl w hw
    obtain ⟨mid, hmid, -⟩ := Scope.afterBody_cons.mp hlast
    exact Expr.notUnbound_eval hknows (hchain b hb).domain
      (Scope.afterElement_condition.mp hmid).1 w (Expr.eval_of_truth hw)
  · rintro v e tail rfl
    obtain ⟨mid, hmid, -⟩ := Scope.afterBody_cons.mp hlast
    obtain ⟨hvars, hv, -⟩ := Scope.afterElement_assignment.mp hmid
    have hfree : v ∉ b.domain := fun hmem => hv (((hchain b hb).domain v).mp hmem)
    exact ⟨Expr.notUnbound_eval hknows (hchain b hb).domain hvars,
      hfree, Body.assign_eq_none_iff hfree⟩

/-- People come late if none of their names begins with an A. -/
def late : Rule where
  id := ⟨0⟩
  name := none
  head := [⟨.ofVariable "x", .ofIri "comes", .ofIri "late"⟩]
  body := [
    .pattern ⟨.ofVariable "x", .ofIri "is", .ofIri "person"⟩,
    .negation [
      .pattern ⟨.ofVariable "x", .ofIri "name", .ofVariable "n"⟩,
      .assignment ⟨"u"⟩ (.call "ucase" [.var ⟨"n"⟩]),
      .condition (.call "strstarts" [.var ⟨"u"⟩, .constant (.ofText "A")])]]

/-- Inside the negation, the person and the name are bound when the name is put in capitals. -/
theorem scope_eq_domain_late : FunctionRegistry.standard.KeepsConcrete ∧
    FunctionRegistry.standard.KnowsArguments ∧ checkRule late = .ok () ∧
    ∃ (g : Graph) (b : Binding) (rest : List BodyElement),
    late.Passes .standard g [⟨"x"⟩, ⟨"x"⟩, ⟨"n"⟩] [b]
      (.assignment ⟨"u"⟩ (.call "ucase" [.var ⟨"n"⟩]) :: rest) ∧
    b.get? ⟨"n"⟩ = some (.ofText "Bob") ∧ (∀ v, v ∈ b.domain ↔ v ∈ [⟨"x"⟩, ⟨"x"⟩, ⟨"n"⟩]) ∧
    ∀ w, (Expr.call "ucase" [.var ⟨"n"⟩]).eval .standard b ≠ .error (.unboundVariable w) := by
  let g : Graph := .ofStore (Store.empty.addAll [⟨.ofIri "bob", .ofIri "is", .ofIri "person"⟩,
    ⟨.ofIri "bob", .ofIri "name", .ofText "Bob"⟩]).1
  let b : Binding := Binding.empty.insert ⟨"x"⟩ (.ofIri "bob")
  have hcheck : checkRule late = .ok () := by decide +kernel
  have hperson : b ∈ Body.step .standard g
      (.pattern ⟨.ofVariable "x", .ofIri "is", .ofIri "person"⟩) [.empty] := by decide +kernel
  have hname : Body.step .standard g
      (.pattern ⟨.ofVariable "x", .ofIri "name", .ofVariable "n"⟩) [b] =
      [b.insert ⟨"n"⟩ (.ofText "Bob")] := by decide +kernel
  have hpasses := (((.start : Passes .standard g late _ _ _).next rfl).enter hperson).next rfl
  rw [hname] at hpasses
  have hconcrete := FunctionRegistry.standard_keepsConcrete
  have hknows := FunctionRegistry.standard_knowsArguments
  obtain ⟨-, hall⟩ := scope_eq_domain hconcrete hknows hcheck hpasses
  obtain ⟨hdomain, -, hassign⟩ := hall _ List.mem_cons_self
  exact ⟨hconcrete, hknows, hcheck, g, _, _, hpasses, by decide +kernel, hdomain,
    (hassign _ _ _ rfl).1⟩

end Rule

end TripleRules
