import Mathlib.Data.List.Forall2
import TripleRules.Proofs.Engine.Round
import TripleRules.Proofs.Renaming.Basic

/-!
# Solutions under other names

A body that is evaluated under other names finds the same solutions one by one, each with
the terms of the first under the other names (`Body.steps_rename`), so heads have
the same instances. Terms from the graph and from functions must be concrete: a variable
among them would be a name that is not replaced.
-/

namespace TripleRules

variable {ρ : Variable → Variable} {V : Set Variable} {functions : FunctionRegistry} {g : Graph}

-- ---------------------------------------------------------------------------
-- Bindings
-- ---------------------------------------------------------------------------

namespace Binding

/-- A binding gives concrete terms, and another gives the same to the renamed variables. -/
structure Renames (ρ : Variable → Variable) (V : Set Variable) (b b' : Binding) : Prop where
  get?_eq : ∀ v ∈ V, b'.get? (ρ v) = b.get? v
  concrete : b.Forall fun t => t.isConcrete = true

variable {b b' : Binding} {p t : Term} {pattern candidate : Triple} {v : Variable}

theorem renames_empty : Renames ρ V .empty .empty := ⟨fun _ _ => rfl, forall_empty _⟩

theorem rel_bind {α : Type} {R P : α → α → Prop} {x y : Option α} {f f' : α → Option α}
    (h : Option.Rel R x y) (hf : ∀ a b, R a b → Option.Rel P (f a) (f' b)) :
    Option.Rel P (x >>= f) (y >>= f') := by
  cases h with
  | some hab => exact hf _ _ hab
  | none => exact .none

namespace Renames

variable (h : Renames ρ V b b')
include h

theorem resolve (hp : ∀ v, p = .variable v → v ∈ V) :
    b'.resolve (p.rename ρ) = (b.resolve p).rename ρ := by
  rcases p.exists_variable_or_isConcrete with ⟨v, rfl⟩ | hconcrete
  · simp only [Term.rename, Binding.resolve, h.get?_eq v (hp v rfl)]
    cases hv : b.get? v with
    | none => rfl
    | some u => exact (Term.rename_of_isConcrete (h.concrete v u hv)).symm
  · rw [Term.rename_of_isConcrete hconcrete, resolve_of_isConcrete hconcrete,
      resolve_of_isConcrete hconcrete, Term.rename_of_isConcrete hconcrete]

theorem substitute (hvars : ∀ v ∈ pattern.vars, v ∈ V) :
    b'.substitute (pattern.rename ρ) = (b.substitute pattern).rename ρ := by
  have hterm : ∀ u ∈ pattern.terms, b'.resolve (u.rename ρ) = (b.resolve u).rename ρ := fun u hu =>
    h.resolve fun v hv => hvars v (Triple.mem_vars.mpr (hv ▸ hu))
  simp only [Triple.terms, List.forall_mem_cons] at hterm
  obtain ⟨hs, hp, ho, -⟩ := hterm
  simp only [Binding.substitute, Triple.rename, Triple.map, hs, hp, ho]

theorem vars_substitute (hvars : ∀ v ∈ pattern.vars, v ∈ V) :
    ∀ v ∈ (b.substitute pattern).vars, v ∈ V := by
  intro v hv
  obtain ⟨u, hu, heq⟩ := Triple.mem_terms_map.mp (Triple.mem_vars.mp hv)
  rcases u.exists_variable_or_isConcrete with ⟨w, rfl⟩ | hconcrete
  · cases hw : b.get? w with
    | none =>
      rw [Binding.resolve, hw, Option.getD_none, Term.variable.injEq] at heq
      exact heq ▸ hvars w (Triple.mem_vars.mpr hu)
    | some x =>
      have hx := h.concrete w x hw
      rw [← resolve_of_get? hw, heq] at hx
      cases hx
  · rw [resolve_of_isConcrete hconcrete] at heq
    rw [heq] at hconcrete
    cases hconcrete

section
variable (hρ : Set.InjOn ρ V)
include hρ

theorem extend (hv : v ∈ V) (ht : t.isConcrete = true) :
    Option.Rel (Renames ρ V) (b.extend v t) (b'.extend (ρ v) t) := by
  simp only [Binding.extend, h.get?_eq v hv]
  cases hb : b.get? v with
  | some bound =>
    simp only
    split
    · exact .some h
    · exact .none
  | none =>
    -- the new name is no other variable's, so what they are bound to stays
    refine .some ⟨fun w hw => ?_, fun w u hu => ?_⟩
    · simp only [get?_insert, hρ.eq_iff hw hv, h.get?_eq w hw]
    · rw [get?_insert] at hu
      split at hu
      · exact Option.some.inj hu ▸ ht
      · exact h.concrete w u hu

theorem matchTerm (hp : ∀ v, p = .variable v → v ∈ V) (ht : t.isConcrete = true) :
    Option.Rel (Renames ρ V) (b.matchTerm p t) (b'.matchTerm (p.rename ρ) t) := by
  rcases p.exists_variable_or_isConcrete with ⟨v, rfl⟩ | hconcrete
  · exact h.extend hρ (hp v rfl) ht
  · rw [Term.rename_of_isConcrete hconcrete, matchTerm_of_isConcrete hconcrete,
      matchTerm_of_isConcrete hconcrete]
    split
    · exact .some h
    · exact .none

theorem matchTriple (hvars : ∀ v ∈ pattern.vars, v ∈ V) (hc : candidate.isConcrete = true) :
    Option.Rel (Renames ρ V) (b.matchTriple pattern candidate)
      (b'.matchTriple (pattern.rename ρ) candidate) := by
  have hterm : ∀ u ∈ pattern.terms, ∀ v, u = .variable v → v ∈ V := fun u hu v hv =>
    hvars v (Triple.mem_vars.mpr (hv ▸ hu))
  have hconcrete := Triple.isConcrete_iff.mp hc
  simp only [Triple.terms, List.forall_mem_cons] at hterm hconcrete
  obtain ⟨hs, hp, ho, -⟩ := hterm
  obtain ⟨hs', hp', ho', -⟩ := hconcrete
  exact rel_bind (h.matchTerm hρ hs hs') fun _ _ h => rel_bind (h.matchTerm hρ hp hp') fun _ _ h =>
    h.matchTerm hρ ho ho'

end

end Renames

end Binding

-- ---------------------------------------------------------------------------
-- Bodies
-- ---------------------------------------------------------------------------

namespace Body

open Binding (Renames)

variable {b b' : Binding}

theorem matchPattern_rename (hρ : Set.InjOn ρ V) (h : Renames ρ V b b') {t : Triple}
    (hvars : ∀ v ∈ t.vars, v ∈ V) :
    List.Forall₂ (Renames ρ V) (matchPattern g b t) (matchPattern g b' (t.rename ρ)) := by
  simp only [matchPattern, h.substitute hvars, Triple.slots_rename]
  -- the same triples are tried
  refine List.rel_filterMap (R := fun u u' => u = u' ∧ u ∈ g.toList) ?_
    (List.forall₂_same.mpr fun u hu => ⟨rfl, ?_⟩)
  · rintro u _ ⟨rfl, hu⟩
    exact h.matchTriple hρ (h.vars_substitute hvars) (Graph.isConcrete_of_mem hu)
  · rw [Graph.find_eq_filter] at hu
    exact (List.mem_filter.mp hu).1

theorem holds_rename (h : Renames ρ V b b') {e : Expr} (hvars : ∀ v ∈ e.vars, v ∈ V) :
    holds functions e b = true ↔ holds functions (e.rename ρ) b' = true := by
  have heval : Except.Related Eq (e.eval functions b) ((e.rename ρ).eval functions b') :=
    Expr.eval_rename e fun v hv => h.get?_eq v (hvars v hv)
  rw [holds_iff, holds_iff]
  exact (Expr.truth_related heval).ok_iff

theorem assign_rename (hρ : Set.InjOn ρ V) (hf : functions.KeepsConcrete) (h : Renames ρ V b b')
    {v : Variable} (hv : v ∈ V) {e : Expr} (hvars : ∀ v ∈ e.vars, v ∈ V) :
    Option.Rel (Renames ρ V) (assign functions v e b) (assign functions (ρ v) (e.rename ρ) b') := by
  have heval : Except.Related Eq (e.eval functions b) ((e.rename ρ).eval functions b') :=
    Expr.eval_rename e fun v hv => h.get?_eq v (hvars v hv)
  simp only [assign]
  generalize hvalue : e.eval functions b = x at heval
  generalize (e.rename ρ).eval functions b' = y at heval
  cases heval with
  | ok heq =>
    subst heq
    exact h.extend hρ hv (Expr.isConcrete_of_eval hf h.concrete e hvalue)
  | error _ _ => exact .none

theorem isEmpty_iff {chain chain' : List Binding} (h : List.Forall₂ (Renames ρ V) chain chain') :
    chain.isEmpty = true ↔ chain'.isEmpty = true := by
  rw [List.isEmpty_iff_length_eq_zero, List.isEmpty_iff_length_eq_zero, h.length_eq]

mutual

theorem step_rename (hρ : Set.InjOn ρ V) (hf : functions.KeepsConcrete) :
    ∀ (e : BodyElement) {chain chain' : List Binding}, (∀ v ∈ e.vars, v ∈ V) →
      List.Forall₂ (Renames ρ V) chain chain' →
        List.Forall₂ (Renames ρ V) (step functions g e chain) (step functions g (e.rename ρ) chain')
  | .pattern _, _, _, hvars, h => List.rel_flatMap h fun _ _ hb => matchPattern_rename hρ hb hvars
  | .condition _, _, _, hvars, h =>
    List.rel_filter (R := Renames ρ V) (fun _ _ hb => holds_rename hb hvars) h
  | .assignment _ _, _, _, hvars, h =>
    have ⟨hv, he⟩ := List.forall_mem_cons.mp hvars
    List.rel_filterMap (R := Renames ρ V) (fun _ _ hb => assign_rename hρ hf hb hv he) h
  | .negation body, _, _, hvars, h =>
    List.rel_filter (R := Renames ρ V)
      (fun _ _ hb => isEmpty_iff (steps_rename hρ hf body hvars (.cons hb .nil))) h

/-- A body finds solutions that give the renamed variables the same terms, one by one. -/
theorem steps_rename (hρ : Set.InjOn ρ V) (hf : functions.KeepsConcrete) :
    ∀ (body : List BodyElement) {chain chain' : List Binding},
      (∀ v ∈ BodyElement.varsOfBody body, v ∈ V) → List.Forall₂ (Renames ρ V) chain chain' →
        List.Forall₂ (Renames ρ V) (steps functions g body chain)
          (steps functions g (BodyElement.renameBody ρ body) chain')
  | [], _, _, _, h => h
  | e :: rest, _, _, hvars, h =>
    steps_rename hρ hf rest (fun v hv => hvars v (List.mem_append_right _ hv))
      (step_rename hρ hf e (fun v hv => hvars v (List.mem_append_left _ hv)) h)

end

end Body

-- ---------------------------------------------------------------------------
-- Rules
-- ---------------------------------------------------------------------------

theorem Rule.Renames.instances {r r' : Rule} (h : r.Renames r') (hf : functions.KeepsConcrete)
    (g : Graph) :
    List.Forall₂ (fun b b' => ∀ ts, r.instantiate b = .ok ts → r'.instantiate b' = .ok ts)
      (r.solutions functions g) (r'.solutions functions g) := by
  obtain ⟨ρ, hρ, hhead, hbody⟩ := h
  have hstart : List.Forall₂ (Binding.Renames ρ {v | v ∈ r.vars}) [.empty] [.empty] :=
    .cons Binding.renames_empty .nil
  have hsolutions := Body.steps_rename (g := g) hρ hf r.body
    (fun v hv => List.mem_append_right _ hv) hstart
  rw [solutions, solutions, Body.solve, Body.solve, hbody]
  refine hsolutions.imp fun b b' hb ts hts => ?_
  have hvars : ∀ template ∈ r.head, ∀ v ∈ template.vars, v ∈ r.vars := fun template ht v hv =>
    List.mem_append_left _ (List.mem_flatMap.mpr ⟨template, ht, hv⟩)
  obtain ⟨hconcrete, rfl⟩ := instantiate_ok.mp hts
  rw [instantiate_ok, hhead, List.forall_mem_map, List.map_map]
  refine ⟨fun template ht => ?_, List.map_congr_left fun template ht => ?_⟩
  · rw [hb.substitute (hvars template ht), Triple.isConcrete_rename]
    exact hconcrete template ht
  · rw [Function.comp_apply, hb.substitute (hvars template ht),
      Triple.rename_of_isConcrete (hconcrete template ht)]

end TripleRules
