import Mathlib.Data.List.Flatten
import Mathlib.Data.List.Perm.Subperm
import TripleRules.Proofs.Engine.LeastModel

/-!
# Triples that a rule does not depend on

Evaluation lists the solutions of a body, and may list one several times. Where
patterns match at least the same triples outside negations, and the same inside, it
lists all that it listed before, each at least as often (`Body.steps_subperm`). So
the triples that a rule produces leave alone every rule that does not depend on it.
-/

namespace TripleRules

-- ---------------------------------------------------------------------------
-- Lists within others, but for the order
-- ---------------------------------------------------------------------------

section
variable {α β : Type} {l l' : List α}

theorem subperm_filterMap (f : α → Option β) (h : l.Subperm l') :
    (l.filterMap f).Subperm (l'.filterMap f) := by
  obtain ⟨mid, hperm, hsub⟩ := h
  exact ⟨mid.filterMap f, hperm.filterMap f, hsub.filterMap f⟩

theorem subperm_flatMap {f f' : α → List β} (h : l.Subperm l')
    (hf : ∀ a ∈ l, (f a).Subperm (f' a)) : (l.flatMap f).Subperm (l'.flatMap f') := by
  have hpointwise : (l.flatMap f).Subperm (l.flatMap f') := by
    clear h
    induction l with
    | nil => exact .refl _
    | cons a rest ih =>
      exact (hf a List.mem_cons_self).append (ih fun b hb => hf b (List.mem_cons_of_mem _ hb))
  obtain ⟨mid, hperm, hsub⟩ := h
  exact hpointwise.trans ⟨mid.flatMap f', hperm.flatMap_right f', hsub.flatMap f'⟩

end

-- ---------------------------------------------------------------------------
-- Bodies
-- ---------------------------------------------------------------------------

namespace Body

variable {functions : FunctionRegistry} {g g' : Graph} {b : Binding} {p : Triple} {sign : Sign}
  {chain chain' : List Binding}

open Dependency (signedPatterns signedPatternsOfBody)

theorem matchPattern_eq_filterMap (g : Graph) (b : Binding) (p : Triple) :
    matchPattern g b p =
      (g.toList.filter fun t => (b.matchTriple (b.substitute p) t).isSome).filterMap
        (b.matchTriple (b.substitute p)) := by
  rw [matchPattern_eq, List.filterMap_filter]
  refine List.filterMap_congr fun t _ => ?_
  cases b.matchTriple (b.substitute p) t <;> simp

theorem matchPattern_subperm (h : ∀ t, p.Matches t → t ∈ g.facts → t ∈ g'.facts) :
    (matchPattern g b p).Subperm (matchPattern g' b p) := by
  rw [matchPattern_eq_filterMap, matchPattern_eq_filterMap]
  refine subperm_filterMap _ (List.subperm_of_subset (g.nodup_toList.filter _) fun t ht => ?_)
  obtain ⟨hmem, hsome⟩ := List.mem_filter.mp ht
  obtain ⟨c, hc⟩ := Option.isSome_iff_exists.mp hsome
  exact List.mem_filter.mpr ⟨h t ⟨b, c, hc⟩ hmem, hsome⟩

theorem isEmpty_steps_congr {body : List BodyElement}
    (h : Carries (fun _ => g.facts) (fun _ => g'.facts) (signedPatternsOfBody .negative body)) :
    (steps functions g body [b]).isEmpty = (steps functions g' body [b]).isEmpty := by
  have hback := h.symm fun _ => sign_of_mem_signedPatternsOfBody body
  rw [Bool.eq_iff_iff]
  simp only [List.isEmpty_iff, List.eq_nil_iff_forall_not_mem, mem_steps body .negative,
    List.mem_singleton, exists_eq_left]
  exact ⟨fun hnone d hd => hnone d (Solves.imp body hback hd),
    fun hnone d hd => hnone d (Solves.imp body h hd)⟩

theorem step_subperm {e : BodyElement}
    (h : Carries (fun _ => g.facts) (fun _ => g'.facts) (signedPatterns sign e))
    (hchain : chain.Subperm chain') :
    (step functions g e chain).Subperm (step functions g' e chain') := by
  cases e with
  | pattern t =>
    exact subperm_flatMap hchain fun b _ =>
      matchPattern_subperm (h.forth (sign, t) List.mem_cons_self)
  | condition e => exact hchain.filter _
  | assignment v e => exact subperm_filterMap _ hchain
  | negation body =>
    simp only [step, isEmpty_steps_congr h]
    exact hchain.filter _

theorem steps_subperm {body : List BodyElement}
    (h : Carries (fun _ => g.facts) (fun _ => g'.facts) (signedPatternsOfBody sign body))
    (hchain : chain.Subperm chain') :
    (steps functions g body chain).Subperm (steps functions g' body chain') := by
  induction body generalizing chain chain' with
  | nil => exact hchain
  | cons e rest ih =>
    exact ih (h.subset (List.subset_append_right _ _))
      (step_subperm (h.subset (List.subset_append_left _ _)) hchain)

end Body

-- ---------------------------------------------------------------------------
-- Rules
-- ---------------------------------------------------------------------------

namespace Rule

variable {functions : FunctionRegistry} {g g' : Graph} {r : Rule}

open Dependency (signedPatternsOfBody)

theorem solutions_subperm
    (h : Body.Carries (fun _ => g.facts) (fun _ => g'.facts)
      (signedPatternsOfBody .positive r.body)) :
    (r.solutions functions g).Subperm (r.solutions functions g') :=
  Body.steps_subperm h (.refl _)

theorem solutions_perm (h : ∀ q ∈ signedPatternsOfBody .positive r.body,
      ∀ t, q.2.Matches t → (t ∈ g.facts ↔ t ∈ g'.facts)) :
    (r.solutions functions g).Perm (r.solutions functions g') :=
  have hsub := solutions_subperm
    ⟨fun q hq t ht => (h q hq t ht).mp, fun q hq _ t ht => (h q hq t ht).mpr⟩
  have hsub' := solutions_subperm
    ⟨fun q hq t ht => (h q hq t ht).mpr, fun q hq _ t ht => (h q hq t ht).mp⟩
  hsub.antisymm hsub'

end Rule

namespace DependencyGraph

variable {s : RuleSet} {r : Rule} {functions : FunctionRegistry} {g g' : Graph} {added : Set Triple}

/-- Triples that a rule produces do not change what another finds, nor how often, unless
the other depends on the rule; without a negative dependency all that it found is still
found. An independent rule finds the same whatever the rules produce. -/
theorem solutions_of_produced (functions : FunctionRegistry) (hr : r ∈ s.rules)
    (hunion : g'.facts = g.facts ∪ added) :
    (∀ q ∈ s.rules, (∀ t ∈ added, q.Produces t) →
      ((∀ sign, ⟨r.id, sign, q.id⟩ ∉ (ofRules s).edges) →
        (r.solutions functions g).Perm (r.solutions functions g')) ∧
      (⟨r.id, .negative, q.id⟩ ∉ (ofRules s).edges →
        (r.solutions functions g).Subperm (r.solutions functions g'))) ∧
    ((ofRules s).isIndependent r.id = true → (∀ t ∈ added, ∃ q ∈ s.rules, q.Produces t) →
      (r.solutions functions g).Perm (r.solutions functions g')) := by
  have hsub : g.facts ⊆ g'.facts := hunion ▸ Set.subset_union_left
  -- a pattern that matches something new has an edge to what produced it
  have hedge : ∀ p ∈ Dependency.signedPatternsOfBody .positive r.body, ∀ t, p.2.Matches t →
      t ∈ g'.facts → t ∉ g.facts → ∀ q ∈ s.rules, (t ∈ added → q.Produces t) →
        ⟨r.id, p.1, q.id⟩ ∈ (ofRules s).edges := by
    intro p hp t hmatch ht hnot q hq hproduces
    rw [hunion] at ht
    exact mem_edges_of_matches hr hq hp hmatch (hproduces (ht.resolve_left hnot))
  refine ⟨fun q hq hproduces => ⟨fun hnone => ?_, fun hnegative => ?_⟩, fun hfree hproduces => ?_⟩
  · refine Rule.solutions_perm fun p hp t hmatch => ⟨fun ht => hsub ht, fun ht => ?_⟩
    by_contra hnot
    exact hnone _ (hedge p hp t hmatch ht hnot q hq (hproduces t))
  · refine Rule.solutions_subperm
      ⟨fun p hp t hmatch ht => hsub ht, fun p hp hsign t hmatch ht => ?_⟩
    by_contra hnot
    exact hnegative (hsign ▸ hedge p hp t hmatch ht hnot q hq (hproduces t))
  · refine Rule.solutions_perm fun p hp t hmatch => ⟨fun ht => hsub ht, fun ht => ?_⟩
    by_contra hnot
    have hadded : t ∈ added := (hunion ▸ ht : t ∈ g.facts ∪ added).resolve_left hnot
    obtain ⟨q, hq, hproduces⟩ := hproduces t hadded
    exact (isIndependent_iff (List.mem_map_of_mem hr)).mp hfree _ _
      (hedge p hp t hmatch ht hnot q hq fun _ => hproduces)

/-- That somebody is childless does not matter to who is a parent. -/
theorem solutions_of_produced_childless :
    ∃ r ∈ Engine.childless.rules, ∃ q ∈ Engine.childless.rules,
    ∃ (g g' : Graph) (added : Set Triple), g'.facts = g.facts ∪ added ∧ added.Nonempty ∧
      (∀ t ∈ added, q.Produces t) ∧
      (∀ sign, ⟨r.id, sign, q.id⟩ ∉ (ofRules Engine.childless).edges) ∧
      r.solutions .standard g ≠ [] ∧
      (r.solutions .standard g).Perm (r.solutions .standard g') := by
  let child : Triple := ⟨.ofIri "ann", .ofIri "child", .ofIri "bob"⟩
  let fact : Triple := ⟨.ofIri "bob", .ofIri "is", .ofIri "childless"⟩
  let g : Graph := .ofStore (Store.empty.addAll [child]).1
  let g' : Graph := .ofStore (Store.empty.addAll [child, fact]).1
  have hg : g.toList = [child] := by decide +kernel
  have hg' : g'.toList = [child, fact] := by decide +kernel
  have hunion : g'.facts = g.facts ∪ {fact} := by
    ext t
    simp only [Graph.facts, hg, hg', List.mem_cons, List.not_mem_nil, or_false,
      Set.mem_ofPred_eq, Set.mem_union, Set.mem_singleton_iff]
  have hparent : Engine.childless.rules[0] ∈ Engine.childless.rules := List.getElem_mem (by decide)
  have hother : Engine.childless.rules[1] ∈ Engine.childless.rules := List.getElem_mem (by decide)
  have hproduces : ∀ t ∈ ({fact} : Set Triple), Engine.childless.rules[1].Produces t := by
    rintro _ rfl
    exact ⟨Binding.empty.insert ⟨"x"⟩ (.ofIri "bob"), _, List.mem_cons_self, by decide +kernel⟩
  have hnone : ∀ sign, ⟨Engine.childless.rules[0].id, sign, Engine.childless.rules[1].id⟩ ∉
      (ofRules Engine.childless).edges := by
    intro sign
    cases sign <;> decide +kernel
  exact ⟨_, hparent, _, hother, g, g', {fact}, hunion, Set.singleton_nonempty fact, hproduces,
    hnone, by decide +kernel,
    ((solutions_of_produced .standard hparent hunion).1 _ hother hproduces).1 hnone⟩

end DependencyGraph

end TripleRules
