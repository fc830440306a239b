import Mathlib.Data.Finite.Prod
import Mathlib.Data.Set.Finite.Lattice
import TripleRules.Proofs.Dependency.Recursion
import TripleRules.Proofs.Engine.Stratum
import TripleRules.Proofs.Scope

/-!
# Finite sets closed under rules

If recursive rules assign nothing, finitely many triples lie in a finite set that is
closed under all rules, however negations are judged (`exists_finite_closed`). The set
is built height by height. A rule that is not recursive reads nothing of its own height, so
it adds the instances of finitely many solutions. Recursive rules of that height
assign nothing, so whatever they add has terms that are there already or stand in
their templates, and there are finitely many triples of these.
-/

namespace TripleRules

variable {functions : FunctionRegistry} {S T U : Set Triple} {r : Rule}

-- ---------------------------------------------------------------------------
-- Finitely many solutions
-- ---------------------------------------------------------------------------

namespace Triple

theorem finite_of_terms {terms : Set Term} (h : terms.Finite) :
    {t : Triple | ∀ u ∈ t.terms, u ∈ terms}.Finite := by
  refine ((h.prod (h.prod h)).image fun x => Triple.mk x.1 x.2.1 x.2.2).subset ?_
  rintro ⟨subject, predicate, object⟩ ht
  simp only [Triple.terms, Set.mem_ofPred_eq, List.mem_cons, List.not_mem_nil, or_false,
    forall_eq_or_imp, forall_eq] at ht
  exact ⟨(subject, predicate, object), ht, rfl⟩

theorem finite_terms (t : Triple) : {u | u ∈ t.terms}.Finite := t.terms.finite_toSet

end Triple

namespace Body

theorem finite_extends (functions : FunctionRegistry) (hU : U.Finite) (e : BodyElement)
    (b : Binding) : {c | ∃ judged, Extends functions (reading U judged) .positive e b c}.Finite := by
  cases e with
  | pattern p =>
    have himage := (hU.image (b.matchTriple (b.substitute p))).preimage
      (Option.some_injective Binding).injOn
    refine himage.subset ?_
    rintro c ⟨judged, t, ht, hmatch⟩
    exact ⟨t, ht, hmatch⟩
  | condition e =>
    refine (Set.finite_singleton b).subset ?_
    rintro c ⟨judged, -, rfl⟩
    rfl
  | assignment v e =>
    refine (Set.finite_singleton (assign functions v e b)).preimage
      (Option.some_injective Binding).injOn |>.subset ?_
    rintro c ⟨judged, hassign⟩
    exact hassign.symm
  | negation body =>
    refine (Set.finite_singleton b).subset ?_
    rintro c ⟨judged, -, rfl⟩
    rfl

/-- Finitely many triples allow finitely many solutions, even if negations may be judged
in any way. -/
theorem finite_solves (functions : FunctionRegistry) (hU : U.Finite) (body : List BodyElement)
    (b : Binding) :
    {c | ∃ judged, Solves functions (reading U judged) .positive body b c}.Finite := by
  induction body generalizing b with
  | nil =>
    refine (Set.finite_singleton b).subset ?_
    rintro c ⟨judged, rfl⟩
    rfl
  | cons e rest ih =>
    refine ((finite_extends functions hU e b).biUnion fun d _ => ih d).subset ?_
    rintro c ⟨judged, d, hextends, hsolves⟩
    exact Set.mem_biUnion ⟨judged, hextends⟩ ⟨judged, hsolves⟩

end Body

namespace Rule

/-- What a rule derives from some triples, if negations may be judged in any way. -/
def instances (functions : FunctionRegistry) (U : Set Triple) (r : Rule) : Set Triple :=
  {t | ∃ judged b, Body.Solves functions (Body.reading U judged) .positive r.body .empty b ∧
    ∃ template ∈ r.head, b.substitute template = t}

theorem finite_instances (functions : FunctionRegistry) (hU : U.Finite) (r : Rule) :
    (r.instances functions U).Finite := by
  refine ((Body.finite_solves functions hU r.body .empty).biUnion fun b _ =>
    (r.head.finite_toSet.image b.substitute)).subset ?_
  rintro t ⟨judged, b, hsolves, template, htemplate, rfl⟩
  exact Set.mem_biUnion ⟨judged, hsolves⟩ ⟨template, htemplate, rfl⟩

theorem mem_instances_of_derives {g : Graph} {t : Triple} (h : r.Derives functions g t)
    (hU : g.facts ⊆ U) : t ∈ r.instances functions U := by
  obtain ⟨b, hsolves, hhead⟩ := derives_iff.mp h
  refine ⟨g.facts, b, Body.Solves.of_reading (fun _ _ _ _ ht => hU ht) ?_, hhead⟩
  refine (Body.solves_congr fun q _ t _ => ?_).mp hsolves
  cases q.1 with
  | positive => exact Iff.rfl
  | negative => exact Iff.rfl

theorem produces_of_instances {t : Triple} (h : t ∈ r.instances functions U) : r.Produces t :=
  have ⟨_, b, _, hhead⟩ := h
  ⟨b, hhead⟩

theorem instances_subset
    (h : ∀ p, (.positive, p) ∈ Dependency.signedPatternsOfBody .positive r.body →
      ∀ t, p.Matches t → t ∈ S → t ∈ T) :
    r.instances functions S ⊆ r.instances functions T := by
  rintro t ⟨judged, b, hsolves, hhead⟩
  exact ⟨judged, b, hsolves.of_reading h, hhead⟩

theorem terms_of_instances {terms : Set Term} (hassign : ∀ v e, .assignment v e ∉ r.body)
    (hU : ∀ t ∈ U, ∀ u ∈ t.terms, u ∈ terms)
    (hhead : ∀ template ∈ r.head, ∀ u ∈ template.terms, u ∈ terms) {t : Triple}
    (h : t ∈ r.instances functions U) : ∀ u ∈ t.terms, u ∈ terms := by
  obtain ⟨judged, b, hsolves, template, htemplate, rfl⟩ := h
  have hterms : b.Forall (· ∈ terms) := hsolves.forall hU
    (fun v e he => absurd he (hassign v e)) (Binding.forall_empty _)
  exact hterms.substitute fun u hu _ => hhead template htemplate u hu

end Rule

-- ---------------------------------------------------------------------------
-- Height by height
-- ---------------------------------------------------------------------------

namespace RuleSet

open DependencyGraph (height)

variable {s : RuleSet} {start : Set Triple} {n : Nat}

structure ClosedBelow (functions : FunctionRegistry) (s : RuleSet) (start : Set Triple) (n : Nat)
    (U : Set Triple) : Prop where
  finite : U.Finite
  subset : start ⊆ U
  closed : ∀ r ∈ s.rules, height s r.id < n → r.instances functions U ⊆ U

def plainInstances (functions : FunctionRegistry) (s : RuleSet) (n : Nat) (U : Set Triple) :
    Set Triple :=
  {t | ∃ r ∈ s.rules, height s r.id = n ∧ ¬ (DependencyGraph.ofRules s).OnCycle r.id ∧
    t ∈ r.instances functions U}

def knownTerms (s : RuleSet) (U : Set Triple) : Set Term :=
  {u | (∃ t ∈ U, u ∈ t.terms) ∨ ∃ r ∈ s.rules, ∃ template ∈ r.head, u ∈ template.terms}

def recursiveTriples (s : RuleSet) (n : Nat) (U : Set Triple) : Set Triple :=
  {t | (∀ u ∈ t.terms, u ∈ s.knownTerms U) ∧
    ∃ r ∈ s.rules, height s r.id = n ∧ (DependencyGraph.ofRules s).OnCycle r.id ∧ r.Produces t}

theorem finite_plainInstances (hU : U.Finite) : (s.plainInstances functions n U).Finite := by
  refine (s.rules.finite_toSet.biUnion fun r _ => r.finite_instances functions hU).subset ?_
  rintro t ⟨r, hr, -, -, ht⟩
  exact Set.mem_biUnion hr ht

theorem finite_knownTerms (hU : U.Finite) : (s.knownTerms U).Finite := by
  have htriples := hU.biUnion fun t _ => t.finite_terms
  have htemplates := (s.rules.flatMap Rule.head).finite_toSet.biUnion fun t _ => t.finite_terms
  refine (htriples.union htemplates).subset ?_
  rintro u (⟨t, ht, hu⟩ | ⟨r, hr, template, htemplate, hu⟩)
  · exact .inl (Set.mem_biUnion ht hu)
  · exact .inr (Set.mem_biUnion (List.mem_flatMap.mpr ⟨r, hr, htemplate⟩) hu)

theorem finite_recursiveTriples (hU : U.Finite) : (s.recursiveTriples n U).Finite :=
  (Triple.finite_of_terms (finite_knownTerms hU)).subset fun _ ht => ht.1

/-- The set with what the rules of one more height add. -/
def addHeight (functions : FunctionRegistry) (s : RuleSet) (n : Nat) (U : Set Triple) :
    Set Triple :=
  U ∪ s.plainInstances functions n U ∪
    s.recursiveTriples n (U ∪ s.plainInstances functions n U)

theorem subset_addHeight : U ⊆ s.addHeight functions n U := fun _ ht => .inl (.inl ht)

theorem produced_of_mem_addHeight {t : Triple} (ht : t ∈ s.addHeight functions n U) (hnot : t ∉ U) :
    ∃ q ∈ s.rules, height s q.id = n ∧ q.Produces t := by
  rcases ht with (ht | ⟨q, hq, hheight, -, hinstance⟩) | ⟨-, q, hq, hheight, -, hproduces⟩
  · exact absurd ht hnot
  · exact ⟨q, hq, hheight, Rule.produces_of_instances hinstance⟩
  · exact ⟨q, hq, hheight, hproduces⟩

theorem instances_addHeight (hr : r ∈ s.rules) (hheight : height s r.id ≤ n)
    (hplain : height s r.id = n → ¬ (DependencyGraph.ofRules s).OnCycle r.id) :
    r.instances functions (s.addHeight functions n U) ⊆ r.instances functions U := by
  refine Rule.instances_subset fun p hp t hmatch ht => ?_
  by_contra hnot
  obtain ⟨q, hq, hqheight, hproduces⟩ := produced_of_mem_addHeight ht hnot
  have hedge := DependencyGraph.mem_edges_of_matches hr hq hp hmatch hproduces
  rcases DependencyGraph.height_of_mem_edges hedge with hlt | ⟨heq, hcycle, -⟩
  · omega
  · exact hplain (heq.symm.trans hqheight) hcycle

section
variable (hassign : ∀ r ∈ s.rules, (DependencyGraph.ofRules s).OnCycle r.id →
  ∀ v e, .assignment v e ∉ r.body)
include hassign

theorem ClosedBelow.addHeight (h : ClosedBelow functions s start n U) :
    ClosedBelow functions s start (n + 1) (s.addHeight functions n U) where
  finite :=
    have hplain := h.finite.union (finite_plainInstances h.finite)
    hplain.union (finite_recursiveTriples hplain)
  subset := h.subset.trans subset_addHeight
  closed r hr hlt := by
    intro t ht
    rcases Nat.lt_or_eq_of_le (Nat.le_of_lt_succ hlt) with hlower | hheight
    · have hold := instances_addHeight hr (Nat.le_of_lt hlower) (fun heq => by omega) ht
      exact subset_addHeight (h.closed r hr hlower hold)
    · by_cases hcycle : (DependencyGraph.ofRules s).OnCycle r.id
      · refine .inr ⟨?_, r, hr, hheight, hcycle, Rule.produces_of_instances ht⟩
        refine Rule.terms_of_instances (hassign r hr hcycle) ?_ ?_ ht
        · rintro t' (ht' | ⟨hterms, -⟩) u hu
          · exact .inl ⟨t', ht', hu⟩
          · exact hterms u hu
        · intro template htemplate u hu
          exact .inr ⟨r, hr, template, htemplate, hu⟩
      · have hold := instances_addHeight hr (Nat.le_of_eq hheight) (fun _ => hcycle) ht
        exact .inl (.inr ⟨r, hr, hheight, hcycle, hold⟩)

theorem exists_closedBelow (functions : FunctionRegistry) (hstart : start.Finite) (n : Nat) :
    ∃ U, ClosedBelow functions s start n U := by
  induction n with
  | zero =>
    exact ⟨start, hstart, subset_rfl, fun r _ hlt => absurd hlt (Nat.not_lt_zero _)⟩
  | succ n ih =>
    obtain ⟨U, hU⟩ := ih
    exact ⟨_, .addHeight hassign hU⟩

/-- Finitely many triples lie in a finite set that no rule leaves, if recursive rules
assign nothing. -/
theorem exists_finite_closed (functions : FunctionRegistry) (hstart : start.Finite) :
    ∃ U : Set Triple, U.Finite ∧ start ⊆ U ∧ ∀ r ∈ s.rules, r.instances functions U ⊆ U := by
  obtain ⟨U, hU⟩ := exists_closedBelow hassign functions hstart (s.size + 1)
  exact ⟨U, hU.finite, hU.subset, fun r hr => hU.closed r hr (Nat.lt_succ_of_le
    DependencyGraph.height_le_size)⟩

end

end RuleSet

end TripleRules
