import TripleRules.Proofs.Engine.StableModel

/-!
# Evaluation in two steps

Rules that others do not depend on can be left for later. What they produce matches no
pattern of the others, not even in a negation, so the others come to the same triples
without them, and add nothing once these are there. Evaluating one part of the rules and
then the other on what that gave outputs what all of them do at once (`evaluate_split`).
-/

namespace TripleRules

open Dependency (signedPatternsOfBody)

/-- Two rule sets have the rules of a third between them, and no rule of the lower one
depends on a rule of the upper one. -/
structure RuleSet.Splits (s lower upper : RuleSet) : Prop where
  perm : (lower.rules ++ upper.rules).Perm s.rules
  independent : ∀ r ∈ lower.rules, ∀ q ∈ upper.rules, ∀ sign,
    ⟨r.id, sign, q.id⟩ ∉ (DependencyGraph.ofRules s).edges

namespace RuleSet.Splits

variable {functions : FunctionRegistry} {s lower upper : RuleSet} {start M : Set Triple}
  {r q : Rule} {p u : Triple} {sign : Sign}
  (h : s.Splits lower upper)
include h

theorem mem_rules_iff : r ∈ s.rules ↔ r ∈ lower.rules ∨ r ∈ upper.rules := by
  rw [← h.perm.mem_iff, List.mem_append]

theorem not_produces (hr : r ∈ lower.rules) (hq : q ∈ upper.rules)
    (hp : (sign, p) ∈ signedPatternsOfBody .positive r.body) (hmatch : p.Matches u) :
    ¬ q.Produces u := fun hproduces =>
  h.independent r hr q hq sign (DependencyGraph.mem_edges_of_matches
    (h.mem_rules_iff.mpr (.inl hr)) (h.mem_rules_iff.mpr (.inr hq)) hp hmatch hproduces)

variable (hM : s.IsStable functions start M)
include hM

theorem closure_lower_subset : lower.closure functions M start ⊆ M :=
  closure_subset hM.start_subset fun _ hr _ hinfers =>
    hM.mem_of_infers (h.mem_rules_iff.mpr (.inl hr)) hinfers

theorem mem_closure_lower (hr : r ∈ lower.rules)
    (hp : (sign, p) ∈ signedPatternsOfBody .positive r.body) (hmatch : p.Matches u) (hu : u ∈ M) :
    u ∈ lower.closure functions M start := by
  by_contra hnot
  have hlower : ∀ r ∈ s.rules, ¬ r ∈ upper.rules → r ∈ lower.rules := fun r hr hupper =>
    (h.mem_rules_iff.mp hr).resolve_right hupper
  obtain ⟨q, -, hq, hproduces⟩ := hM.exists_produces (P := (· ∈ upper.rules)) subset_closure
    (h.closure_lower_subset hM)
    (fun r hr hupper p hp u hmatch q _ hq => h.not_produces (hlower r hr hupper) hq hp hmatch)
    (fun r hr hupper u hinfers => mem_closure_of_infers (hlower r hr hupper) hinfers) u hu hnot
  exact h.not_produces hr hq hp hmatch hproduces

theorem isStable_lower : lower.IsStable functions start (lower.closure functions M start) := by
  refine closure_congr fun r hr p hp u hmatch => ?_
  exact ⟨fun hu => h.closure_lower_subset hM hu, h.mem_closure_lower hM hr hp hmatch⟩

theorem isStable_upper : upper.IsStable functions (lower.closure functions M start) M := by
  have hsub : upper.closure functions M (lower.closure functions M start) ⊆ M :=
    closure_subset (h.closure_lower_subset hM) fun r hr u hinfers =>
      hM.mem_of_infers (h.mem_rules_iff.mpr (.inr hr)) hinfers
  refine hsub.antisymm (hM.subset_of_closed (subset_closure.trans subset_closure) ?_)
  intro r hr u hinfers
  rcases h.mem_rules_iff.mp hr with hlower | hupper
  · refine subset_closure (mem_closure_of_infers hlower
      (hinfers.imp (fun p hp v hmatch hv => ?_) fun _ _ _ _ => Iff.rfl))
    exact h.mem_closure_lower hM hlower hp hmatch (hsub hv)
  · exact mem_closure_of_infers hupper hinfers

end RuleSet.Splits

namespace Engine

variable {functions : FunctionRegistry} {rules lower upper : RuleSet} {prepared : Engine}
  {base : Graph} {fuel : Nat} {found : Evaluation}

/-- Let no rule of the lower part depend on a rule of the upper part. If an evaluation of
all rules succeeds, so do those of the lower part and of the upper part on its output, and
the latter outputs what all rules did. -/
theorem evaluate_split (hprepare : prepare rules = .ok prepared) (hdata : rules.data = [])
    (hlower : lower.data = []) (hupper : upper.data = []) (hsplit : rules.Splits lower upper)
    {settings : EngineSettings} (hmax : settings.maxRounds = 0)
    (h : (prepared.configure settings functions).evaluate fuel base = some (.ok found)) :
    ∃ low up, prepare lower = .ok low ∧ prepare upper = .ok up ∧ ∃ n found₁ found₂,
      (∀ fuel, n ≤ fuel →
        (low.configure settings functions).evaluate fuel base = some (.ok found₁)) ∧
      (∀ fuel, n ≤ fuel →
        (up.configure settings functions).evaluate fuel (.ofStore found₁.output) =
          some (.ok found₂)) ∧
      ∀ t, t ∈ found₂.output.toList ↔ t ∈ found.output.toList := by
  obtain ⟨low, hlow⟩ : ∃ low, prepare lower = .ok low :=
    prepare_of_forms (fun r hr => ⟨r, hsplit.mem_rules_iff.mpr (.inl hr), rfl⟩) (by simp [hlower])
      hprepare
  obtain ⟨up, hup⟩ : ∃ up, prepare upper = .ok up :=
    prepare_of_forms (fun r hr => ⟨r, hsplit.mem_rules_iff.mpr (.inr hr), rfl⟩) (by simp [hupper])
      hprepare
  have hM := isStable_of_evaluate hprepare h
  have hstart : base.facts ∪ {t | t ∈ rules.data} = base.facts ∪ {t | t ∈ lower.data} := by
    rw [hdata, hlower]
  rw [hstart] at hM
  obtain ⟨n₁, found₁, hfound₁, hout₁⟩ := evaluate_of_isStable hlow hmax
    (hsplit.isStable_lower hM) (hsplit.closure_lower_subset hM)
  -- the upper part begins with what the lower part comes to
  have hbegin : (Graph.ofStore found₁.output).facts ∪ {t | t ∈ upper.data} =
      {t | t ∈ found₁.output.toList} := by
    ext t
    simp [Graph.facts, Graph.toList_ofStore, hupper]
  have hM₂ := hsplit.isStable_upper hM
  rw [← hout₁, ← hbegin] at hM₂
  obtain ⟨n₂, found₂, hfound₂, hout₂⟩ := evaluate_of_isStable hup hmax hM₂ subset_rfl
  exact ⟨low, up, hlow, hup, max n₁ n₂, found₁, found₂,
    fun fuel hfuel => hfound₁ fuel (le_of_max_le_left hfuel),
    fun fuel hfuel => hfound₂ fuel (le_of_max_le_right hfuel), Set.ext_iff.mp hout₂⟩

/-- The rules of `childless`, from the given one up to but not including the other. -/
def childlessPart (i j : Nat) : RuleSet where
  rules := (childless.rules.take j).drop i
  data := []
  distinct := childless.distinct.sublist
    (((List.drop_sublist i _).trans (List.take_sublist j _)).map Rule.id)

theorem childlessPart_splits :
    (childlessPart 0 2).Splits (childlessPart 0 1) (childlessPart 1 2) where
  perm := .refl _
  independent := by
    have hedges : (DependencyGraph.ofRules (childlessPart 0 2)).edges =
        [⟨⟨1⟩, .negative, ⟨0⟩⟩] := by decide +kernel
    intro r hr q hq sign
    obtain rfl := List.mem_singleton.mp hr
    simp [hedges]

theorem evaluate_split_childless :
    let family : Graph := .ofStore (Store.empty.addAll childless.data).1
    ∃ all low up n found found₁ found₂, prepare (childlessPart 0 2) = .ok all ∧
      (all.configure {} .standard).evaluate 2 family = some (.ok found) ∧
      prepare (childlessPart 0 1) = .ok low ∧ prepare (childlessPart 1 2) = .ok up ∧
      (low.configure {} .standard).evaluate n family = some (.ok found₁) ∧
      (up.configure {} .standard).evaluate n (.ofStore found₁.output) = some (.ok found₂) ∧
      ∀ t, t ∈ found₂.output.toList ↔ t ∈ found.output.toList := by
  intro family
  obtain ⟨all, found, hall, hfound⟩ : ∃ all found, prepare (childlessPart 0 2) = .ok all ∧
      (all.configure {} .standard).evaluate 2 family = some (.ok found) :=
    exists_of_evaluates (by decide +kernel)
  obtain ⟨low, up, hlow, hup, n, found₁, found₂, hfound₁, hfound₂, hout⟩ :=
    evaluate_split hall rfl rfl rfl childlessPart_splits rfl hfound
  exact ⟨all, low, up, n, found, found₁, found₂, hall, hfound, hlow, hup,
    hfound₁ n (Nat.le_refl n), hfound₂ n (Nat.le_refl n), hout⟩

end Engine

end TripleRules
