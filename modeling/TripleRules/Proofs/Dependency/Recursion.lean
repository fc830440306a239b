import Mathlib.Data.Set.Card
import TripleRules.Dependency.Cycle
import TripleRules.Proofs.Dependency.Component

/-!
# The recursion check is exact

`Recursion.check` refuses a rule set exactly when one of its rules depends
negatively on a rule that depends on it in turn, and otherwise it lists the
rules of the set that lie on a cycle. The graph may have rules that the set
does not have. Along the edges of a rule set the number of rules that can still be
reached, here the height of a rule, never rises, and it stays only on a cycle.
-/

namespace TripleRules

def DependencyGraph.OnCycle (g : DependencyGraph) (p : RuleId) : Prop :=
  Relation.TransGen g.Depends p p

variable {g : DependencyGraph} {f s : RuleSet} {p : RuleId} {ids : List RuleId}

namespace DependencyGraph

theorem onCycle_iff :
    g.OnCycle p ↔ (∃ q, q ≠ p ∧ g.Reaches p q ∧ g.Reaches q p) ∨ g.Depends p p := by
  constructor
  · intro h
    obtain ⟨q, hpq, hqp⟩ := Relation.TransGen.head'_iff.mp h
    by_cases hq : q = p
    · exact .inr (hq ▸ hpq)
    · exact .inl ⟨q, hq, hpq.reaches, hqp⟩
  · rintro (⟨q, hne, hpq, hqp⟩ | h)
    · rcases Relation.reflTransGen_iff_eq_or_transGen.mp hpq with heq | hpq
      · exact absurd heq hne
      · exact hpq.trans_left hqp
    · exact .single h

-- ---------------------------------------------------------------------------
-- Heights
-- ---------------------------------------------------------------------------

variable {q : RuleId} {sign : Sign}

/-- How many rules a rule depends on, directly or not, itself included. -/
noncomputable def height (s : RuleSet) (p : RuleId) : Nat :=
  {q | q ∈ s.ids ∧ (ofRules s).Reaches p q}.ncard

theorem height_le_size : height s p ≤ s.size := by
  have hsub : {q | q ∈ s.ids ∧ (ofRules s).Reaches p q} ⊆ {q | q ∈ s.ids} := fun _ hq => hq.1
  have hfinite : {q | q ∈ s.ids}.Finite := s.ids.finite_toSet
  calc height s p ≤ {q | q ∈ s.ids}.ncard := Set.ncard_le_ncard hsub hfinite
    _ = s.ids.toFinset.card := by rw [← List.coe_toFinset, Set.ncard_coe_finset]
    _ ≤ s.ids.length := s.ids.toFinset_card_le
    _ = s.size := List.length_map ..

theorem height_of_mem_edges (h : ⟨p, sign, q⟩ ∈ (ofRules s).edges) :
    height s q < height s p ∨
      height s q = height s p ∧ (ofRules s).OnCycle p ∧ (ofRules s).OnCycle q := by
  have hdepends := depends_of_mem_edges h
  have hfinite : {x | x ∈ s.ids ∧ (ofRules s).Reaches p x}.Finite :=
    s.ids.finite_toSet.subset fun _ hx => hx.1
  have hsub : {x | x ∈ s.ids ∧ (ofRules s).Reaches q x} ⊆
      {x | x ∈ s.ids ∧ (ofRules s).Reaches p x} := fun x hx =>
    ⟨hx.1, hdepends.reaches.trans hx.2⟩
  refine (Nat.lt_or_eq_of_le (Set.ncard_le_ncard hsub hfinite)).imp_right fun heq => ⟨heq, ?_⟩
  -- both reach the same rules, so the provider leads back
  have hsame := Set.eq_of_subset_of_ncard_le hsub (Nat.le_of_eq heq.symm) hfinite
  have hmem : p ∈ {x | x ∈ s.ids ∧ (ofRules s).Reaches q x} :=
    hsame ▸ ⟨(mem_ids_of_mem_edges h).1, .refl p⟩
  have hback : (ofRules s).Reaches q p := hmem.2
  exact ⟨.head' hdepends hback, .tail' hback hdepends⟩

end DependencyGraph

namespace Recursion

theorem isCyclic_iff (hp : p ∈ ids) :
    isCyclic g (Components.ofGraph g ids) p = true ↔ g.OnCycle p := by
  rw [DependencyGraph.onCycle_iff, isCyclic, Bool.or_eq_true, decide_eq_true_eq,
    decide_eq_true_eq, gt_iff_lt, Components.one_lt_size_iff hp]
  rfl

theorem negativeEdge?_isSome_iff :
    (negativeEdge? (.ofRules f) s (Components.ofGraph (.ofRules f) s.ids)).isSome = true ↔
      ∃ p ∈ s.ids, ∃ q, ⟨p, .negative, q⟩ ∈ (DependencyGraph.ofRules f).edges ∧
        (DependencyGraph.ofRules f).Reaches q p := by
  simp only [negativeEdge?, List.find?_isSome, List.mem_flatMap, Bool.and_eq_true,
    decide_eq_true_eq]
  constructor
  · rintro ⟨e, ⟨p, hp, he⟩, hsign, hsame⟩
    obtain ⟨hmem, rfl⟩ := DependencyGraph.mem_edgesFrom_ofRules.mp he
    refine ⟨e.rule, hp, e.provider, ?_, ((Components.same_iff hp).mp hsame).2⟩
    rwa [← hsign]
  · rintro ⟨p, hp, q, he, hr⟩
    refine ⟨_, ⟨p, hp, DependencyGraph.mem_edgesFrom_ofRules.mpr ⟨he, rfl⟩⟩, rfl, ?_⟩
    exact (Components.same_iff hp).mpr ⟨(DependencyGraph.depends_of_mem_edges he).reaches, hr⟩

theorem check_eq_error_iff :
    (∃ c, check g s = .error c) ↔
      (negativeEdge? g s (Components.ofGraph g s.ids)).isSome = true := by
  simp only [check]
  split
  · next e he => simp [he]
  · next he => simp [he]

theorem check_eq_ok_iff :
    check g s = .ok ids ↔
      negativeEdge? g s (Components.ofGraph g s.ids) = none ∧
        ids = s.ids.filter (isCyclic g (Components.ofGraph g s.ids)) := by
  simp only [check]
  split
  · next e he => simp [he]
  · next he => simp [he, eq_comm]

theorem mem_of_check_ok {recursive : List RuleId} (h : check g s = .ok recursive) :
    p ∈ recursive ↔ p ∈ s.ids ∧ g.OnCycle p := by
  obtain ⟨-, rfl⟩ := check_eq_ok_iff.mp h
  rw [List.mem_filter]
  exact and_congr_right fun hp => isCyclic_iff hp

theorem check_isOk_iff :
    (∃ ids, check (.ofRules s) s = .ok ids) ↔ ¬ (DependencyGraph.ofRules s).HasNegativeCycle := by
  have herror := (check_eq_error_iff (g := .ofRules s) (s := s)).trans negativeEdge?_isSome_iff
  constructor
  · rintro ⟨ids, h⟩ ⟨p, q, he, hr⟩
    obtain ⟨c, hc⟩ := herror.mpr ⟨p, (DependencyGraph.mem_ids_of_mem_edges he).1, q, he, hr⟩
    simp [h] at hc
  · intro h
    cases hcheck : check (.ofRules s) s with
    | ok ids => exact ⟨ids, rfl⟩
    | error c =>
      obtain ⟨p, -, q, he, hr⟩ := herror.mp ⟨c, hcheck⟩
      exact (h ⟨p, q, he, hr⟩).elim

/-- A rule set is refused exactly for a negative dependency that leads back; if it
is not refused, the rules reported are those on cycles, in the order of the set and each once. -/
theorem check_exact (f s : RuleSet) :
    ((∃ c, check (.ofRules f) s = .error c) ↔
      ∃ p ∈ s.ids, ∃ q, ⟨p, .negative, q⟩ ∈ (DependencyGraph.ofRules f).edges ∧
        (DependencyGraph.ofRules f).Reaches q p) ∧
    ∀ recursive, check (.ofRules f) s = .ok recursive →
      recursive.Sublist s.ids ∧ recursive.Nodup ∧
        ∀ p, p ∈ recursive ↔ p ∈ s.ids ∧ (DependencyGraph.ofRules f).OnCycle p := by
  refine ⟨check_eq_error_iff.trans negativeEdge?_isSome_iff, fun recursive h => ?_⟩
  obtain ⟨-, rfl⟩ := check_eq_ok_iff.mp h
  refine ⟨List.filter_sublist, s.distinct.sublist List.filter_sublist, fun p => ?_⟩
  rw [List.mem_filter]
  exact and_congr_right fun hp => isCyclic_iff hp

end Recursion

end TripleRules
