import Mathlib.Data.Set.Function
import TripleRules.Proofs.Dependency.LeastStrata

/-!
# Rules under other identities

Two rule sets may have the same dependencies between rules of other identities, position
by position (`RuleSet.Relabels`). This goes both ways, so cycles and possible numbers of
rules pass from each set to the other. The recursion check then reports the same rules
for both, and the strata, being the least possible, are the same.
-/

namespace TripleRules

variable {m : RuleId → RuleId} {s s' : RuleSet} {p q : RuleId} {f : RuleId → Nat}

structure RuleSet.Relabels (m : RuleId → RuleId) (s s' : RuleSet) : Prop where
  ids : s'.ids = s.ids.map m
  mem_edges_iff : ∀ p ∈ s.ids, ∀ q ∈ s.ids, ∀ sign,
    ⟨m p, sign, m q⟩ ∈ (DependencyGraph.ofRules s').edges ↔
      ⟨p, sign, q⟩ ∈ (DependencyGraph.ofRules s).edges

theorem RuleSet.injOn_of_ids (h : s'.ids = s.ids.map m) : Set.InjOn m {p | p ∈ s.ids} :=
  fun _ hp _ hq heq => by
    have hnodup : (s.ids.map m).Nodup := h ▸ s'.distinct
    exact List.inj_on_of_nodup_map hnodup hp hq heq

namespace RuleSet.Relabels

section
variable (h : Relabels m s s')
include h

theorem mem_ids (hp : p ∈ s.ids) : m p ∈ s'.ids := h.ids ▸ List.mem_map_of_mem hp

theorem symm : ∃ m', Relabels m' s' s ∧ ∀ p ∈ s.ids, m' (m p) = p := by
  have : Nonempty RuleId := ⟨⟨0⟩⟩
  obtain ⟨m', hback⟩ : ∃ m' : RuleId → RuleId, ∀ p ∈ s.ids, m' (m p) = p :=
    ⟨_, fun p hp => (injOn_of_ids h.ids).leftInvOn_invFunOn hp⟩
  refine ⟨m', ⟨?_, ?_⟩, hback⟩
  · rw [h.ids, List.map_map]
    exact (List.map_id s.ids).symm.trans (List.map_congr_left fun p hp => (hback p hp).symm)
  · rw [h.ids]
    simp only [List.forall_mem_map]
    intro p hp q hq sign
    rw [hback p hp, hback q hq, h.mem_edges_iff p hp q hq]

-- ---------------------------------------------------------------------------
-- Cycles
-- ---------------------------------------------------------------------------

theorem mem_edges {sign : Sign} (he : ⟨p, sign, q⟩ ∈ (DependencyGraph.ofRules s).edges) :
    ⟨m p, sign, m q⟩ ∈ (DependencyGraph.ofRules s').edges :=
  have ⟨hp, hq⟩ := DependencyGraph.mem_ids_of_mem_edges he
  (h.mem_edges_iff p hp q hq sign).mpr he

theorem depends (p q : RuleId) (hpq : (DependencyGraph.ofRules s).Depends p q) :
    (DependencyGraph.ofRules s').Depends (m p) (m q) := by
  obtain ⟨sign, he⟩ := DependencyGraph.depends_ofRules.mp hpq
  exact DependencyGraph.depends_ofRules.mpr ⟨sign, h.mem_edges he⟩

theorem hasNegativeCycle (hcycle : (DependencyGraph.ofRules s).HasNegativeCycle) :
    (DependencyGraph.ofRules s').HasNegativeCycle := by
  obtain ⟨p, q, he, hreaches⟩ := hcycle
  exact ⟨m p, m q, h.mem_edges he, hreaches.lift m h.depends⟩

theorem hasNegativeCycle_iff :
    (DependencyGraph.ofRules s').HasNegativeCycle ↔ (DependencyGraph.ofRules s).HasNegativeCycle :=
  have ⟨_, hback, _⟩ := h.symm
  ⟨hback.hasNegativeCycle, h.hasNegativeCycle⟩

theorem onCycle_iff (hp : p ∈ s.ids) :
    (DependencyGraph.ofRules s').OnCycle (m p) ↔ (DependencyGraph.ofRules s).OnCycle p := by
  obtain ⟨m', hback, hinv⟩ := h.symm
  refine ⟨fun hcycle => ?_, fun hcycle => hcycle.lift m h.depends⟩
  have hcycle' : (DependencyGraph.ofRules s).OnCycle (m' (m p)) := hcycle.lift m' hback.depends
  rwa [hinv p hp] at hcycle'

theorem recursive {recursive recursive' : List RuleId}
    (hcheck : Recursion.check (.ofRules s) s = .ok recursive)
    (hcheck' : Recursion.check (.ofRules s') s' = .ok recursive') :
    recursive' = recursive.map m := by
  obtain ⟨-, rfl⟩ := Recursion.check_eq_ok_iff.mp hcheck
  obtain ⟨-, rfl⟩ := Recursion.check_eq_ok_iff.mp hcheck'
  rw [h.ids, List.filter_map, ← h.ids]
  congr 1
  refine List.filter_congr fun p hp => Bool.eq_iff_iff.mpr ?_
  rw [Function.comp_apply, Recursion.isCyclic_iff (h.mem_ids hp), Recursion.isCyclic_iff hp,
    h.onCycle_iff hp]

-- ---------------------------------------------------------------------------
-- Strata
-- ---------------------------------------------------------------------------

theorem stratifiedBy (hf : s'.StratifiedBy f) : s.StratifiedBy fun p => f (m p) := by
  refine ⟨fun p hp => ?_, fun p q he => hf.le _ _ (h.mem_edges he),
    fun p q he => hf.lt _ _ (h.mem_edges he)⟩
  rw [hf.zero_iff _ (h.mem_ids hp)]
  constructor
  · exact fun hnone sign q he => hnone sign (m q) (h.mem_edges he)
  · intro hnone sign q' he
    have hq' := (DependencyGraph.mem_ids_of_mem_edges he).2
    rw [h.ids] at hq'
    obtain ⟨q, hq, rfl⟩ := List.mem_map.mp hq'
    exact hnone sign q ((h.mem_edges_iff p hp q hq sign).mp he)

variable {t t' : Stratification} (ht : Stratification.ofRules s (.ofRules s) = .ok t)
  (ht' : Stratification.ofRules s' (.ofRules s') = .ok t')
include ht ht'

theorem stratum? (hp : p ∈ s.ids) : t'.stratum? (m p) = t.stratum? p := by
  obtain ⟨m', hback, hinv⟩ := h.symm
  -- the strata of each set would do for the other, and both are the least
  have hle := (Stratification.isLeast_level ht).2
    (h.stratifiedBy (Stratification.isLeast_level ht').1) p
  have hge := (Stratification.isLeast_level ht').2
    (hback.stratifiedBy (Stratification.isLeast_level ht).1) (m p)
  rw [hinv p hp] at hge
  rw [Stratification.stratum?_eq_level ht hp, Stratification.stratum?_eq_level ht' (h.mem_ids hp),
    Nat.le_antisymm hge hle]

theorem levels : t'.levels = t.levels.map (List.map m) := by
  have hlength : t'.levels.length = t.levels.length := by
    refine eq_of_forall_lt_iff fun i => ?_
    rw [Stratification.lt_length_levels ht, Stratification.lt_length_levels ht', h.ids]
    simp only [List.mem_map, exists_exists_and_eq_and]
    exact exists_congr fun p => and_congr_right fun hp => by rw [h.stratum? ht ht' hp]
  refine List.ext_getElem (by rw [List.length_map, hlength]) fun i hi' hi => ?_
  rw [List.length_map] at hi
  rw [List.getElem_map, Stratification.level_eq ht (List.getElem?_eq_getElem hi),
    Stratification.level_eq ht' (List.getElem?_eq_getElem hi'), h.ids, List.filter_map]
  congr 1
  refine List.filter_congr fun p hp => ?_
  rw [Function.comp_apply, h.stratum? ht ht' hp]

end

end RuleSet.Relabels

end TripleRules
