import Mathlib.Order.Bounds.Basic
import TripleRules.Proofs.Dependency.Recursion
import TripleRules.Proofs.Dependency.Strata

/-!
# Strata are the least possible

The numbers on which rules settle respect all dependencies, and other numbers that do so
are nowhere lower (`isLeast_level`), since no edge raises its rule above what they
allow. That alone leaves no gap: if no rule had a certain number, all rules above it could
move down by one. So the strata from one up to the highest all have rules, and there are
no more of them than rules.
-/

namespace TripleRules

open DependencyGraph (mem_ids_of_mem_edges)

variable {s : RuleSet} {f : RuleId → Nat} {p : RuleId} {k : Nat}

namespace RuleSet

structure StratifiedBy (s : RuleSet) (f : RuleId → Nat) : Prop where
  /-- Rules without dependencies are at the bottom, and no others. -/
  zero_iff : ∀ p ∈ s.ids, f p = 0 ↔ ∀ sign q, ⟨p, sign, q⟩ ∉ (DependencyGraph.ofRules s).edges
  le : ∀ p q, ⟨p, .positive, q⟩ ∈ (DependencyGraph.ofRules s).edges → f q ≤ f p
  lt : ∀ p q, ⟨p, .negative, q⟩ ∈ (DependencyGraph.ofRules s).edges → f q < f p

theorem StratifiedBy.add_weight_le (h : s.StratifiedBy f) {e : Edge}
    (he : e ∈ (DependencyGraph.ofRules s).edges) : f e.provider + e.sign.weight ≤ f e.rule := by
  obtain ⟨p, sign, q⟩ := e
  cases sign with
  | positive => exact h.le p q he
  | negative => exact h.lt p q he

section
variable (h : IsLeast {f | s.StratifiedBy f} f)
include h

theorem exists_eq_of_isLeast (hp : p ∈ s.ids) (hk : 0 < k) (hle : k ≤ f p) :
    ∃ q ∈ s.ids, f q = k := by
  by_contra hnone
  have hne : ∀ q ∈ s.ids, f q ≠ k := fun q hq heq => hnone ⟨q, hq, heq⟩
  -- no rule would stand in the way of those above it
  have hlower : s.StratifiedBy fun q => if k < f q then f q - 1 else f q := by
    refine ⟨fun q hq => ?_, fun p q he => ?_, fun p q he => ?_⟩
    · rw [← h.1.zero_iff q hq]
      split
      · omega
      · rfl
    · have hedge := h.1.le p q he
      split <;> split <;> omega
    · have hedge := h.1.lt p q he
      have hrule := hne p (mem_ids_of_mem_edges he).1
      have hprovider := hne q (mem_ids_of_mem_edges he).2
      split <;> split <;> omega
  have hp' := h.2 hlower p
  have hnot := hne p hp
  simp only at hp'
  split at hp' <;> omega

theorem le_size_of_isLeast (hp : p ∈ s.ids) : f p ≤ s.size := by
  have hsub : List.range' 1 (f p) ⊆ s.ids.map f := fun k hk => by
    obtain ⟨hpos, hlt⟩ := List.mem_range'_1.mp hk
    obtain ⟨q, hq, heq⟩ := exists_eq_of_isLeast h hp hpos (by omega)
    exact List.mem_map.mpr ⟨q, hq, heq⟩
  have hlength := (List.subperm_of_subset List.nodup_range' hsub).length_le
  simpa [ids, size] using hlength

end

end RuleSet

namespace Levels

variable {edges : List Edge} {first settled : Levels} {n : Nat}

theorem settle_le (h : settle edges n first = some settled) (hfirst : ∀ p, first.level p ≤ f p)
    (hedges : ∀ e ∈ edges, f e.provider + e.sign.weight ≤ f e.rule) (p : RuleId) :
    settled.level p ≤ f p := by
  refine settle_induction (motive := fun l => ∀ p, l.level p ≤ f p) h hfirst ?_ p
  intro l c e he hl p
  rw [level_relax]
  split
  · next hp =>
    refine Nat.max_le.mpr ⟨hl e.rule |>.trans_eq (by rw [hp]), ?_⟩
    rw [required_eq, hp]
    exact (Nat.add_le_add_right (hl e.provider) _).trans (hedges e he)
  · exact hl p

theorem settle_of_not_mem (h : settle edges n first = some settled)
    (hp : ∀ e ∈ edges, e.rule ≠ p) : settled.level p = first.level p := by
  refine settle_induction (motive := fun l => l.level p = first.level p) h rfl ?_
  intro l c e he hl
  rw [level_relax, if_neg (Ne.symm (hp e he)), hl]

end Levels

namespace Stratification

variable {t : Stratification}

theorem stratum?_eq_level (h : ofRules s (.ofRules s) = .ok t) (hp : p ∈ s.ids) :
    t.stratum? p = some (t.strata.level p) := by
  obtain ⟨i, level, hlevel, hmem⟩ := exists_level h hp
  have hstratum := ((mem_level h hlevel).mp hmem).2
  have hlookup : t.strata.lookup p = some i := hstratum
  simp [Levels.level, hstratum, hlookup]

/-- Rules settle on the least numbers that respect their dependencies. -/
theorem isLeast_level (h : ofRules s (.ofRules s) = .ok t) :
    IsLeast {f | s.StratifiedBy f} t.strata.level := by
  obtain ⟨l, hsettle, rfl⟩ := settle_of_ofRules h
  have hsatisfies := Levels.settle_satisfies hsettle
  refine ⟨⟨fun p hp => ?_, fun p q he => ?_, fun p q he => ?_⟩, fun f hf p => ?_⟩
  · have hfirst := level_initial hp
    rw [← DependencyGraph.isIndependent_iff hp]
    constructor
    · intro hzero
      by_contra hdependent
      have hle := Levels.le_settle hsettle p
      rw [hfirst, if_neg hdependent] at hle
      exact absurd (hle.trans_eq hzero) (by omega)
    · intro hindependent
      have hnone := (DependencyGraph.isIndependent_iff hp).mp hindependent
      refine (Levels.settle_of_not_mem hsettle ?_).trans (by rw [hfirst, if_pos hindependent])
      rintro ⟨_, sign, q⟩ he rfl
      exact hnone sign q he
  · exact hsatisfies _ he
  · exact hsatisfies _ he
  · refine Levels.settle_le hsettle (fun p => ?_) (fun e he => hf.add_weight_le he) p
    by_cases hp : p ∈ s.ids
    · rw [level_initial hp]
      split
      · exact Nat.zero_le _
      · next hdependent =>
        rw [DependencyGraph.isIndependent_iff hp, ← hf.zero_iff p hp] at hdependent
        exact Nat.pos_of_ne_zero hdependent
    · have hnone : (initial s (.ofRules s)).lookup p = none := List.lookup_eq_none_iff.mpr
        fun e he => by
          have hmem : e.1 ∈ s.ids := map_fst_initial (s := s) ▸ List.mem_map_of_mem he
          simpa using fun heq : p = e.1 => hp (heq ▸ hmem)
      simp [Levels.level, hnone]

theorem level_eq_filter (h : ofRules s (.ofRules s) = .ok t) (i : Nat) :
    t.level i = s.ids.filter fun p => t.stratum? p = some i := by
  rw [level, List.getD_eq_getElem?_getD]
  cases hlevel : t.levels[i]? with
  | some rules => exact level_eq h hlevel
  | none =>
    refine (List.filter_eq_nil_iff.mpr fun p hp => ?_).symm
    obtain ⟨j, rules, hj, hmem⟩ := exists_level h hp
    rw [((mem_level h hj).mp hmem).2]
    rintro hij
    obtain rfl : j = i := by simpa using hij
    simp [hlevel] at hj

/-- Without recursion through negation every rule has a stratum, the least one that its
dependencies allow, and no higher than there are rules. The levels list the rules by their
strata, and only the lowest one may be empty. -/
theorem ofRules_isLeast {recursive : List RuleId}
    (h : Recursion.check (.ofRules s) s = .ok recursive) :
    ∃ (t : Stratification) (f : RuleId → Nat), ofRules s (.ofRules s) = .ok t ∧
      (∀ p ∈ s.ids, t.stratum? p = some (f p)) ∧
      IsLeast {f | s.StratifiedBy f} f ∧ (∀ p ∈ s.ids, f p ≤ s.size) ∧
      (∀ i, t.level i = s.ids.filter fun p => t.stratum? p = some i) ∧
      (s.rules ≠ [] → t.level t.highest ≠ [] ∧
        ∀ i, 1 ≤ i → i ≤ t.highest → t.level i ≠ []) := by
  obtain ⟨t, ht⟩ := ofRules_ok_iff.mpr
    ((settle_isSome_iff _).mpr (Recursion.check_isOk_iff.mp ⟨recursive, h⟩))
  have hleast := isLeast_level ht
  have hlevel : ∀ {p}, p ∈ s.ids → p ∈ t.level (t.strata.level p) := fun hp => by
    rw [level_eq_filter ht, List.mem_filter]
    exact ⟨hp, by simp [stratum?_eq_level ht hp]⟩
  refine ⟨t, _, ht, fun p hp => stratum?_eq_level ht hp, hleast,
    fun p hp => RuleSet.le_size_of_isLeast hleast hp, level_eq_filter ht, fun hrules => ?_⟩
  -- some rule is in the highest stratum
  obtain ⟨r, hr⟩ := List.exists_mem_of_ne_nil s.rules hrules
  obtain ⟨i, rules, hi, -⟩ := exists_level ht (List.mem_map_of_mem hr)
  have hpos : t.highest < t.levels.length := by
    have hlt := (List.getElem?_eq_some_iff.mp hi).1
    rw [highest]
    omega
  obtain ⟨p, hp, j, hj, hle⟩ := (lt_length_levels ht).mp hpos
  obtain rfl : j = t.strata.level p := Option.some.inj (hj.symm.trans (stratum?_eq_level ht hp))
  have hlt := (lt_length_levels ht).mpr ⟨p, hp, _, hj, Nat.le_refl _⟩
  have heq : t.strata.level p = t.highest := by
    rw [highest] at hle ⊢
    omega
  refine ⟨heq ▸ List.ne_nil_of_mem (hlevel hp), fun i hone hi => ?_⟩
  obtain ⟨q, hq, rfl⟩ := RuleSet.exists_eq_of_isLeast hleast hp hone (hi.trans_eq heq.symm)
  exact List.ne_nil_of_mem (hlevel hq)

/-- Who is listed is present unless excused, and missing unless present. -/
def attendance : RuleSet where
  rules := [
    ⟨⟨0⟩, none, [⟨.ofVariable "x", .ofIri "is", .ofIri "missing"⟩],
      [.pattern ⟨.ofVariable "x", .ofIri "is", .ofIri "listed"⟩,
        .negation [.pattern ⟨.ofVariable "x", .ofIri "is", .ofIri "present"⟩]]⟩,
    ⟨⟨1⟩, none, [⟨.ofVariable "x", .ofIri "is", .ofIri "present"⟩],
      [.pattern ⟨.ofVariable "x", .ofIri "is", .ofIri "listed"⟩,
        .negation [.pattern ⟨.ofVariable "x", .ofIri "is", .ofIri "excused"⟩]]⟩,
    ⟨⟨2⟩, none, [⟨.ofVariable "x", .ofIri "is", .ofIri "excused"⟩],
      [.pattern ⟨.ofVariable "x", .ofIri "sent", .ofVariable "note"⟩]⟩]
  data := []
  distinct := by decide

theorem ofRules_isLeast_attendance :
    Recursion.check (.ofRules attendance) attendance = .ok [] ∧
    ∃ (t : Stratification) (f : RuleId → Nat),
      ofRules attendance (.ofRules attendance) = .ok t ∧
      (∀ p ∈ attendance.ids, t.stratum? p = some (f p)) ∧
      IsLeast {f | attendance.StratifiedBy f} f ∧ (∀ p ∈ attendance.ids, f p ≤ 3) ∧
      t.level t.highest ≠ [] ∧ ∀ i, 1 ≤ i → i ≤ t.highest → t.level i ≠ [] := by
  have hcheck : Recursion.check (.ofRules attendance) attendance = .ok [] := by decide +kernel
  obtain ⟨t, f, ht, hstratum, hleast, hsize, -, hlevels⟩ := ofRules_isLeast hcheck
  exact ⟨hcheck, t, f, ht, hstratum, hleast, hsize, hlevels (by simp [attendance])⟩

example : (ofRules attendance (.ofRules attendance)).toOption.map levels =
    some [[⟨2⟩], [⟨1⟩], [⟨0⟩]] := by decide +kernel

end Stratification

end TripleRules
