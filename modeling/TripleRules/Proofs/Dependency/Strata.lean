import Mathlib.Data.List.Perm.Subperm
import TripleRules.Dependency.Stratification
import TripleRules.Proofs.Dependency.Walk
import TripleRules.Proofs.Dictionary

/-!
# Strata settle exactly without recursion through negation

Numbers that settle satisfy every edge, which no cycle through a negative edge
allows. Without such a cycle every number is at all times the weight of a walk, and
the walk may be taken to meet no rule twice; after as many sweeps as there are
rules all these weights have been reached, so that one sweep more changes nothing.
-/

namespace TripleRules

namespace Levels

variable {l : Levels} {edges : List Edge} {e : Edge} {p q : RuleId} {n : Nat} {c : Bool}

-- ---------------------------------------------------------------------------
-- One edge
-- ---------------------------------------------------------------------------

theorem lookup_set : (l.set p n).lookup q = if q = p then some n else l.lookup q := by
  induction l with
  | nil => by_cases h : q = p <;> simp [set, h]
  | cons a rest ih =>
    obtain ⟨k, m⟩ := a
    simp only [set]
    by_cases hk : k = p
    · subst hk
      by_cases hq : q = k
      · simp [hq]
      · simp [lookup_cons_eq_ite, hq]
    · by_cases hq : q = k
      · subst hq
        simp [hk]
      · simp [lookup_cons_eq_ite, hk, hq, ih]

theorem level_set : (l.set p n).level q = if q = p then n else l.level q := by
  simp only [level, lookup_set]
  split <;> rfl

theorem required_eq : l.required e = l.level e.provider + e.sign.weight := by
  cases h : e.sign <;> simp [required, Sign.weight, h]

theorem level_relax :
    (relax (l, c) e).1.level p =
      if p = e.rule then max (l.level e.rule) (l.required e) else l.level p := by
  simp only [relax]
  split
  · next h => rw [level_set, Nat.max_eq_right (Nat.le_of_lt h)]
  · next h => rw [level_set, Nat.max_eq_left (Nat.le_of_not_lt h)]

theorem changed_relax : (relax (l, c) e).2 = (c || decide (l.level e.rule < l.required e)) := by
  simp only [relax]
  split
  · next h => simp [h]
  · next h => simp [h]

theorem le_level_relax : l.level p ≤ (relax (l, c) e).1.level p := by
  rw [level_relax]
  split
  · next h => exact h ▸ Nat.le_max_left _ _
  · exact Nat.le_refl _

-- ---------------------------------------------------------------------------
-- One sweep
-- ---------------------------------------------------------------------------

def Satisfies (l : Levels) (edges : List Edge) : Prop := ∀ e ∈ edges, l.required e ≤ l.level e.rule

theorem le_level_foldl (edges : List Edge) (l : Levels) (c : Bool) :
    l.level p ≤ (edges.foldl relax (l, c)).1.level p := by
  induction edges generalizing l c with
  | nil => exact Nat.le_refl _
  | cons e rest ih => exact Nat.le_trans le_level_relax (ih _ _)

theorem required_le_foldl (he : e ∈ edges) (l : Levels) (c : Bool) :
    l.required e ≤ (edges.foldl relax (l, c)).1.level e.rule := by
  induction edges generalizing l c with
  | nil => simp at he
  | cons d rest ih =>
    rcases List.mem_cons.mp he with rfl | he
    · refine Nat.le_trans ?_ (le_level_foldl rest (relax (l, c) e).1 (relax (l, c) e).2)
      rw [level_relax, if_pos rfl]
      exact Nat.le_max_right _ _
    · refine Nat.le_trans ?_ (ih he (relax (l, c) d).1 (relax (l, c) d).2)
      rw [required_eq, required_eq]
      exact Nat.add_le_add_right le_level_relax _

theorem foldl_unchanged (h : (edges.foldl relax (l, c)).2 = false) :
    c = false ∧ l.Satisfies edges ∧
      ∀ p, (edges.foldl relax (l, c)).1.level p = l.level p := by
  induction edges generalizing l c with
  | nil => exact ⟨h, by simp [Satisfies], fun _ => rfl⟩
  | cons e rest ih =>
    obtain ⟨hc, hsat, hlevel⟩ := ih (l := (relax (l, c) e).1) (c := (relax (l, c) e).2) h
    rw [changed_relax, Bool.or_eq_false_iff, decide_eq_false_iff_not, Nat.not_lt] at hc
    have hsame : ∀ p, (relax (l, c) e).1.level p = l.level p := fun p => by
      rw [level_relax]
      split
      · next hp => rw [hp, Nat.max_eq_left hc.2]
      · rfl
    refine ⟨hc.1, fun d hd => ?_, fun p => (hlevel p).trans (hsame p)⟩
    rcases List.mem_cons.mp hd with rfl | hd
    · exact hc.2
    · have := hsat d hd
      rwa [required_eq, hsame, hsame, ← required_eq] at this

theorem foldl_of_satisfies (h : l.Satisfies edges) : (edges.foldl relax (l, false)).2 = false := by
  suffices ∀ l : Levels, l.Satisfies edges → (edges.foldl relax (l, false)).2 = false from this l h
  clear h
  induction edges with
  | nil => intros; rfl
  | cons e rest ih =>
    intro l h
    have he := h e List.mem_cons_self
    have hc : (relax (l, false) e).2 = false := by
      rw [changed_relax]
      simpa using he
    have hsame : ∀ p, (relax (l, false) e).1.level p = l.level p := fun p => by
      rw [level_relax]
      split
      · next hp => rw [hp, Nat.max_eq_left he]
      · rfl
    show (rest.foldl relax ((relax (l, false) e).1, (relax (l, false) e).2)).2 = false
    rw [hc]
    refine ih _ fun d hd => ?_
    rw [required_eq, hsame, hsame, ← required_eq]
    exact h d (List.mem_cons_of_mem _ hd)

theorem foldl_induction {motive : Levels → Prop} (edges : List Edge)
    (hrelax : ∀ l c, ∀ e ∈ edges, motive l → motive (relax (l, c) e).1) (c : Bool) (h : motive l) :
    motive (edges.foldl relax (l, c)).1 := by
  induction edges generalizing l c with
  | nil => exact h
  | cons e rest ih =>
    exact ih (fun l c d hd => hrelax l c d (List.mem_cons_of_mem _ hd)) _
      (hrelax l c e List.mem_cons_self h)

-- ---------------------------------------------------------------------------
-- All sweeps
-- ---------------------------------------------------------------------------

/-- The numbers after so many sweeps, whether or not they have settled. -/
def swept (edges : List Edge) : Nat → Levels → Levels
  | 0, l => l
  | k + 1, l => swept edges k (sweep edges l).1

theorem swept_succ (k : Nat) (l : Levels) :
    swept edges (k + 1) l = (sweep edges (swept edges k l)).1 := by
  induction k generalizing l with
  | zero => rfl
  | succ k ih => exact ih _

theorem settle_succ (k : Nat) (l : Levels) :
    settle edges (k + 1) l =
      if (sweep edges l).2 = true then settle edges k (sweep edges l).1
      else some (sweep edges l).1 := rfl

theorem settle_isSome {k m : Nat} (hk : k < m)
    (h : (sweep edges (swept edges k l)).2 = false) : (settle edges m l).isSome = true := by
  induction m generalizing k l with
  | zero => omega
  | succ m ih =>
    rw [settle_succ]
    split
    · next hchanged =>
      cases k with
      | zero => exact absurd (h.symm.trans hchanged) (by simp)
      | succ k => exact ih (by omega) h
    · rfl

theorem settle_induction {motive : Levels → Prop} {m : Nat} {settled : Levels}
    (h : settle edges m l = some settled) (hstart : motive l)
    (hrelax : ∀ l c, ∀ e ∈ edges, motive l → motive (relax (l, c) e).1) : motive settled := by
  induction m generalizing l with
  | zero => simp [settle] at h
  | succ m ih =>
    have hnext : motive (sweep edges l).1 := foldl_induction edges hrelax false hstart
    rw [settle_succ] at h
    split at h
    · exact ih h hnext
    · exact Option.some.inj h ▸ hnext

theorem settle_satisfies {m : Nat} {settled : Levels} (h : settle edges m l = some settled) :
    settled.Satisfies edges := by
  induction m generalizing l with
  | zero => simp [settle] at h
  | succ m ih =>
    rw [settle_succ] at h
    split at h
    · exact ih h
    · next hsame =>
      obtain ⟨-, hsat, hlevel⟩ := foldl_unchanged (Bool.not_eq_true _ ▸ hsame)
      obtain rfl := Option.some.inj h
      intro e he
      have := hsat e he
      simp only [sweep, required_eq, hlevel]
      rwa [← required_eq]

theorem le_settle {m : Nat} {settled : Levels} (h : settle edges m l = some settled) (p : RuleId) :
    l.level p ≤ settled.level p :=
  settle_induction (motive := fun l' => l.level p ≤ l'.level p) h (Nat.le_refl _)
    fun _ _ _ _ hl => Nat.le_trans hl le_level_relax

theorem map_fst_set (hp : p ∈ l.map Prod.fst) : (l.set p n).map Prod.fst = l.map Prod.fst := by
  induction l with
  | nil => cases hp
  | cons e rest ih =>
    simp only [set]
    split
    · next hid => simp [hid]
    · next hne =>
      have hrest : p ∈ rest.map Prod.fst := (List.mem_cons.mp hp).resolve_left (Ne.symm hne)
      rw [List.map_cons, ih hrest, List.map_cons]

theorem map_fst_settle {first settled : Levels} (h : settle edges n first = some settled)
    (hedges : ∀ e ∈ edges, e.rule ∈ first.map Prod.fst) :
    settled.map Prod.fst = first.map Prod.fst := by
  refine settle_induction (motive := fun l => l.map Prod.fst = first.map Prod.fst) h rfl ?_
  intro l c e he hl
  simp only [relax]
  split
  · rw [map_fst_set (hl ▸ hedges e he), hl]
  · rw [map_fst_set (hl ▸ hedges e he), hl]

-- ---------------------------------------------------------------------------
-- Numbers and walks
-- ---------------------------------------------------------------------------

variable {first : Levels} {visited : List RuleId} {w : Nat}

/-- Every number belongs to a walk: its weight, and the number that its end had at first. -/
def Realised (edges : List Edge) (first l : Levels) : Prop :=
  ∀ p, ∃ visited w q, Walk edges p visited w q ∧ l.level p = first.level q + w

theorem Realised.relax (he : e ∈ edges) (h : Realised edges first l) :
    Realised edges first (Levels.relax (l, c) e).1 := by
  intro p
  rw [level_relax]
  split
  · next hp =>
    subst hp
    rcases Nat.le_total (l.level e.rule) (l.required e) with hle | hle
    · obtain ⟨visited, w, q, hwalk, hlevel⟩ := h e.provider
      refine ⟨_, _, q, .cons he hwalk, ?_⟩
      rw [Nat.max_eq_right hle, required_eq, hlevel, Nat.add_assoc]
    · rw [Nat.max_eq_left hle]
      exact h e.rule
  · exact h p

theorem realised_swept (edges : List Edge) (first : Levels) (k : Nat) :
    Realised edges first (swept edges k first) := by
  induction k with
  | zero => exact fun p => ⟨[], 0, p, .nil p, rfl⟩
  | succ k ih =>
    rw [swept_succ]
    exact foldl_induction edges (fun _ _ _ he hl => hl.relax he) false ih

theorem swept_le {k m : Nat} (h : k ≤ m) : (swept edges k l).level p ≤ (swept edges m l).level p := by
  induction m with
  | zero =>
    obtain rfl := Nat.le_zero.mp h
    exact Nat.le_refl _
  | succ m ih =>
    rcases Nat.lt_or_eq_of_le h with hlt | rfl
    · rw [swept_succ]
      exact Nat.le_trans (ih (Nat.le_of_lt_succ hlt)) (le_level_foldl edges _ false)
    · exact Nat.le_refl _

/-- After as many sweeps as a walk has edges, the number of its first rule covers its weight. -/
theorem walk_le_swept (h : Walk edges p visited w q) :
    first.level q + w ≤ (swept edges visited.length first).level p := by
  induction h with
  | nil => exact Nat.le_refl _
  | @cons e visited w q he _ ih =>
    rw [List.length_cons, swept_succ]
    refine Nat.le_trans ?_ (required_le_foldl he (swept edges visited.length first) false)
    rw [required_eq]
    omega

end Levels

namespace Stratification

variable {s : RuleSet} {l : Levels}

open DependencyGraph (HasNegativeCycle)

theorem settle_isSome_of_not_hasNegativeCycle (first : Levels)
    (h : ¬ (DependencyGraph.ofRules s).HasNegativeCycle) :
    (Levels.settle (DependencyGraph.ofRules s).edges (s.size + 1) first).isSome = true := by
  refine Levels.settle_isSome (Nat.lt_succ_self s.size) (Levels.foldl_of_satisfies fun e he => ?_)
  refine Nat.le_trans (Levels.required_le_foldl he _ false) ?_
  -- whatever the next sweep makes of the rule is the weight of a walk that is already covered
  rw [show List.foldl Levels.relax _ _ = Levels.sweep (DependencyGraph.ofRules s).edges
    (Levels.swept (DependencyGraph.ofRules s).edges s.size first) from rfl, ← Levels.swept_succ]
  obtain ⟨visited, w, q, hwalk, hlevel⟩ :=
    Levels.realised_swept (DependencyGraph.ofRules s).edges first (s.size + 1) e.rule
  obtain ⟨short, hshort, hnodup⟩ := hwalk.simple h
  have hids : short ⊆ s.ids := fun a ha => by
    obtain ⟨d, hd, rfl⟩ := hshort.visited_mem a ha
    exact (DependencyGraph.mem_ids_of_mem_edges hd).1
  have hlen : short.length ≤ s.size := by
    have := (List.subperm_of_subset (List.nodup_append.mp hnodup).1 hids).length_le
    simpa [RuleSet.ids, RuleSet.size] using this
  rw [hlevel]
  exact Nat.le_trans (Levels.walk_le_swept hshort) (Levels.swept_le hlen)

theorem level_le_of_reaches (h : l.Satisfies (DependencyGraph.ofRules s).edges) {p q : RuleId}
    (hr : (DependencyGraph.ofRules s).Reaches p q) : l.level q ≤ l.level p := by
  induction hr with
  | refl => exact Nat.le_refl _
  | tail _ hd ih =>
    obtain ⟨sign, he⟩ := DependencyGraph.depends_ofRules.mp hd
    have hsat := h _ he
    rw [Levels.required_eq] at hsat
    exact Nat.le_trans (Nat.le_trans (Nat.le_add_right _ _) hsat) ih

theorem not_hasNegativeCycle_of_satisfies (h : l.Satisfies (DependencyGraph.ofRules s).edges) :
    ¬ (DependencyGraph.ofRules s).HasNegativeCycle := by
  rintro ⟨p, q, he, hr⟩
  have hsat := h _ he
  have hle := level_le_of_reaches h hr
  rw [Levels.required_eq] at hsat
  simp only [Sign.weight] at hsat
  omega

/-- Numbers settle within the bound exactly if no cycle passes through a negative edge. -/
theorem settle_isSome_iff (first : Levels) :
    (Levels.settle (DependencyGraph.ofRules s).edges (s.size + 1) first).isSome = true ↔
      ¬ (DependencyGraph.ofRules s).HasNegativeCycle := by
  refine ⟨fun h => ?_, settle_isSome_of_not_hasNegativeCycle first⟩
  obtain ⟨settled, hs⟩ := Option.isSome_iff_exists.mp h
  exact not_hasNegativeCycle_of_satisfies (Levels.settle_satisfies hs)

theorem ofRules_ok_iff {g : DependencyGraph} :
    (∃ t, ofRules s g = .ok t) ↔
      (Levels.settle g.edges (s.size + 1) (initial s g)).isSome = true := by
  simp only [ofRules]
  split
  · next h => simp [h]
  · next h => simp [h]

-- ---------------------------------------------------------------------------
-- The rules of a stratum
-- ---------------------------------------------------------------------------

variable {t : Stratification} {id p : RuleId} {i : Nat} {level : List RuleId}

theorem lookup_isSome_of_settle {edges : List Edge} {n : Nat} {first settled : Levels}
    (h : Levels.settle edges n first = some settled) (hid : (first.lookup id).isSome = true) :
    (settled.lookup id).isSome = true := by
  refine Levels.settle_induction (motive := fun l => (l.lookup id).isSome = true) h hid ?_
  intro l c e _ hl
  simp only [Levels.relax]
  split
  · rw [Levels.lookup_set]
    split
    · rfl
    · exact hl
  · rw [Levels.lookup_set]
    split
    · rfl
    · exact hl

theorem lookup_le_highest (h : l.lookup id = some i) : i ≤ (l.map Prod.snd).foldl max 0 := by
  obtain ⟨below, above, rfl, -⟩ := List.lookup_eq_some_iff.mp h
  have hi : i ∈ (below ++ (id, i) :: above).map Prod.snd := by simp
  rw [List.foldl_max_eq_max (List.ne_nil_of_mem hi)]
  exact Nat.le_trans (List.le_max_of_mem hi) (Nat.le_max_right _ _)

theorem settle_of_ofRules {g : DependencyGraph} (h : ofRules s g = .ok t) :
    ∃ l, Levels.settle g.edges (s.size + 1) (initial s g) = some l ∧ t = ofLevels s l := by
  simp only [ofRules] at h
  split at h
  · next l hsettle => exact ⟨l, hsettle, (Except.ok.inj h).symm⟩
  · cases h

theorem level_eq (h : ofRules s (.ofRules s) = .ok t) (hlevel : t.levels[i]? = some level) :
    level = s.ids.filter fun id => t.stratum? id = some i := by
  obtain ⟨l, -, rfl⟩ := settle_of_ofRules h
  simp only [ofLevels] at hlevel
  split at hlevel
  · simp at hlevel
  · rw [List.getElem?_map] at hlevel
    obtain ⟨j, hj, rfl⟩ := Option.map_eq_some_iff.mp hlevel
    obtain ⟨hlt, rfl⟩ := List.getElem?_eq_some_iff.mp hj
    simp [stratum?, ofLevels]

theorem mem_level (h : ofRules s (.ofRules s) = .ok t) (hlevel : t.levels[i]? = some level) :
    id ∈ level ↔ id ∈ s.ids ∧ t.stratum? id = some i := by
  rw [level_eq h hlevel, List.mem_filter, decide_eq_true_eq]

theorem exists_level (h : ofRules s (.ofRules s) = .ok t) (hid : id ∈ s.ids) :
    ∃ (i : Nat) (level : List RuleId), t.levels[i]? = some level ∧ id ∈ level := by
  obtain ⟨l, hsettle, hl⟩ := settle_of_ofRules h
  have hfirst : ((initial s (.ofRules s)).lookup id).isSome = true := by
    simpa [List.lookup_isSome_iff, initial] using hid
  obtain ⟨i, hi⟩ := Option.isSome_iff_exists.mp (lookup_isSome_of_settle hsettle hfirst)
  have hne : s.rules ≠ [] := by
    rintro hnil
    simp [RuleSet.ids, hnil] at hid
  have hlt : i < t.levels.length := by
    simp [hl, ofLevels, hne, Nat.lt_succ_of_le (lookup_le_highest hi)]
  refine ⟨i, _, List.getElem?_eq_getElem hlt,
    (mem_level h (List.getElem?_eq_getElem hlt)).mpr ⟨hid, ?_⟩⟩
  rw [hl]
  exact hi

theorem map_fst_initial : (initial s (.ofRules s)).map Prod.fst = s.ids := by
  simp [initial, Function.comp_def]

theorem level_initial (hp : p ∈ s.ids) :
    (initial s (.ofRules s)).level p =
      if (DependencyGraph.ofRules s).isIndependent p then 0 else 1 := by
  have hkeys : ((initial s (.ofRules s)).map Prod.fst).Nodup := by
    rw [map_fst_initial]
    exact s.distinct
  have hmem : (p, if (DependencyGraph.ofRules s).isIndependent p then 0 else 1) ∈
      initial s (.ofRules s) := List.mem_map_of_mem hp
  simp [Levels.level, (lookup_eq_some_iff_mem hkeys).mpr hmem]

theorem lt_length_levels (h : ofRules s (.ofRules s) = .ok t) :
    i < t.levels.length ↔ ∃ p ∈ s.ids, ∃ j, t.stratum? p = some j ∧ i ≤ j := by
  constructor
  · intro hi
    obtain ⟨l, hsettle, rfl⟩ := settle_of_ofRules h
    have hkeys : l.map Prod.fst = s.ids := by
      rw [← map_fst_initial]
      refine Levels.map_fst_settle hsettle fun e he => ?_
      rw [map_fst_initial]
      exact (DependencyGraph.mem_ids_of_mem_edges he).1
    simp only [ofLevels] at hi
    split at hi
    · cases hi
    · next hrules =>
      rw [List.length_map, List.length_range, Nat.lt_succ_iff] at hi
      have hne : l.map Prod.snd ≠ [] := by
        rintro hnil
        simp [List.map_eq_nil_iff.mp hnil, RuleSet.ids] at hkeys
        simp [hkeys] at hrules
      rw [List.foldl_max_eq_max hne, Nat.zero_max] at hi
      -- the highest number belongs to some rule
      obtain ⟨⟨p, j⟩, hmem, hj⟩ := List.mem_map.mp (List.max_mem hne)
      have hp : p ∈ s.ids := hkeys ▸ List.mem_map_of_mem hmem
      have hlookup : l.lookup p = some j :=
        (lookup_eq_some_iff_mem (hkeys ▸ s.distinct)).mpr hmem
      exact ⟨p, hp, j, hlookup, Nat.le_trans hi (Nat.le_of_eq hj.symm)⟩
  · rintro ⟨p, hp, j, hj, hij⟩
    obtain ⟨k, level, hlevel, hmem⟩ := exists_level h hp
    obtain ⟨-, hk⟩ := (mem_level h hlevel).mp hmem
    obtain rfl : j = k := Option.some.inj (hj.symm.trans hk)
    exact Nat.lt_of_le_of_lt hij (List.getElem?_eq_some_iff.mp hlevel).1

theorem stratum_le_of_mem_edges {e : Edge} {j : Nat} (h : ofRules s (.ofRules s) = .ok t)
    (he : e ∈ (DependencyGraph.ofRules s).edges) (hrule : t.stratum? e.rule = some i)
    (hprovider : t.stratum? e.provider = some j) : j + e.sign.weight ≤ i := by
  obtain ⟨l, hsettle, rfl⟩ := settle_of_ofRules h
  have hsat := Levels.settle_satisfies hsettle e he
  rw [Levels.required_eq] at hsat
  simp only [stratum?, ofLevels] at hrule hprovider
  simpa [Levels.level, hrule, hprovider] using hsat

end Stratification

end TripleRules
