import Mathlib.Data.List.Forall2
import Mathlib.Order.Bounds.Basic
import TripleRules.Proofs.Dependency.Strata

/-!
# Only what rules say counts

Dependencies are read off heads and bodies. So rule sets that say the same, in whatever
order, however often and under whatever identities and names, have corresponding
dependencies; both or neither recurse through negation, and rules that say the same
are in the same stratum.
-/

namespace TripleRules

open DependencyGraph (HasNegativeCycle Reaches)

variable {s s' : RuleSet} {r r' q : Rule} {rs rs' : List Rule} {counted : Prop}

namespace Rule

def form (r : Rule) : List Triple × List BodyElement := (r.head, r.body)

theorem head_of_form (h : r.form = r'.form) : r.head = r'.head := congrArg Prod.fst h

theorem body_of_form (h : r.form = r'.form) : r.body = r'.body := congrArg Prod.snd h

/-- The rules of two lists say the same, and equally often if that is counted. -/
structure SameForms (counted : Prop) (rs rs' : List Rule) : Prop where
  mem : ∀ f, f ∈ rs.map form ↔ f ∈ rs'.map form
  perm : counted → (rs.map form).Perm (rs'.map form)

namespace SameForms

theorem symm (h : SameForms counted rs rs') : SameForms counted rs' rs :=
  ⟨fun f => (h.mem f).symm, fun hcounted => (h.perm hcounted).symm⟩

theorem exists_form (h : SameForms counted rs rs') (hr : r ∈ rs) :
    ∃ r' ∈ rs', r.form = r'.form := by
  obtain ⟨r', hr', hform⟩ := List.mem_map.mp ((h.mem r.form).mp (List.mem_map_of_mem hr))
  exact ⟨r', hr', hform.symm⟩

theorem eq_nil_iff (h : SameForms counted rs rs') : rs = [] ↔ rs' = [] := by
  constructor
  · rintro rfl
    refine List.eq_nil_iff_forall_not_mem.mpr fun r' hr' => ?_
    obtain ⟨r, hr, -⟩ := h.symm.exists_form hr'
    cases hr
  · rintro rfl
    refine List.eq_nil_iff_forall_not_mem.mpr fun r hr => ?_
    obtain ⟨r', hr', -⟩ := h.exists_form hr
    cases hr'

theorem exists_test (h : SameForms counted rs rs') {P P' : Rule → Bool}
    (hP : ∀ r ∈ rs, ∀ r' ∈ rs', r.form = r'.form → P r = P' r') :
    ∃ Q : List Triple × List BodyElement → Bool,
      (∀ r ∈ rs, P r = Q r.form) ∧ ∀ r' ∈ rs', P' r' = Q r'.form := by
  classical
  have hrs : ∀ r ∈ rs, P r = decide (∃ q ∈ rs, q.form = r.form ∧ P q = true) := fun r hr => by
    rw [Bool.eq_iff_iff, decide_eq_true_eq]
    constructor
    · intro hp
      exact ⟨r, hr, rfl, hp⟩
    · rintro ⟨q, hq, hform, hp⟩
      obtain ⟨r', hr', hform'⟩ := h.exists_form hr
      rw [hP r hr r' hr' hform', ← hP q hq r' hr' (hform.trans hform')]
      exact hp
  refine ⟨fun f => ∃ q ∈ rs, q.form = f ∧ P q = true, hrs, fun r' hr' => ?_⟩
  obtain ⟨r, hr, hform⟩ := h.symm.exists_form hr'
  rw [← hP r hr r' hr' hform.symm, hrs r hr, hform]

theorem map_form_filter {P : Rule → Bool} {Q : List Triple × List BodyElement → Bool}
    (hQ : ∀ r ∈ rs, P r = Q r.form) : (rs.filter P).map form = (rs.map form).filter Q := by
  rw [List.filter_map, List.filter_congr hQ]
  rfl

theorem filter (h : SameForms counted rs rs') {P P' : Rule → Bool}
    (hP : ∀ r ∈ rs, ∀ r' ∈ rs', r.form = r'.form → P r = P' r') :
    SameForms counted (rs.filter P) (rs'.filter P') := by
  obtain ⟨Q, hQ, hQ'⟩ := h.exists_test hP
  constructor
  · intro f
    rw [map_form_filter hQ, map_form_filter hQ', List.mem_filter, List.mem_filter, h.mem f]
  · intro hcounted
    rw [map_form_filter hQ, map_form_filter hQ']
    exact (h.perm hcounted).filter Q

end SameForms

end Rule

-- ---------------------------------------------------------------------------
-- Dependencies
-- ---------------------------------------------------------------------------

/-- Identities that belong to rules of two sets with the same form. -/
def RuleSet.Alike (s s' : RuleSet) (p p' : RuleId) : Prop :=
  ∃ r ∈ s.rules, ∃ r' ∈ s'.rules, r.id = p ∧ r'.id = p' ∧ r.form = r'.form

open RuleSet (Alike)

variable {p p' x x' : RuleId} {sign : Sign} {w : Nat} {visited : List RuleId}

theorem RuleSet.Alike.symm (h : Alike s s' p p') : Alike s' s p' p :=
  have ⟨r, hr, r', hr', hid, hid', hform⟩ := h
  ⟨r', hr', r, hr, hid', hid, hform.symm⟩

theorem RuleSet.Alike.mem_ids (h : Alike s s' p p') : p ∈ s.ids :=
  have ⟨_, hr, _, _, hid, _⟩ := h
  hid ▸ List.mem_map_of_mem hr

theorem RuleSet.exists_alike (hforms : ∀ r ∈ s.rules, ∃ r' ∈ s'.rules, r.form = r'.form)
    (hp : p ∈ s.ids) : ∃ p', Alike s s' p p' := by
  obtain ⟨r, hr, rfl⟩ := List.mem_map.mp hp
  obtain ⟨r', hr', hform⟩ := hforms r hr
  exact ⟨r'.id, r, hr, r', hr', rfl, rfl, hform⟩

inductive RuleSet.SameLevel (counted : Prop) (s s' : RuleSet) : List RuleId → List RuleId → Prop
  | intro {rs rs' : List Rule} : rs ⊆ s.rules → rs' ⊆ s'.rules → Rule.SameForms counted rs rs' →
      SameLevel counted s s' (rs.map Rule.id) (rs'.map Rule.id)

namespace DependencyGraph

theorem mem_edges_of_alike (hp : Alike s s' p p') (hx : Alike s s' x x')
    (h : ⟨p, sign, x⟩ ∈ (ofRules s).edges) : ⟨p', sign, x'⟩ ∈ (ofRules s').edges := by
  obtain ⟨r, hr, r', hr', rfl, rfl, hform⟩ := hp
  obtain ⟨q, hq, q', hq', rfl, rfl, hform'⟩ := hx
  rw [mem_edges_iff hr hq, Rule.body_of_form hform, Rule.head_of_form hform'] at h
  exact (mem_edges_iff hr' hq').mpr h

section
variable (hforms : ∀ r ∈ s.rules, ∃ r' ∈ s'.rules, r.form = r'.form)
include hforms

theorem Reaches.of_alike (hreaches : (ofRules s).Reaches p x) (hp : Alike s s' p p') :
    ∃ x', Alike s s' x x' ∧ (ofRules s').Reaches p' x' := by
  induction hreaches with
  | refl => exact ⟨p', hp, .refl p'⟩
  | tail _ hdepends ih =>
    obtain ⟨y', hy, hy'⟩ := ih
    obtain ⟨sign, hedge⟩ := depends_ofRules.mp hdepends
    obtain ⟨z', hz⟩ := RuleSet.exists_alike hforms (mem_ids_of_mem_edges hedge).2
    have hedge' := mem_edges_of_alike hy hz hedge
    exact ⟨z', hz, hy'.trans (depends_of_mem_edges hedge').reaches⟩

theorem HasNegativeCycle.of_forms (hcycle : (ofRules s).HasNegativeCycle) :
    (ofRules s').HasNegativeCycle := by
  obtain ⟨p, x, hedge, hreaches⟩ := hcycle
  obtain ⟨x', hx⟩ := RuleSet.exists_alike hforms (mem_ids_of_mem_edges hedge).2
  -- the way back may end in another rule with the form of the first
  obtain ⟨p', hp, hreaches'⟩ := Reaches.of_alike hforms hreaches hx
  exact ⟨p', x', mem_edges_of_alike hp hx hedge, hreaches'⟩

theorem Walk.of_alike (hwalk : Walk (ofRules s).edges p visited w x) (hp : Alike s s' p p') :
    ∃ visited' x', Alike s s' x x' ∧ Walk (ofRules s').edges p' visited' w x' := by
  induction hwalk generalizing p' with
  | nil p => exact ⟨[], p', hp, .nil p'⟩
  | cons hedge _ ih =>
    obtain ⟨y', hy⟩ := RuleSet.exists_alike hforms (mem_ids_of_mem_edges hedge).2
    obtain ⟨visited', x', hx, hwalk'⟩ := ih hy
    exact ⟨p' :: visited', x', hx, .cons (mem_edges_of_alike hp hy hedge) hwalk'⟩

end

theorem isIndependent_of_alike (h : Rule.SameForms counted s.rules s'.rules)
    (hp : Alike s s' p p') (hfree : (ofRules s).isIndependent p = true) :
    (ofRules s').isIndependent p' = true := by
  obtain ⟨r, hr, r', hr', rfl, rfl, hform⟩ := hp
  rw [isIndependent_iff (List.mem_map_of_mem hr)] at hfree
  refine (isIndependent_iff (List.mem_map_of_mem hr')).mpr fun sign x' hedge => ?_
  obtain ⟨x, hx⟩ :=
    RuleSet.exists_alike (fun _ => h.symm.exists_form) (mem_ids_of_mem_edges hedge).2
  exact hfree sign x (mem_edges_of_alike ⟨r', hr', r, hr, rfl, rfl, hform.symm⟩ hx hedge)

end DependencyGraph

-- ---------------------------------------------------------------------------
-- Strata
-- ---------------------------------------------------------------------------

namespace Levels

variable {edges : List Edge} {first settled l : Levels} {n : Nat}

def requirements (edges : List Edge) (first : Levels) (p : RuleId) : Set Nat :=
  {k | ∃ visited w q, Walk edges p visited w q ∧ k = first.level q + w}

theorem walk_le_of_satisfies (hsat : l.Satisfies edges) (hfirst : ∀ p, first.level p ≤ l.level p)
    (hwalk : Walk edges p visited w x) : first.level x + w ≤ l.level p := by
  induction hwalk with
  | nil p => exact hfirst p
  | cons hedge _ ih =>
    have hrequired := hsat _ hedge
    rw [required_eq] at hrequired
    omega

/-- The number on which a rule settles is the greatest that its walks require. -/
theorem settle_isGreatest (h : settle edges n first = some settled) (p : RuleId) :
    IsGreatest (requirements edges first p) (settled.level p) := by
  have hrealised : Realised edges first settled := settle_induction h
    (fun p => ⟨[], 0, p, .nil p, rfl⟩) fun _ _ _ he hl => hl.relax he
  refine ⟨hrealised p, ?_⟩
  rintro k ⟨visited, w, q, hwalk, rfl⟩
  exact walk_le_of_satisfies (settle_satisfies h) (le_settle h) hwalk

end Levels

namespace Stratification

variable {t t' : Stratification} {i : Nat} {level : List RuleId}

section
variable (h : Rule.SameForms counted s.rules s'.rules)
include h

theorem level_initial_of_alike (hp : Alike s s' p p') :
    (initial s (.ofRules s)).level p = (initial s' (.ofRules s')).level p' := by
  have hindependent : (DependencyGraph.ofRules s).isIndependent p =
      (DependencyGraph.ofRules s').isIndependent p' := by
    rw [Bool.eq_iff_iff]
    exact ⟨DependencyGraph.isIndependent_of_alike h hp,
      DependencyGraph.isIndependent_of_alike h.symm hp.symm⟩
  rw [level_initial hp.mem_ids, level_initial hp.symm.mem_ids, hindependent]

theorem requirements_subset_of_alike (hp : Alike s s' p p') :
    Levels.requirements (DependencyGraph.ofRules s).edges (initial s (.ofRules s)) p ⊆
      Levels.requirements (DependencyGraph.ofRules s').edges (initial s' (.ofRules s')) p' := by
  rintro k ⟨visited, w, x, hwalk, rfl⟩
  obtain ⟨visited', x', hx, hwalk'⟩ :=
    DependencyGraph.Walk.of_alike (fun _ => h.exists_form) hwalk hp
  exact ⟨visited', w, x', hwalk', by rw [level_initial_of_alike h hx]⟩

theorem stratum?_of_alike (ht : ofRules s (.ofRules s) = .ok t)
    (ht' : ofRules s' (.ofRules s') = .ok t') (hp : Alike s s' p p') :
    ∃ i, t.stratum? p = some i ∧ t'.stratum? p' = some i := by
  obtain ⟨i, level, hlevel, hmem⟩ := exists_level ht hp.mem_ids
  obtain ⟨i', level', hlevel', hmem'⟩ := exists_level ht' hp.symm.mem_ids
  have hi := ((mem_level ht hlevel).mp hmem).2
  have hi' := ((mem_level ht' hlevel').mp hmem').2
  obtain ⟨l, hsettle, rfl⟩ := settle_of_ofRules ht
  obtain ⟨l', hsettle', rfl⟩ := settle_of_ofRules ht'
  have hsame := (requirements_subset_of_alike h hp).antisymm
    (requirements_subset_of_alike h.symm hp.symm)
  have hgreatest := Levels.settle_isGreatest hsettle p
  rw [hsame] at hgreatest
  have hlevels : l.level p = l'.level p' :=
    hgreatest.unique (Levels.settle_isGreatest hsettle' p')
  simp only [stratum?, ofLevels] at hi hi'
  simp only [Levels.level, hi, hi', Option.getD_some] at hlevels
  exact ⟨i, hi, hlevels ▸ hi'⟩

theorem length_levels_le (ht : ofRules s (.ofRules s) = .ok t)
    (ht' : ofRules s' (.ofRules s') = .ok t') : t.levels.length ≤ t'.levels.length := by
  refine Nat.le_of_not_lt fun hlt => ?_
  obtain ⟨p, hp, j, hj, hle⟩ := (lt_length_levels ht).mp hlt
  obtain ⟨p', hp'⟩ := RuleSet.exists_alike (fun _ => h.exists_form) hp
  obtain ⟨i, hi, hi'⟩ := stratum?_of_alike h ht ht' hp'
  obtain rfl := Option.some.inj (hi.symm.trans hj)
  exact Nat.lt_irrefl _ ((lt_length_levels ht').mpr ⟨p', hp'.symm.mem_ids, i, hi', hle⟩)

theorem levels_of_sameForms (ht : ofRules s (.ofRules s) = .ok t)
    (ht' : ofRules s' (.ofRules s') = .ok t') :
    List.Forall₂ (RuleSet.SameLevel counted s s') t.levels t'.levels := by
  have hlength := Nat.le_antisymm (length_levels_le h ht ht') (length_levels_le h.symm ht' ht)
  refine List.forall₂_iff_get.mpr ⟨hlength, fun i hi hi' => ?_⟩
  have hlevel := level_eq ht (List.getElem?_eq_getElem hi)
  have hlevel' := level_eq ht' (List.getElem?_eq_getElem hi')
  simp only [List.get_eq_getElem, hlevel, hlevel', RuleSet.ids, List.filter_map]
  refine .intro (List.filter_subset_self _) (List.filter_subset_self _)
    (h.filter fun r hr r' hr' hform => ?_)
  obtain ⟨j, hj, hj'⟩ := stratum?_of_alike h ht ht' ⟨r, hr, r', hr', rfl, rfl, hform⟩
  simp [hj, hj']

end

end Stratification

end TripleRules
