import Mathlib.Data.List.Nodup
import Mathlib.Logic.Relation
import Mathlib.Tactic.ByContra
import TripleRules.Dependency.Basic
import TripleRules.Proofs.Dictionary

/-!
# Direct and indirect dependencies

`Depends` reads the edges out of a rule and forgets their signs; `Reaches` is
its closure, the rule itself included. In the graph of a rule set the edges
listed for a rule are exactly the edges of the graph that leave it.
-/

namespace TripleRules.DependencyGraph

def Depends (g : DependencyGraph) (p q : RuleId) : Prop := q ∈ g.successors p

def Reaches (g : DependencyGraph) : RuleId → RuleId → Prop := Relation.ReflTransGen g.Depends

/-- Some rule depends negatively on a rule that depends on it in turn. -/
def HasNegativeCycle (g : DependencyGraph) : Prop :=
  ∃ p q, ⟨p, .negative, q⟩ ∈ g.edges ∧ g.Reaches q p

variable {g : DependencyGraph} {s : RuleSet} {p q : RuleId} {e : Edge}

theorem Reaches.refl (p : RuleId) : g.Reaches p p := Relation.ReflTransGen.refl

theorem Reaches.trans {r : RuleId} (h : g.Reaches p q) (k : g.Reaches q r) : g.Reaches p r :=
  Relation.ReflTransGen.trans h k

theorem Depends.reaches (h : g.Depends p q) : g.Reaches p q := Relation.ReflTransGen.single h

-- ---------------------------------------------------------------------------
-- The graph of a rule set
-- ---------------------------------------------------------------------------

theorem nodes_ofRules (s : RuleSet) : (ofRules s).nodes = s.ids := by
  simp [nodes, ofRules, RuleSet.ids, Function.comp_def]

theorem edgesFrom_ofRules {r : Rule} (hr : r ∈ s.rules) :
    (ofRules s).edgesFrom r.id = Dependency.edgesOf s.rules r := by
  have hd : ((ofRules s).entries.map Prod.fst).Nodup := by
    rw [show (ofRules s).entries.map Prod.fst = s.ids from nodes_ofRules s]
    exact s.distinct
  have hm : (r.id, Dependency.edgesOf s.rules r) ∈ (ofRules s).entries :=
    List.mem_map.mpr ⟨r, hr, rfl⟩
  simp [edgesFrom, (lookup_eq_some_iff_mem hd).mpr hm]

theorem rule_of_mem_edgesOf {rules : List Rule} {r : Rule} (h : e ∈ Dependency.edgesOf rules r) :
    e.rule = r.id := by
  simp only [Dependency.edgesOf, List.mem_eraseDups, List.mem_flatMap, List.mem_map] at h
  obtain ⟨_, -, _, -, rfl⟩ := h
  rfl

theorem provider_mem_of_mem_edgesOf {rules : List Rule} {r : Rule}
    (h : e ∈ Dependency.edgesOf rules r) : e.provider ∈ rules.map Rule.id := by
  simp only [Dependency.edgesOf, List.mem_eraseDups, List.mem_flatMap, List.mem_map,
    Dependency.providers] at h
  obtain ⟨_, -, _, ⟨q, hq, rfl⟩, rfl⟩ := h
  exact List.mem_map.mpr ⟨q, (List.mem_filter.mp hq).1, rfl⟩

theorem mem_edges_ofRules :
    e ∈ (ofRules s).edges ↔ ∃ r ∈ s.rules, e ∈ Dependency.edgesOf s.rules r := by
  simp [edges, ofRules, List.flatMap_map]

theorem mem_edges_iff {r q : Rule} {sign : Sign} (hr : r ∈ s.rules) (hq : q ∈ s.rules) :
    ⟨r.id, sign, q.id⟩ ∈ (ofRules s).edges ↔
      ∃ p, (sign, p) ∈ Dependency.signedPatternsOfBody .positive r.body ∧
        ∃ template ∈ q.head, Dependency.overlaps p template = true := by
  have hinj : ∀ {a b : Rule}, a ∈ s.rules → b ∈ s.rules → a.id = b.id → a = b := fun ha hb h =>
    List.inj_on_of_nodup_map s.distinct ha hb h
  simp only [mem_edges_ofRules, Dependency.edgesOf, List.mem_eraseDups, List.mem_flatMap,
    List.mem_map, Dependency.providers, List.mem_filter, List.any_eq_true]
  constructor
  · rintro ⟨r', hr', ⟨sign', p⟩, hp, _, ⟨q', ⟨hq', htemplate⟩, rfl⟩, hedge⟩
    obtain ⟨hrule, rfl, hprovider⟩ := Edge.mk.inj hedge
    obtain rfl := hinj hr' hr hrule
    obtain rfl := hinj hq' hq hprovider
    exact ⟨p, hp, htemplate⟩
  · rintro ⟨p, hp, htemplate⟩
    exact ⟨r, hr, (sign, p), hp, q.id, ⟨q, ⟨hq, htemplate⟩, rfl⟩, rfl⟩

theorem edgesFrom_eq_nil (h : p ∉ g.nodes) : g.edgesFrom p = [] := by
  have : g.entries.lookup p = none := by
    rw [List.lookup_eq_none_iff]
    intro e he
    have : p ≠ e.1 := fun heq => h (List.mem_map.mpr ⟨e, he, heq.symm⟩)
    simpa using this
  simp [edgesFrom, this]

theorem mem_edgesFrom_ofRules :
    e ∈ (ofRules s).edgesFrom p ↔ e ∈ (ofRules s).edges ∧ e.rule = p := by
  constructor
  · intro h
    have hp : p ∈ (ofRules s).nodes := by
      by_contra hn
      simp [edgesFrom_eq_nil hn] at h
    rw [nodes_ofRules] at hp
    obtain ⟨r, hr, rfl⟩ := List.mem_map.mp hp
    rw [edgesFrom_ofRules hr] at h
    exact ⟨mem_edges_ofRules.mpr ⟨r, hr, h⟩, rule_of_mem_edgesOf h⟩
  · rintro ⟨h, rfl⟩
    obtain ⟨r, hr, h⟩ := mem_edges_ofRules.mp h
    rwa [rule_of_mem_edgesOf h, edgesFrom_ofRules hr]

theorem depends_of_mem_edges (h : e ∈ (ofRules s).edges) : (ofRules s).Depends e.rule e.provider :=
  List.mem_map.mpr ⟨e, mem_edgesFrom_ofRules.mpr ⟨h, rfl⟩, rfl⟩

theorem depends_ofRules : (ofRules s).Depends p q ↔ ∃ sign, ⟨p, sign, q⟩ ∈ (ofRules s).edges := by
  constructor
  · intro h
    obtain ⟨e, he, rfl⟩ := List.mem_map.mp h
    obtain ⟨hm, rfl⟩ := mem_edgesFrom_ofRules.mp he
    exact ⟨e.sign, hm⟩
  · rintro ⟨sign, h⟩
    exact depends_of_mem_edges h

theorem mem_ids_of_mem_edges (h : e ∈ (ofRules s).edges) : e.rule ∈ s.ids ∧ e.provider ∈ s.ids := by
  obtain ⟨r, hr, h⟩ := mem_edges_ofRules.mp h
  refine ⟨?_, provider_mem_of_mem_edgesOf h⟩
  rw [rule_of_mem_edgesOf h]
  exact List.mem_map.mpr ⟨r, hr, rfl⟩

theorem isIndependent_iff (hp : p ∈ s.ids) :
    (ofRules s).isIndependent p = true ↔ ∀ sign q, ⟨p, sign, q⟩ ∉ (ofRules s).edges := by
  have hnode : (ofRules s).contains p = true := by rwa [contains, decide_eq_true_eq, nodes_ofRules]
  simp only [isIndependent, hnode, Bool.true_and, List.isEmpty_iff,
    List.eq_nil_iff_forall_not_mem, mem_edgesFrom_ofRules]
  constructor
  · intro h sign q hq
    exact h _ ⟨hq, rfl⟩
  · rintro h ⟨_, sign, q⟩ ⟨he, rfl⟩
    exact h sign q he

end TripleRules.DependencyGraph
