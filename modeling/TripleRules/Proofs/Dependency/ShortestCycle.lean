import Mathlib.Data.List.Cycle
import TripleRules.Proofs.Dependency.Recursion
import TripleRules.Proofs.Dependency.Search

/-!
# The reported cycle

A rule set with recursion through a negation is refused with a cycle, and
`Recursion.check_reports_shortest` says which one: it takes the first negative edge that lies on
a cycle at all, no cycle that takes this edge is shorter, and it begins with the rule that is
declared first. The shortest way back from the provider of the edge to its rule is found breadth
first. It is enough to search the component of the rule, for no way back leaves it. The edge closes
the way, and turning the cycle keeps what is next to what.
-/

namespace TripleRules

open Search (IsPath isPath_cons_cons isPath_split)

-- ---------------------------------------------------------------------------
-- Closed lists
-- ---------------------------------------------------------------------------

section Closed

variable {α : Type} {a b x y : α} {l m : List α}

theorem rotateLeft_eq_rotate (l : List α) (n : Nat) : l.rotateLeft n = l.rotate n := by
  rw [List.rotate_eq_drop_append_take_mod, List.rotateLeft]
  split
  · next h =>
    rcases l with _ | ⟨a, _ | ⟨b, l⟩⟩
    · simp
    · simp [Nat.mod_one]
    · simp at h
  · rfl

theorem isChain_closed_iff {r : α → α → Prop} (h : (a :: l).IsRotated (b :: m)) :
    (a :: (l ++ [a])).IsChain r ↔ (b :: (m ++ [b])).IsChain r := by
  rw [← Cycle.chain_coe_cons, ← Cycle.chain_coe_cons, Cycle.coe_eq_coe.mpr h]

theorem pair_infix_iff : [x, y] <:+: l ↔ ¬ l.IsChain fun a b => ¬ (a = x ∧ b = y) := by
  rw [List.isChain_iff_forall_rel_of_append_cons_cons]
  constructor
  · rintro ⟨before, after, rfl⟩ h
    exact h (List.append_assoc before [x, y] after) ⟨rfl, rfl⟩
  · intro h
    push Not at h
    obtain ⟨_, _, before, after, rfl, rfl, rfl⟩ := h
    exact ⟨before, after, by simp⟩

theorem pair_infix_closed_iff (h : (a :: l).IsRotated (b :: m)) :
    [x, y] <:+: a :: (l ++ [a]) ↔ [x, y] <:+: b :: (m ++ [b]) := by
  rw [pair_infix_iff, pair_infix_iff, isChain_closed_iff h]

end Closed

-- ---------------------------------------------------------------------------
-- Cycles
-- ---------------------------------------------------------------------------

theorem Components.same_comm (c : Components) (p q : RuleId) : c.same p q = c.same q p := by
  simp [same, and_comm]

namespace DependencyGraph

variable {g : DependencyGraph} {s : RuleSet} {p q : RuleId} {e : Edge}
  {path cycle between rest : List RuleId}

/-- A rule, further rules and the first one again, each of which depends on the next. -/
def IsCycle (g : DependencyGraph) (path : List RuleId) : Prop :=
  ∃ p between, path = p :: (between ++ [p]) ∧ path.IsChain g.Depends

theorem isPath_iff_isChain :
    IsPath g.successors p p (p :: (between ++ [p])) ↔
      (p :: (between ++ [p])).IsChain g.Depends :=
  ⟨IsPath.chain, fun h => ⟨rfl, by rw [← List.cons_append, List.getLast?_concat], h⟩⟩

theorem exists_isPath (h : g.Reaches p q) : ∃ rest, IsPath g.successors p q (p :: rest) := by
  obtain ⟨rest, hchain, hlast⟩ := List.exists_isChain_cons_of_relationReflTransGen h
  exact ⟨rest, rfl, List.getLast?_eq_some_getLast _ ▸ congrArg some hlast, hchain⟩

theorem reaches_of_isPath (h : IsPath g.successors p q path) : g.Reaches p q := by
  obtain ⟨rest, rfl⟩ := List.head?_eq_some_iff.mp h.head
  have hreaches := List.relationReflTransGen_of_exists_isChain _ h.chain (List.cons_ne_nil p rest)
  have hlast := List.getLast?_eq_some_getLast (List.cons_ne_nil p rest)
  rw [h.last] at hlast
  rwa [← Option.some.inj hlast] at hreaches

theorem IsCycle.reaches (h : g.IsCycle cycle) (hp : p ∈ cycle) (hq : q ∈ cycle) :
    g.Reaches p q := by
  obtain ⟨first, between, rfl, hchain⟩ := h
  have hpath := isPath_iff_isChain.mpr hchain
  obtain ⟨_, after, hafter⟩ := List.append_of_mem hp
  obtain ⟨before, _, hbefore⟩ := List.append_of_mem hq
  exact (reaches_of_isPath (isPath_split.mp (hafter ▸ hpath)).2).trans
    (reaches_of_isPath (isPath_split.mp (hbefore ▸ hpath)).1)

theorem IsCycle.exists_back (h : g.IsCycle cycle) (hpq : [p, q] <:+: cycle) :
    ∃ path, IsPath g.successors q p path ∧ path.length + 1 = cycle.length := by
  obtain ⟨first, between, hcycle, hchain⟩ := h
  subst hcycle
  have hpath := isPath_iff_isChain.mpr hchain
  obtain ⟨before, after, heq⟩ := hpq
  rw [← heq, List.append_assoc, List.cons_append, List.singleton_append] at hpath
  obtain ⟨hto, hfrom⟩ := isPath_split.mp hpath
  obtain ⟨-, hfrom⟩ := isPath_cons_cons.mp hfrom
  -- from the provider on to the end, which is the beginning, and on to the rule
  obtain ⟨front, hfront⟩ := List.getLast?_eq_some_iff.mp hfrom.last
  obtain ⟨rest, hrest⟩ := List.head?_eq_some_iff.mp hto.head
  refine ⟨front ++ first :: rest, isPath_split.mpr ⟨hfront ▸ hfrom, hrest ▸ hto⟩, ?_⟩
  have hlength := congrArg List.length heq
  have hfront := congrArg List.length hfront
  have hrest := congrArg List.length hrest
  simp only [List.length_append, List.length_cons, List.length_nil] at hlength hfront hrest ⊢
  omega

theorem mem_nodes_of_successors (p q : RuleId) (hq : q ∈ (ofRules s).successors p) :
    q ∈ (ofRules s).nodes := by
  obtain ⟨sign, he⟩ := depends_ofRules.mp hq
  exact nodes_ofRules s ▸ (mem_ids_of_mem_edges he).2

theorem same_of_isPath (he : e ∈ (ofRules s).edges)
    (hpath : IsPath (ofRules s).successors e.provider e.rule path) (hp : p ∈ path) :
    (Components.ofGraph (.ofRules s) s.ids).same p e.rule = true := by
  obtain ⟨before, after, rfl⟩ := List.append_of_mem hp
  obtain ⟨hto, hfrom⟩ := isPath_split.mp hpath
  have hreaches := (depends_of_mem_edges he).reaches.trans (reaches_of_isPath hto)
  rw [Components.same_comm, Components.same_iff (mem_ids_of_mem_edges he).1]
  exact ⟨hreaches, reaches_of_isPath hfrom⟩

theorem cycleThrough_eq {c : Components} (hway : Search.way g.successors (c.same · p) q p
      (g.entries.length + 1) = between ++ [p])
    (hfirst : between ++ [p] = q :: rest) (hnot : p ∉ between) :
    c.cycleThrough g p q = p :: between := by
  have hends : (between ++ [p]).takeWhile (· ≠ p) = between := by
    have hall : ∀ r ∈ between, decide (r ≠ p) = true := fun r hr =>
      decide_eq_true fun heq => hnot (heq ▸ hr)
    rw [List.takeWhile_append_of_pos hall]
    simp
  simp only [Components.cycleThrough, hway, hends]
  split
  · next heq =>
    rcases between with _ | ⟨r, between⟩
    · rfl
    · obtain ⟨rfl, -⟩ := List.cons.inj hfirst
      exact absurd (heq ▸ List.mem_cons_self) hnot
  · rfl

/-- An edge that leads back is taken by a cycle without repetition, and none that takes it is
shorter. -/
theorem exists_cycleThrough (he : e ∈ (ofRules s).edges)
    (hback : (ofRules s).Reaches e.provider e.rule) :
    ∃ between, (Components.ofGraph (.ofRules s) s.ids).cycleThrough (.ofRules s) e.rule e.provider =
        e.rule :: between ∧
      (e.rule :: between).Nodup ∧ (ofRules s).IsCycle (e.rule :: (between ++ [e.rule])) ∧
      [e.rule, e.provider] <:+: e.rule :: (between ++ [e.rule]) ∧
      ∀ cycle, (ofRules s).IsCycle cycle → [e.rule, e.provider] <:+: cycle →
        (e.rule :: between).length < cycle.length := by
  have hinside : ∀ path, IsPath (fun p => ((ofRules s).successors p).filter
        ((Components.ofGraph (.ofRules s) s.ids).same · e.rule)) e.provider e.rule path ↔
      IsPath (ofRules s).successors e.provider e.rule path := fun path =>
    Search.isPath_filter_iff fun path hpath p hp => same_of_isPath he hpath hp
  obtain ⟨rest, hrest⟩ := exists_isPath hback
  obtain ⟨hpath, hnodup, hshortest⟩ :=
    Search.way_shortest mem_nodes_of_successors ((hinside _).mpr hrest)
  have hfuel : (ofRules s).nodes.length = (ofRules s).entries.length := List.length_map ..
  rw [hfuel] at hpath hnodup hshortest
  rw [hinside] at hpath
  obtain ⟨between, hway⟩ := List.getLast?_eq_some_iff.mp hpath.last
  obtain ⟨after, hafter⟩ := List.head?_eq_some_iff.mp hpath.head
  rw [hway] at hpath hnodup hshortest hafter
  have hnot : e.rule ∉ between := (List.nodup_cons.mp (List.nodup_append_comm.mp hnodup)).1
  have hclosed : IsPath (ofRules s).successors e.rule e.rule (e.rule :: (between ++ [e.rule])) := by
    rw [hafter] at hpath ⊢
    exact isPath_cons_cons.mpr ⟨depends_of_mem_edges he, hpath⟩
  refine ⟨between, cycleThrough_eq hway hafter hnot, List.nodup_append_comm.mp hnodup,
    ⟨_, _, rfl, hclosed.chain⟩, ?_, fun cycle hcycle htakes => ?_⟩
  · exact ⟨[], after, by rw [hafter]; rfl⟩
  · obtain ⟨back, hback, hlength⟩ := hcycle.exists_back htakes
    have hle := hshortest back ((hinside back).mpr hback)
    simp only [List.length_append, List.length_cons, List.length_nil] at hle ⊢
    omega

end DependencyGraph

-- ---------------------------------------------------------------------------
-- Turning a cycle
-- ---------------------------------------------------------------------------

namespace RuleSet

variable {s : RuleSet} {p : RuleId}

theorem rank_eq_idxOf (s : RuleSet) (p : RuleId) : s.rank p = s.ids.idxOf p := by
  rw [rank, position?, List.idxOf, List.findIdx_eq_getD_findIdx?, ids, List.length_map]
  rfl

theorem exists_rotate (hp : p ∈ s.ids) (rest : List RuleId) :
    ∃ first between, s.rotate (p :: rest) = first :: (between ++ [first]) ∧
      (p :: rest).IsRotated (first :: between) ∧
      ∀ q ∈ p :: rest, s.ids.idxOf first ≤ s.ids.idxOf q := by
  have hleast : (s.size :: (p :: rest).map s.rank).min? =
      some (((p :: rest).map s.rank).foldl min s.size) := List.min?_cons'
  obtain ⟨hmin, hle⟩ := List.min?_eq_some_iff.mp hleast
  -- a rule of the set has a place before the end
  have hlt : s.rank p < s.size := by
    have h := List.idxOf_lt_length_of_mem hp
    rwa [← rank_eq_idxOf, ids, List.length_map] at h
  obtain ⟨q, hq, hrank⟩ : ∃ q ∈ p :: rest,
      s.rank q = ((p :: rest).map s.rank).foldl min s.size := by
    refine List.mem_map.mp ((List.mem_cons.mp hmin).resolve_left fun heq => ?_)
    have hfirst := hle _ (List.mem_cons_of_mem _ (List.mem_map_of_mem List.mem_cons_self))
    omega
  obtain ⟨n, hn⟩ : ∃ n, (p :: rest).findIdx?
      (fun q => s.rank q = ((p :: rest).map s.rank).foldl min s.size) = some n := by
    rw [← Option.isSome_iff_exists, List.findIdx?_isSome, List.any_eq_true]
    exact ⟨q, hq, decide_eq_true hrank⟩
  obtain ⟨hlength, hfirst, -⟩ := List.findIdx?_eq_some_iff_getElem.mp hn
  have hhead := List.head?_rotate hlength
  rw [List.getElem?_eq_getElem hlength] at hhead
  obtain ⟨between, hturned⟩ := List.head?_eq_some_iff.mp hhead
  refine ⟨_, between, ?_, ⟨n, hturned⟩, fun q hq => ?_⟩
  · simp only [rotate, hn, Option.getD_some, rotateLeft_eq_rotate, hturned]
    rfl
  · rw [← rank_eq_idxOf, ← rank_eq_idxOf, of_decide_eq_true hfirst]
    exact hle _ (List.mem_cons_of_mem _ (List.mem_map_of_mem hq))

end RuleSet

-- ---------------------------------------------------------------------------
-- The check
-- ---------------------------------------------------------------------------

namespace Recursion

open DependencyGraph (IsCycle)

variable {s : RuleSet} {c : IllegalCycle} {e : Edge}

theorem edges_eq_flatMap (s : RuleSet) :
    s.ids.flatMap (DependencyGraph.ofRules s).edgesFrom = (DependencyGraph.ofRules s).edges := by
  rw [RuleSet.ids, List.flatMap_map, DependencyGraph.edges, DependencyGraph.ofRules,
    List.flatMap_map]
  exact List.flatMap_congr fun r hr => DependencyGraph.edgesFrom_ofRules hr

theorem same_iff_exists_isCycle (he : e ∈ (DependencyGraph.ofRules s).edges) :
    (Components.ofGraph (.ofRules s) s.ids).same e.rule e.provider = true ↔
      ∃ cycle, (DependencyGraph.ofRules s).IsCycle cycle ∧ e.rule ∈ cycle ∧ e.provider ∈ cycle := by
  rw [Components.same_iff (DependencyGraph.mem_ids_of_mem_edges he).1]
  constructor
  · rintro ⟨-, hback⟩
    obtain ⟨between, -, -, hcycle, hinfix, -⟩ := DependencyGraph.exists_cycleThrough he hback
    exact ⟨_, hcycle, hinfix.subset (by simp), hinfix.subset (by simp)⟩
  · rintro ⟨cycle, hcycle, hp, hq⟩
    exact ⟨hcycle.reaches hp hq, hcycle.reaches hq hp⟩

theorem negativeEdge?_eq_some
    (h : negativeEdge? (.ofRules s) s (Components.ofGraph (.ofRules s) s.ids) = some e) :
    (DependencyGraph.ofRules s).Reaches e.provider e.rule ∧ e.sign = .negative ∧
      ∃ before after, (DependencyGraph.ofRules s).edges = before ++ e :: after ∧
        ∀ d ∈ before, d.sign = .negative → ¬ ∃ cycle, (DependencyGraph.ofRules s).IsCycle cycle ∧
          d.rule ∈ cycle ∧ d.provider ∈ cycle := by
  rw [negativeEdge?, edges_eq_flatMap, List.find?_eq_some_iff_append] at h
  obtain ⟨he, before, after, hedges, hbefore⟩ := h
  rw [Bool.and_eq_true, decide_eq_true_eq] at he
  have hmem : ∀ d ∈ before ++ e :: after, d ∈ (DependencyGraph.ofRules s).edges := fun d hd =>
    hedges ▸ hd
  have hids := DependencyGraph.mem_ids_of_mem_edges (hmem e (by simp))
  refine ⟨((Components.same_iff hids.1).mp he.2).2, he.1, before, after, hedges, ?_⟩
  intro d hd hsign hcycle
  have hsame := (same_iff_exists_isCycle (hmem d (List.mem_append_left _ hd))).mpr hcycle
  simpa [hsign, hsame] using hbefore d hd

/-- The reported path begins and ends with the rule on it that is declared first and repeats
no other. It takes the first negative edge of the rule set that lies on a cycle, and no cycle
that takes this edge is shorter. -/
theorem check_reports_shortest (h : check (.ofRules s) s = .error c) :
    ∃ first between before e after,
      c.path = first :: (between ++ [first]) ∧ c.labels = c.path.map s.label ∧
      (DependencyGraph.ofRules s).IsCycle c.path ∧ (first :: between).Nodup ∧
      (∀ p ∈ c.path, s.ids.idxOf first ≤ s.ids.idxOf p) ∧
      (DependencyGraph.ofRules s).edges = before ++ e :: after ∧ e.sign = .negative ∧
      [e.rule, e.provider] <:+: c.path ∧
      (∀ d ∈ before, d.sign = .negative → ¬ ∃ cycle, (DependencyGraph.ofRules s).IsCycle cycle ∧
        d.rule ∈ cycle ∧ d.provider ∈ cycle) ∧
      ∀ cycle, (DependencyGraph.ofRules s).IsCycle cycle → [e.rule, e.provider] <:+: cycle →
        c.path.length ≤ cycle.length := by
  simp only [check] at h
  split at h
  · next e hedge =>
    obtain ⟨hback, hsign, before, after, hedges, hfirst⟩ := negativeEdge?_eq_some hedge
    have he : e ∈ (DependencyGraph.ofRules s).edges := hedges ▸ by simp
    obtain ⟨rest, hthrough, hnodup, ⟨_, _, hclosed, hchain⟩, hinfix, hshortest⟩ :=
      DependencyGraph.exists_cycleThrough he hback
    obtain ⟨first, between, hrotate, hturned, hle⟩ :=
      s.exists_rotate (DependencyGraph.mem_ids_of_mem_edges he).1 rest
    rw [hthrough, hrotate] at h
    obtain rfl := Except.error.inj h
    refine ⟨first, between, before, e, after, rfl, rfl, ?_, hturned.nodup_iff.mp hnodup, ?_, hedges,
      hsign, (pair_infix_closed_iff hturned).mp hinfix, hfirst, fun cycle hcycle htakes => ?_⟩
    · exact ⟨first, between, rfl, (isChain_closed_iff hturned).mp hchain⟩
    · intro p hp
      rw [← List.cons_append, List.mem_append, List.mem_singleton] at hp
      exact hle p (hturned.mem_iff.mpr (hp.elim id fun heq => heq ▸ List.mem_cons_self))
    · have hlt := hshortest cycle hcycle htakes
      have hlength := hturned.perm.length_eq
      simp only [List.length_append, List.length_cons, List.length_nil] at hlt hlength ⊢
      omega
  · cases h

/-- A seat is free unless it is taken, and taken if it is claimed; it is claimed unless the claim
is withdrawn, and that is done for seats that are taken and offered to others. -/
def seats : RuleSet where
  rules := [
    ⟨⟨0⟩, some "free", [⟨.ofVariable "x", .ofIri "is", .ofIri "free"⟩],
      [.pattern ⟨.ofVariable "x", .ofIri "is", .ofIri "listed"⟩,
        .negation [.pattern ⟨.ofVariable "x", .ofIri "is", .ofIri "taken"⟩]]⟩,
    ⟨⟨1⟩, some "taken", [⟨.ofVariable "x", .ofIri "is", .ofIri "taken"⟩],
      [.pattern ⟨.ofVariable "x", .ofIri "is", .ofIri "claimed"⟩]⟩,
    ⟨⟨2⟩, some "claimed", [⟨.ofVariable "x", .ofIri "is", .ofIri "claimed"⟩],
      [.pattern ⟨.ofVariable "x", .ofIri "is", .ofIri "listed"⟩,
        .negation [.pattern ⟨.ofVariable "x", .ofIri "is", .ofIri "withdrawn"⟩]]⟩,
    ⟨⟨3⟩, some "withdrawn", [⟨.ofVariable "x", .ofIri "is", .ofIri "withdrawn"⟩],
      [.pattern ⟨.ofVariable "x", .ofIri "is", .ofIri "offered"⟩,
        .pattern ⟨.ofVariable "x", .ofIri "is", .ofIri "taken"⟩]⟩,
    ⟨⟨4⟩, some "offered", [⟨.ofVariable "x", .ofIri "is", .ofIri "offered"⟩],
      [.pattern ⟨.ofVariable "x", .ofIri "is", .ofIri "taken"⟩]⟩]
  data := []
  distinct := by decide

/-- The first negative edge lies on no cycle, and a longer cycle through the second one is found
first. -/
theorem check_reports_shortest_seats :
    check (.ofRules seats) seats =
      .error ⟨[⟨1⟩, ⟨2⟩, ⟨3⟩, ⟨1⟩], ["taken", "claimed", "withdrawn", "taken"]⟩ ∧
    (DependencyGraph.ofRules seats).IsCycle [⟨1⟩, ⟨2⟩, ⟨3⟩, ⟨1⟩] ∧
    ∃ e ∈ (DependencyGraph.ofRules seats).edges, e.sign = .negative ∧
      [e.rule, e.provider] <:+: [⟨1⟩, ⟨2⟩, ⟨3⟩, ⟨1⟩] ∧
      ∀ cycle, (DependencyGraph.ofRules seats).IsCycle cycle → [e.rule, e.provider] <:+: cycle →
        4 ≤ cycle.length := by
  have hcheck : check (.ofRules seats) seats =
      .error ⟨[⟨1⟩, ⟨2⟩, ⟨3⟩, ⟨1⟩], ["taken", "claimed", "withdrawn", "taken"]⟩ := by decide +kernel
  obtain ⟨_, _, before, e, after, -, -, hcycle, -, -, hedges, hsign, hinfix, -, hshortest⟩ :=
    check_reports_shortest hcheck
  exact ⟨hcheck, hcycle, e, hedges ▸ by simp, hsign, hinfix, hshortest⟩

end Recursion

end TripleRules
