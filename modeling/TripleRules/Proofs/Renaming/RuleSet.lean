import TripleRules.Proofs.Dependency.Relabel
import TripleRules.Proofs.Engine.Order
import TripleRules.Proofs.Renaming.Basic

/-!
# Rule sets under other names

Where every rule of a set is renamed, each in its own way, the dependencies of the rules
stay, position by position and in their order (`RuleSet.Renames.graph`).
-/

namespace TripleRules

variable {m : RuleId → RuleId} {s s' : RuleSet} {id : RuleId} {r r' : Rule} {rs rs' : List Rule}

def Edge.map (m : RuleId → RuleId) (e : Edge) : Edge := ⟨m e.rule, e.sign, m e.provider⟩

def DependencyGraph.map (m : RuleId → RuleId) (g : DependencyGraph) : DependencyGraph :=
  ⟨g.entries.map (Prod.map m (List.map (Edge.map m)))⟩

def Rule.RenamesAs (m : RuleId → RuleId) (r r' : Rule) : Prop := r'.id = m r.id ∧ r.Renames r'

structure RuleSet.Renames (m : RuleId → RuleId) (s s' : RuleSet) : Prop where
  rules : List.Forall₂ (Rule.RenamesAs m) s.rules s'.rules
  data : s'.data = s.data

theorem RuleSet.exists_renames (hrules : List.Forall₂ Rule.Renames s.rules s'.rules)
    (hdata : s'.data = s.data) : ∃ m, Renames m s s' := by
  -- an identity becomes the one at its position
  refine ⟨fun p => s'.ids.getD (s.ids.idxOf p) p, ?_, hdata⟩
  refine List.forall₂_iff_get.mpr ⟨hrules.length_eq, fun i hi hi' => ⟨?_, hrules.get hi hi'⟩⟩
  have hlt : i < s.ids.length := by rwa [ids, List.length_map]
  have hid : s.ids[i] = s.rules[i].id := List.getElem_map _
  have hindex : s.ids.idxOf s.rules[i].id = i := hid ▸ List.Nodup.idxOf_getElem s.distinct i hlt
  simp only [List.get_eq_getElem, hindex]
  simp [ids, hi']

namespace Dependency

theorem eraseDups_map {α β : Type} [DecidableEq α] [DecidableEq β] {f : α → β} :
    ∀ {l : List α}, Set.InjOn f {a | a ∈ l} → (l.map f).eraseDups = l.eraseDups.map f
  | [], _ => rfl
  | a :: rest, hf => by
    have hfilter : (rest.map f).filter (fun b => !b == f a) =
        (rest.filter fun b => !b == a).map f := by
      rw [List.filter_map]
      congr 1
      refine List.filter_congr fun b hb => ?_
      have heq : f b = f a ↔ b = a := hf.eq_iff (List.mem_cons_of_mem _ hb) List.mem_cons_self
      simp [heq]
    rw [List.map_cons, List.eraseDups_cons, List.eraseDups_cons, hfilter, List.map_cons,
      eraseDups_map (hf.mono fun b hb => List.mem_cons_of_mem _ (List.mem_filter.mp hb).1)]
  termination_by l => l.length
  decreasing_by exact Nat.lt_succ_of_le (List.length_filter_le _ _)

theorem providers_rename (h : List.Forall₂ (Rule.RenamesAs m) rs rs') {ρ : Variable → Variable}
    {p : Triple} : providers rs' (p.rename ρ) = (providers rs p).map m := by
  induction h with
  | nil => rfl
  | @cons r r' rs rs' hr _ ih =>
    obtain ⟨hid, σ, -, hhead, -⟩ := hr
    have hany : r'.head.any (overlaps (p.rename ρ)) = r.head.any (overlaps p) := by
      rw [hhead, List.any_map]
      exact congrArg (r.head.any ·) (funext fun t => overlaps_rename)
    simp only [providers] at ih
    simp only [providers, List.filter_cons, hany]
    split
    · rw [List.map_cons, List.map_cons, List.map_cons, hid, ih]
    · exact ih

theorem edgesOf_rename (h : List.Forall₂ (Rule.RenamesAs m) rs rs')
    (hm : Set.InjOn m {p | p ∈ rs.map Rule.id}) (hr : r.RenamesAs m r') :
    edgesOf rs' r' = (edgesOf rs r).map (Edge.map m) := by
  obtain ⟨hid, ρ, -, -, hbody⟩ := hr
  have hedges : (signedPatternsOfBody .positive r'.body).flatMap (fun p =>
      (providers rs' p.2).map fun provider => (⟨r'.id, p.1, provider⟩ : Edge)) =
        ((signedPatternsOfBody .positive r.body).flatMap fun p =>
          (providers rs p.2).map fun provider => (⟨r.id, p.1, provider⟩ : Edge)).map
            (Edge.map m) := by
    simp only [hbody, signedPatternsOfBody_rename, List.flatMap_map, Prod.map_fst, Prod.map_snd,
      providers_rename h, List.map_map, List.map_flatMap, hid]
    rfl
  rw [edgesOf, edgesOf, hedges, eraseDups_map]
  -- the edges lead from one rule to rules of the set
  intro e he d hd heq
  simp only [Set.mem_ofPred_eq, List.mem_flatMap, List.mem_map] at he hd
  obtain ⟨p, -, x, hx, rfl⟩ := he
  obtain ⟨q, -, y, hy, rfl⟩ := hd
  obtain ⟨-, hsign, hprovider⟩ := Edge.mk.inj heq
  have hmem : ∀ {p z}, z ∈ providers rs p → z ∈ rs.map Rule.id := fun hz => by
    obtain ⟨q, hq, rfl⟩ := List.mem_map.mp hz
    exact List.mem_map_of_mem (List.mem_filter.mp hq).1
  rw [show p.1 = q.1 from hsign, hm (hmem hx) (hmem hy) hprovider]

end Dependency

theorem Scope.forall_checkRule_iff (h : List.Forall₂ (Rule.RenamesAs m) rs rs') :
    (∀ r ∈ rs', checkRule r = .ok ()) ↔ ∀ r ∈ rs, checkRule r = .ok () := by
  induction h with
  | nil => simp
  | cons hr _ ih => simp only [List.forall_mem_cons, ih, checkRule_rename hr.2]

namespace RuleSet.Renames

variable (h : Renames m s s')
include h

theorem ids : s'.ids = s.ids.map m := by
  rw [RuleSet.ids, RuleSet.ids, List.map_map]
  exact (map_eq_of_forall₂ h.rules fun _ _ hr => hr.1.symm).symm

theorem injOn : Set.InjOn m {p | p ∈ s.ids} := injOn_of_ids h.ids

theorem graph : DependencyGraph.ofRules s' = (DependencyGraph.ofRules s).map m := by
  simp only [DependencyGraph.ofRules, DependencyGraph.map, List.map_map, DependencyGraph.mk.injEq]
  refine (map_eq_of_forall₂ h.rules fun r r' hr => ?_).symm
  simp only [Function.comp_apply, Prod.map_apply, hr.1, Dependency.edgesOf_rename h.rules h.injOn hr]

theorem edges : (DependencyGraph.ofRules s').edges =
    (DependencyGraph.ofRules s).edges.map (Edge.map m) := by
  rw [h.graph, DependencyGraph.map, DependencyGraph.edges, DependencyGraph.edges,
    List.flatMap_map, List.map_flatMap]
  rfl

theorem relabels : RuleSet.Relabels m s s' := by
  refine ⟨h.ids, fun p hp q hq sign => ?_⟩
  rw [h.edges, List.mem_map]
  constructor
  · rintro ⟨⟨p', _, q'⟩, he, heq⟩
    obtain ⟨hrule, rfl, hprovider⟩ := Edge.mk.inj heq
    obtain ⟨hp', hq'⟩ := DependencyGraph.mem_ids_of_mem_edges he
    rwa [← h.injOn hp' hp hrule, ← h.injOn hq' hq hprovider]
  · exact fun he => ⟨_, he, rfl⟩

theorem checkRuleSet_iff : Scope.checkRuleSet s' = .ok () ↔ Scope.checkRuleSet s = .ok () := by
  rw [Scope.checkRuleSet_ok, Scope.checkRuleSet_ok, h.data, Scope.forall_checkRule_iff h.rules]

theorem exists_get? (hget : s.get? id = some r) :
    ∃ r', s'.get? (m id) = some r' ∧ r.Renames r' := by
  obtain ⟨hr, rfl⟩ := RuleSet.get?_eq_some.mp hget
  obtain ⟨i, hi, rfl⟩ := List.mem_iff_getElem.mp hr
  have hi' : i < s'.rules.length := h.rules.length_eq ▸ hi
  obtain ⟨hid, hrename⟩ := h.rules.get hi hi'
  exact ⟨_, RuleSet.get?_eq_some.mpr ⟨List.getElem_mem hi', hid⟩, hrename⟩

end RuleSet.Renames

end TripleRules
