import TripleRules.Proofs.Engine.Failure
import TripleRules.Proofs.Engine.FiniteClosure

/-!
# Evaluation ends

Rounds that stay within a finite set cannot go on for ever, since every round but
the last one adds a triple. Such a set exists unless a recursive rule assigns. Then
every stratum settles, and more rounds than the set has triples are never taken.
-/

namespace TripleRules

variable {functions : FunctionRegistry} {s : RuleSet} {level : List RuleId} {o next last : Overlay}
  {T U : Set Triple}

namespace Saturation

variable {exhausted exhausted' : Ending} {rounds n m : Nat} {fresh : List (Triple × RuleId)}

theorem length_rounds_le : (run functions s level exhausted rounds o).rounds.length ≤ rounds := by
  induction rounds generalizing o with
  | zero => exact Nat.le_refl 0
  | succ rounds ih =>
    rcases run_cases functions s level exhausted rounds o with
      ⟨f, -, hrun⟩ | ⟨n, -, hrun⟩ | ⟨fresh, n, next, m, -, -, -, hrun⟩
    · simp [hrun]
    · simp [hrun]
    · rw [hrun]
      exact Nat.succ_le_succ ih

theorem run_of_settled (hexhausted : ∀ o, exhausted ≠ .settled o)
    (h : (run functions s level exhausted n o).ending = .settled last) (hle : n ≤ m) :
    run functions s level exhausted' m o = run functions s level exhausted n o := by
  induction n generalizing m o with
  | zero => exact absurd h (hexhausted last)
  | succ n ih =>
    have hpos : 0 < m := Nat.lt_of_lt_of_le n.succ_pos hle
    obtain ⟨m, rfl⟩ := Nat.exists_eq_succ_of_ne_zero (Nat.ne_of_gt hpos)
    rcases run_cases functions s level exhausted n o with
      ⟨f, -, hrun⟩ | ⟨k, hderive, hrun⟩ | ⟨fresh, k, next, j, hderive, hfresh, hextend, hrun⟩
    · rw [hrun] at h
      cases h
    · rw [hrun]
      exact run_of_derive_nil hderive
    · rw [hrun] at h ⊢
      rw [Nat.succ_eq_add_one, run_of_derive hderive hfresh hextend,
        ih h (Nat.le_of_succ_le_succ hle)]

theorem ncard_lt_of_derive (hderive : derive functions s level o.toGraph = .ok (fresh, n))
    (hfresh : fresh ≠ []) (hextend : o.extend (fresh.map Prod.fst) = .ok (next, m)) :
    o.toGraph.facts.ncard < next.toGraph.facts.ncard := by
  have hmem := (Overlay.mem_extend hextend).2
  have hsub : o.toGraph.facts ⊆ next.toGraph.facts := fun t ht => (hmem t).mpr (.inl ht)
  obtain ⟨e, he⟩ := List.exists_mem_of_ne_nil fresh hfresh
  have hnew : e.1 ∈ fresh.map Prod.fst := List.mem_map_of_mem he
  refine Nat.lt_of_not_le fun hle => ((derive_ok hderive e.1).mp hnew).1 ?_
  have hsame := Set.eq_of_subset_of_ncard_le hsub hle next.toGraph.toList.finite_toSet
  exact (Set.ext_iff.mp hsame e.1).mpr ((hmem e.1).mpr (.inr hnew))

/-- From graphs between two sets the rules of a level do not lead out of the larger one. -/
def Confines (functions : FunctionRegistry) (s : RuleSet) (level : List RuleId)
    (T U : Set Triple) : Prop :=
  ∀ g : Graph, T ⊆ g.facts → g.facts ⊆ U →
    ∀ r ∈ s.rules, r.id ∈ level → ∀ t, r.Derives functions g t → t ∈ U

section
variable (hconfines : Confines functions s level T U)
include hconfines

theorem facts_subset_of_derive (hT : T ⊆ o.toGraph.facts) (ho : o.toGraph.facts ⊆ U)
    (hderive : derive functions s level o.toGraph = .ok (fresh, n))
    (hextend : o.extend (fresh.map Prod.fst) = .ok (next, m)) : next.toGraph.facts ⊆ U := by
  intro t ht
  rcases ((Overlay.mem_extend hextend).2 t).mp ht with ht | hnew
  · exact ho ht
  · obtain ⟨-, r, hr, hid, hderives⟩ := (derive_ok hderive t).mp hnew
    exact hconfines o.toGraph hT ho r hr hid t hderives

/-- Rounds within a finite set settle once there are more of them than triples are missing. -/
theorem run_settles (hok : ∀ o : Overlay, T ⊆ o.toGraph.facts → o.toGraph.facts ⊆ U →
      ∃ x, derive functions s level o.toGraph = .ok x) (hU : U.Finite)
    (exhausted : Ending) (rounds : Nat) (hT : T ⊆ o.toGraph.facts)
    (ho : o.toGraph.facts ⊆ U) (hrounds : U.ncard < rounds + o.toGraph.facts.ncard) :
    ∃ last, (run functions s level exhausted rounds o).ending = .settled last ∧
      last.toGraph.facts ⊆ U := by
  induction rounds generalizing o with
  | zero =>
    have hle := Set.ncard_le_ncard ho hU
    omega
  | succ rounds ih =>
    rcases run_cases functions s level exhausted rounds o with
      ⟨f, hderive, -⟩ | ⟨n, -, hrun⟩ | ⟨fresh, n, next, m, hderive, hfresh, hextend, hrun⟩
    · obtain ⟨x, hx⟩ := hok o hT ho
      simp [hderive] at hx
    · exact ⟨o, by rw [hrun], ho⟩
    · have hsub := facts_subset_of_derive hconfines hT ho hderive hextend
      have hgrows := ncard_lt_of_derive hderive hfresh hextend
      have hT' : T ⊆ next.toGraph.facts := fun t ht =>
        ((Overlay.mem_extend hextend).2 t).mpr (.inl (hT ht))
      rw [hrun]
      exact ih hT' hsub (by omega)

end

theorem confines_of_closed (hclosed : ∀ r ∈ s.rules, r.instances functions U ⊆ U)
    (level : List RuleId) : Confines functions s level ∅ U :=
  fun _ _ hg r hr _ _ hderives => hclosed r hr (Rule.mem_instances_of_derives hderives hg)

end Saturation

namespace Engine

variable {e prepared : Engine} {rules : RuleSet} {base : Graph}

section
variable (hmax : e.settings.maxRounds = 0) (hU : U.Finite)
include hmax hU

theorem saturate_settles (hconfines : Saturation.Confines e.functions e.rules level T U)
    (hok : ∀ o : Overlay, T ⊆ o.toGraph.facts → o.toGraph.facts ⊆ U →
      ∃ x, Saturation.derive e.functions e.rules level o.toGraph = .ok x)
    (hT : T ⊆ o.toGraph.facts) (ho : o.toGraph.facts ⊆ U) (stratum : Nat) :
    ∃ rounds last, (∀ fuel, U.ncard < fuel →
        e.saturate fuel stratum level o = ⟨rounds, .settled last⟩) ∧
      last.toGraph.facts ⊆ U ∧ rounds.length ≤ U.ncard + 1 := by
  by_cases hempty : level = []
  · exact ⟨[], o, fun fuel _ => by simp [saturate, hempty], ho, Nat.zero_le _⟩
  · obtain ⟨last, hending, hlast⟩ := Saturation.run_settles hconfines hok hU .unfinished
      (U.ncard + 1) hT ho (by omega)
    refine ⟨(Saturation.run e.functions e.rules level .unfinished (U.ncard + 1) o).rounds, last,
      fun fuel hfuel => ?_, hlast, Saturation.length_rounds_le⟩
    simp only [saturate, List.isEmpty_iff, hempty, hmax, if_true, if_false]
    rw [Saturation.run_of_settled (fun _ => Ending.noConfusion) hending hfuel, ← hending]

theorem runStrata_settles (hclosed : ∀ r ∈ e.rules.rules, r.instances e.functions U ⊆ U)
    {xs : List (List RuleId × Nat)} (hsound : ∀ x ∈ xs, e.Sound x.1) (ho : o.toGraph.facts ⊆ U) :
    ∃ log last, (∀ fuel, U.ncard < fuel → e.runStrata fuel xs o = (log, .settled last)) ∧
      ∀ l ∈ log, l.rounds.length ≤ U.ncard + 1 := by
  induction xs generalizing o with
  | nil => exact ⟨[], o, fun _ _ => rfl, fun l hl => (nomatch hl)⟩
  | cons x rest ih =>
    obtain ⟨level, stratum⟩ := x
    obtain ⟨rounds, mid, hsaturate, hmid, hrounds⟩ :=
      saturate_settles hmax hU (Saturation.confines_of_closed hclosed level)
        (fun o _ _ => hsound _ List.mem_cons_self o) (Set.empty_subset _) ho stratum
    obtain ⟨log, last, hrest, hlog⟩ := ih (fun x hx => hsound x (List.mem_cons_of_mem _ hx)) hmid
    refine ⟨⟨stratum, rounds, some mid.toGraph.size⟩ :: log, last, fun fuel hfuel => ?_, ?_⟩
    · simp only [runStrata, hsaturate fuel hfuel, hrest fuel hfuel]
    · rintro l (_ | ⟨_, hl⟩)
      · exact hrounds
      · exact hlog l hl

end

-- ---------------------------------------------------------------------------
-- More rounds than needed
-- ---------------------------------------------------------------------------

variable {fuel fuel' stratum : Nat} {found : Evaluation}

theorem saturate_of_settled (h : (e.saturate fuel stratum level o).ending = .settled last)
    (hle : fuel ≤ fuel') : e.saturate fuel' stratum level o = e.saturate fuel stratum level o := by
  simp only [saturate] at h ⊢
  split
  · rfl
  · next hlevel =>
    rw [if_neg hlevel] at h
    split
    · next hmax =>
      rw [if_pos hmax] at h
      exact Saturation.run_of_settled (fun _ => Ending.noConfusion) h hle
    · rfl

theorem runStrata_of_settled {xs : List (List RuleId × Nat)}
    (h : (e.runStrata fuel xs o).2 = .settled last) (hle : fuel ≤ fuel') :
    e.runStrata fuel' xs o = e.runStrata fuel xs o := by
  induction xs generalizing o with
  | nil => rfl
  | cons x rest ih =>
    obtain ⟨level, stratum⟩ := x
    obtain ⟨mid, hmid, hrest⟩ := runStrata_cons_settled.mp h
    simp only [runStrata, saturate_of_settled hmid hle, hmid, ih hrest]

theorem run_of_run_settled (h : (e.run fuel base).ending = .settled last) (hle : fuel ≤ fuel') :
    e.run fuel' base = e.run fuel base := by
  obtain ⟨start, k, hstart, hrun⟩ := stage?_eq_some.mp (stage?_of_run h)
  rw [List.take_of_length_le (by simp)] at hrun
  rw [run_of_extend e fuel' hstart, run_of_extend e fuel hstart, runStrata_of_settled hrun hle]

theorem evaluate_of_le (h : e.evaluate fuel base = some (.ok found)) (hle : fuel ≤ fuel') :
    e.evaluate fuel' base = some (.ok found) := by
  obtain ⟨last, hending, rfl⟩ := evaluate_eq_ok_iff.mp h
  have hrun := run_of_run_settled hending hle
  exact evaluate_eq_ok_iff.mpr ⟨last, by rw [hrun, hending], by rw [hrun]⟩

-- ---------------------------------------------------------------------------
-- Recursive rules that assign nothing
-- ---------------------------------------------------------------------------

/-- An evaluation without a limit ends if no recursive rule assigns: some number of rounds
suffices for every stratum, and more of them change nothing. -/
theorem evaluate_terminates {functions : FunctionRegistry}
    (hprepare : prepare rules = .ok prepared)
    (hassign : ∀ r ∈ rules.rules, r.id ∈ prepared.recursive → ∀ v e, .assignment v e ∉ r.body)
    {settings : EngineSettings} (hmax : settings.maxRounds = 0) (hf : functions.KeepsConcrete)
    (base : Graph) :
    ∃ n found, (∀ fuel, n ≤ fuel →
        (prepared.configure settings functions).evaluate fuel base = some (.ok found)) ∧
      ∀ k ∈ found.statistics.rounds, k ≤ n := by
  have hsound := sound_levels hprepare settings hf
  obtain ⟨start, added, -, hrun⟩ := run_of_prepare hprepare settings functions base
  obtain ⟨rfl, -, -, hrecursive, -⟩ := prepared_of_prepare hprepare
  obtain ⟨U, hU, hsub, hclosed⟩ := RuleSet.exists_finite_closed
    (fun r hr hcycle => hassign r hr
      ((Recursion.mem_of_check_ok hrecursive).mpr ⟨List.mem_map_of_mem hr, hcycle⟩))
    functions start.toGraph.toList.finite_toSet
  obtain ⟨log, last, hlog, hrounds⟩ := runStrata_settles
    (e := prepared.configure settings functions) hmax hU hclosed hsound hsub
  refine ⟨U.ncard + 1, ⟨last.added, (base.copy.addAll last.added.toList).1,
    Run.statistics ⟨base, added, log, .settled last⟩⟩, fun fuel hfuel => ?_, ?_⟩
  · simp only [evaluate, hrun fuel, hlog fuel hfuel, Run.outcome?]
  · intro k hk
    obtain ⟨l, hl, rfl⟩ := List.mem_map.mp hk
    exact hrounds l hl

/-- Ancestors are found recursively, and a rule that is not recursive names them. -/
def ancestors : RuleSet where
  rules := [
    ⟨⟨0⟩, none, [⟨.ofVariable "x", .ofIri "ancestor", .ofVariable "y"⟩],
      [.pattern ⟨.ofVariable "x", .ofIri "parent", .ofVariable "y"⟩]⟩,
    ⟨⟨1⟩, none, [⟨.ofVariable "x", .ofIri "ancestor", .ofVariable "z"⟩],
      [.pattern ⟨.ofVariable "x", .ofIri "parent", .ofVariable "y"⟩,
        .pattern ⟨.ofVariable "y", .ofIri "ancestor", .ofVariable "z"⟩]⟩,
    ⟨⟨2⟩, none, [⟨.ofVariable "x", .ofIri "descends", .ofVariable "name"⟩],
      [.pattern ⟨.ofVariable "x", .ofIri "ancestor", .ofVariable "y"⟩,
        .assignment ⟨"name"⟩ (.call "localname" [.var ⟨"y"⟩])]⟩]
  data := [
    ⟨.ofIri "ann", .ofIri "parent", .ofIri "bob"⟩, ⟨.ofIri "bob", .ofIri "parent", .ofIri "ann"⟩]
  distinct := by decide

theorem evaluate_terminates_ancestors : ∃ prepared, prepare ancestors = .ok prepared ∧
    (∀ r ∈ ancestors.rules, r.id ∈ prepared.recursive → ∀ v e, .assignment v e ∉ r.body) ∧
    ∃ n found, (∀ fuel, n ≤ fuel → (prepared.configure {} .standard).evaluate fuel
        (.ofStore .empty) = some (.ok found)) ∧ ∀ k ∈ found.statistics.rounds, k ≤ n := by
  have hok : (prepare ancestors).isOk = true := by decide +kernel
  cases hprepare : prepare ancestors with
  | error x => simp [hprepare, Except.isOk, Except.toBool] at hok
  | ok prepared =>
    have hcheck : Recursion.check (.ofRules ancestors) ancestors = .ok [⟨1⟩] := by decide +kernel
    have hrecursive : prepared.recursive = [⟨1⟩] :=
      Except.ok.inj ((prepared_of_prepare hprepare).recursive.symm.trans hcheck)
    have hassign : ∀ r ∈ ancestors.rules, r.id ∈ prepared.recursive →
        ∀ v e, .assignment v e ∉ r.body := by
      simp [ancestors, hrecursive]
    exact ⟨prepared, rfl, hassign, evaluate_terminates hprepare hassign rfl
      FunctionRegistry.standard_keepsConcrete (.ofStore .empty)⟩

end Engine

end TripleRules
