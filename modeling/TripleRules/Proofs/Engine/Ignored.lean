import TripleRules.Proofs.Engine.Failure
import TripleRules.Proofs.Engine.Termination

/-!
# Triples that no rule reads

Say that no pattern of any body matches a triple. Then two graphs that differ in that
triple at most (`Graph.AgreesBut`) lead to the same derivations, and so do the graphs
after a round. Only the number of rounds may differ: where the triple is derived, it is
new in one of the graphs and not in the other, which costs one round more
(`Saturation.run_agreesBut`).
-/

namespace TripleRules

open Dependency (signedPatternsOfBody)

variable {functions : FunctionRegistry} {s : RuleSet} {r : Rule} {level : List RuleId}
  {t u : Triple} {o o' next next' : Overlay}

def RuleSet.Ignores (s : RuleSet) (t : Triple) : Prop :=
  ∀ r ∈ s.rules, ∀ q ∈ signedPatternsOfBody .positive r.body, ¬ q.2.Matches t

namespace Graph

variable {g g' g'' : Graph}

def AgreesBut (t : Triple) (g g' : Graph) : Prop := ∀ u, u ≠ t → (u ∈ g.facts ↔ u ∈ g'.facts)

namespace AgreesBut

theorem symm (h : g.AgreesBut t g') : g'.AgreesBut t g := fun u hu => (h u hu).symm

theorem trans (h : g.AgreesBut t g') (h' : g'.AgreesBut t g'') : g.AgreesBut t g'' :=
  fun u hu => (h u hu).trans (h' u hu)

theorem derives_iff (h : g.AgreesBut t g') (hs : s.Ignores t) (hr : r ∈ s.rules) :
    r.Derives functions g u ↔ r.Derives functions g' u := by
  have hbody : ∀ b, Body.Solves functions (fun _ => g.facts) .positive r.body .empty b ↔
      Body.Solves functions (fun _ => g'.facts) .positive r.body .empty b := fun b =>
    Body.solves_congr fun q hq v hmatch => h v fun heq => hs r hr q hq (heq ▸ hmatch)
  simp only [Rule.derives_iff, hbody]

theorem derive_isOk_iff (h : g.AgreesBut t g') (hs : s.Ignores t) :
    (∃ x, Saturation.derive functions s level g = .ok x) ↔
      ∃ x, Saturation.derive functions s level g' = .ok x := by
  rw [Saturation.derive_isOk, Saturation.derive_isOk]
  refine forall₂_congr fun id _ => exists_congr fun r => and_congr_right fun hr => ?_
  simp only [h.derives_iff hs hr]

end AgreesBut

end Graph

-- ---------------------------------------------------------------------------
-- Rounds
-- ---------------------------------------------------------------------------

/-- Both settle on graphs that agree but for that triple, or both fail. -/
inductive Ending.AgreesBut (t : Triple) : Ending → Ending → Prop
  | settled {o o' : Overlay} : o.toGraph.AgreesBut t o'.toGraph →
      AgreesBut t (.settled o) (.settled o')
  | failed (f f' : Failure) : AgreesBut t (.failed f) (.failed f')

namespace Saturation

variable {fresh : List (Triple × RuleId)} {n : Nat}

def LeadsTo (functions : FunctionRegistry) (s : RuleSet) (level : List RuleId) (o : Overlay)
    (ending : Ending) : Prop :=
  ∃ n, ∀ k, n ≤ k → (run functions s level .unfinished k o).ending = ending

theorem leadsTo_of_derive_error {f : Failure}
    (h : derive functions s level o.toGraph = .error f) :
    LeadsTo functions s level o (.failed f) := by
  refine ⟨1, fun k hk => ?_⟩
  obtain ⟨k, rfl⟩ := Nat.exists_eq_add_one.mpr hk
  rw [run_of_derive_error h]

theorem leadsTo_of_derive_nil (h : derive functions s level o.toGraph = .ok ([], n)) :
    LeadsTo functions s level o (.settled o) := by
  refine ⟨1, fun k hk => ?_⟩
  obtain ⟨k, rfl⟩ := Nat.exists_eq_add_one.mpr hk
  rw [run_of_derive_nil h]

theorem LeadsTo.of_derive {ending : Ending} {m : Nat} (h : LeadsTo functions s level next ending)
    (hderive : derive functions s level o.toGraph = .ok (fresh, n)) (hfresh : fresh ≠ [])
    (hextend : o.extend (fresh.map Prod.fst) = .ok (next, m)) :
    LeadsTo functions s level o ending := by
  obtain ⟨rounds, hrounds⟩ := h
  refine ⟨rounds + 1, fun k hk => ?_⟩
  obtain ⟨k, rfl⟩ := Nat.exists_eq_add_one.mpr (Nat.lt_of_lt_of_le rounds.succ_pos hk)
  rw [run_of_derive hderive hfresh hextend, hrounds k (Nat.le_of_succ_le_succ hk)]

theorem advances_self (h : derive functions s level o.toGraph = .ok ([], n)) :
    Advances functions s level o o := ⟨[], n, 0, h, rfl⟩

section
variable (hs : s.Ignores t)
include hs

theorem Advances.agreesBut (hstep : Advances functions s level o next)
    (hstep' : Advances functions s level o' next') (h : o.toGraph.AgreesBut t o'.toGraph) :
    next.toGraph.AgreesBut t next'.toGraph := by
  intro u hu
  refine (hstep.mem u).trans (Iff.trans ?_ (hstep'.mem u).symm)
  refine or_congr (h u hu) (exists_congr fun r => and_congr_right fun hr => ?_)
  rw [h.derives_iff hs hr]

/-- Where a round finds the ignored triple at most, the next one finds nothing. -/
theorem Advances.derive_nil (hstep : Advances functions s level o next)
    (h : o.toGraph.AgreesBut t next.toGraph) :
    ∃ n, derive functions s level next.toGraph = .ok ([], n) := by
  obtain ⟨found, n, m, hderive, hextend⟩ := id hstep
  obtain ⟨⟨fresh, k⟩, hok⟩ := (h.derive_isOk_iff hs).mp ⟨_, hderive⟩
  have hnil : fresh.map Prod.fst = [] := List.eq_nil_iff_forall_not_mem.mpr fun u hu => by
    obtain ⟨hnew, r, hr, hid, hderives⟩ := (derive_ok hok u).mp hu
    exact hnew ((hstep.mem u).mpr (.inr ⟨r, hr, hid, (h.derives_iff hs hr).mpr hderives⟩))
  exact ⟨k, List.map_eq_nil_iff.mp hnil ▸ hok⟩

theorem run_agreesBut (rounds : Nat) (h : o.toGraph.AgreesBut t o'.toGraph) :
    (run functions s level .unfinished rounds o).ending = .unfinished ∨
    ∃ ending, LeadsTo functions s level o' ending ∧
      (run functions s level .unfinished rounds o).ending.AgreesBut t ending := by
  induction rounds generalizing o o' with
  | zero => exact .inl rfl
  | succ rounds ih =>
    rcases run_cases functions s level .unfinished rounds o with
      ⟨f, hderive, hrun⟩ | ⟨n, hderive, hrun⟩ | ⟨fresh, n, next, m, hderive, -, hextend, hrun⟩
    · cases hderive' : derive functions s level o'.toGraph with
      | ok x =>
        obtain ⟨x, hx⟩ := (h.derive_isOk_iff hs).mpr ⟨x, hderive'⟩
        simp [hderive] at hx
      | error f' =>
        exact .inr ⟨_, leadsTo_of_derive_error hderive', by rw [hrun]; exact .failed f f'⟩
    · obtain ⟨⟨fresh', n'⟩, hderive'⟩ := (h.derive_isOk_iff hs).mp ⟨_, hderive⟩
      by_cases hfresh' : fresh' = []
      · subst hfresh'
        exact .inr ⟨_, leadsTo_of_derive_nil hderive', by rw [hrun]; exact .settled h⟩
      · -- only the ignored triple was new, and the round after that is the last one
        obtain ⟨next', m', hextend'⟩ := o'.exists_extend (isConcrete_of_derive hderive')
        have hstep' : Advances functions s level o' next' := ⟨fresh', n', m', hderive', hextend'⟩
        have hnext := (advances_self hderive).agreesBut hs hstep' h
        obtain ⟨i, hlast⟩ := hstep'.derive_nil hs (h.symm.trans hnext)
        exact .inr ⟨_, (leadsTo_of_derive_nil hlast).of_derive hderive' hfresh' hextend',
          by rw [hrun]; exact .settled hnext⟩
    · have hstep : Advances functions s level o next := ⟨fresh, n, m, hderive, hextend⟩
      rw [hrun]
      obtain ⟨⟨fresh', n'⟩, hderive'⟩ := (h.derive_isOk_iff hs).mp ⟨_, hderive⟩
      by_cases hfresh' : fresh' = []
      · subst hfresh'
        exact ih (hstep.agreesBut hs (advances_self hderive') h)
      · obtain ⟨next', m', hextend'⟩ := o'.exists_extend (isConcrete_of_derive hderive')
        have hstep' : Advances functions s level o' next' := ⟨fresh', n', m', hderive', hextend'⟩
        refine (ih (hstep.agreesBut hs hstep' h)).imp_right ?_
        rintro ⟨ending, hleads, hagrees⟩
        exact ⟨ending, hleads.of_derive hderive' hfresh' hextend', hagrees⟩

end

end Saturation

-- ---------------------------------------------------------------------------
-- Strata
-- ---------------------------------------------------------------------------

namespace Engine

variable {e prepared : Engine} {rules : RuleSet} {settings : EngineSettings} {base base' : Graph}
  {fuel fuel' : Nat} {found found' : Evaluation}

section
variable (hs : e.rules.Ignores t) (hmax : e.settings.maxRounds = 0)
include hs hmax

theorem saturate_agreesBut (fuel stratum : Nat) (level : List RuleId)
    (h : o.toGraph.AgreesBut t o'.toGraph) :
    (e.saturate fuel stratum level o).ending = .unfinished ∨
    ∃ n ending, (∀ k, n ≤ k → (e.saturate k stratum level o').ending = ending) ∧
      (e.saturate fuel stratum level o).ending.AgreesBut t ending := by
  simp only [saturate, hmax, if_true]
  split
  · exact .inr ⟨0, .settled o', fun _ _ => rfl, .settled h⟩
  · refine (Saturation.run_agreesBut hs fuel h).imp_right ?_
    rintro ⟨ending, ⟨n, hn⟩, hagrees⟩
    exact ⟨n, ending, hn, hagrees⟩

theorem runStrata_agreesBut (fuel : Nat) (xs : List (List RuleId × Nat))
    (h : o.toGraph.AgreesBut t o'.toGraph) :
    (e.runStrata fuel xs o).2 = .unfinished ∨
    ∃ n ending, (∀ k, n ≤ k → (e.runStrata k xs o').2 = ending) ∧
      (e.runStrata fuel xs o).2.AgreesBut t ending := by
  induction xs generalizing o o' with
  | nil => exact .inr ⟨0, .settled o', fun _ _ => rfl, .settled h⟩
  | cons x rest ih =>
    obtain ⟨level, stratum⟩ := x
    rcases saturate_agreesBut hs hmax fuel stratum level h with
      hunfinished | ⟨n, ending, hending, hagrees⟩
    · exact .inl (by simp only [runStrata, hunfinished])
    · generalize hsaturate : (e.saturate fuel stratum level o).ending = first at hagrees
      cases hagrees with
      | failed f f' =>
        refine .inr ⟨n, .failed f', fun k hk => ?_, ?_⟩
        · simp only [runStrata, hending k hk]
        · simp only [runStrata, hsaturate]
          exact .failed f f'
      | @settled mid mid' hmid =>
        refine (ih hmid).imp (fun hrest => ?_) ?_
        · simp only [runStrata, hsaturate, hrest]
        · rintro ⟨m, last, hlast, hagrees⟩
          refine ⟨max n m, last, fun k hk => ?_, ?_⟩
          · simp only [runStrata, hending k (le_of_max_le_left hk),
              hlast k (le_of_max_le_right hk)]
          · simpa only [runStrata, hsaturate] using hagrees

end

section
variable (hprepare : prepare rules = .ok prepared) (hmax : settings.maxRounds = 0)
  (hs : rules.Ignores t) (h : base.AgreesBut t base')
include hprepare hmax hs h

theorem run_agreesBut (fuel : Nat) :
    ((prepared.configure settings functions).run fuel base).ending = .unfinished ∨
    ∃ n, ((prepared.configure settings functions).run fuel base).ending.AgreesBut t
      ((prepared.configure settings functions).run n base').ending := by
  obtain ⟨o, _, ho, hrun⟩ := run_of_prepare hprepare settings functions base
  obtain ⟨o', _, ho', hrun'⟩ := run_of_prepare hprepare settings functions base'
  have hstart : o.toGraph.AgreesBut t o'.toGraph := fun u hu =>
    (ho u).trans ((or_congr (h u hu) Iff.rfl).trans (ho' u).symm)
  obtain ⟨rfl, -, -, -, -⟩ := prepared_of_prepare hprepare
  rw [hrun fuel]
  refine (runStrata_agreesBut (e := prepared.configure settings functions) hs hmax fuel _
    hstart).imp_right ?_
  rintro ⟨n, ending, hending, hagrees⟩
  exact ⟨n, by rwa [hrun' n, hending n (Nat.le_refl n)]⟩

theorem evaluate_agreesBut
    (hevaluate : (prepared.configure settings functions).evaluate fuel base = some (.ok found)) :
    ∃ n found', (prepared.configure settings functions).evaluate n base' = some (.ok found') ∧
      ∀ u, u ≠ t → (u ∈ found.output.toList ↔ u ∈ found'.output.toList) := by
  obtain ⟨last, hlast, -⟩ := evaluate_eq_ok_iff.mp hevaluate
  obtain ⟨again, heq, -, hout⟩ := evaluate_of_run hlast
  obtain rfl := Except.ok.inj (Option.some.inj (hevaluate.symm.trans heq))
  rcases run_agreesBut hprepare hmax hs h fuel with hunfinished | ⟨n, hagrees⟩
  · cases hlast.symm.trans hunfinished
  · rw [hlast] at hagrees
    generalize hlast' : ((prepared.configure settings functions).run n base').ending = ending
      at hagrees
    cases hagrees with
    | @settled _ last' hsame =>
      obtain ⟨found', hevaluate', -, hout'⟩ := evaluate_of_run hlast'
      exact ⟨n, found', hevaluate', fun u hu =>
        (hout u).trans ((hsame u hu).trans (hout' u).symm)⟩

theorem evaluate_error_agreesBut {f : Failure}
    (hevaluate : (prepared.configure settings functions).evaluate fuel base = some (.error f)) :
    ∃ n f', (prepared.configure settings functions).evaluate n base' = some (.error f') := by
  have hlast := evaluate_eq_error_iff.mp hevaluate
  rcases run_agreesBut hprepare hmax hs h fuel with hunfinished | ⟨n, hagrees⟩
  · cases hlast.symm.trans hunfinished
  · rw [hlast] at hagrees
    generalize hlast' : ((prepared.configure settings functions).run n base').ending = ending
      at hagrees
    cases hagrees with
    | failed _ f' => exact ⟨n, f', evaluate_eq_error_iff.mpr hlast'⟩

end

/-- A triple that no pattern of a body matches does not count for an evaluation without a
limit: with it and without it the evaluation finds a result, fails, or does not end, and
the results are the same but for the triple itself. -/
theorem evaluate_ignored (hprepare : prepare rules = .ok prepared) (hmax : settings.maxRounds = 0)
    (functions : FunctionRegistry)
    (hignored : ∀ r ∈ rules.rules, ∀ q ∈ signedPatternsOfBody .positive r.body,
      Binding.empty.matchTriple q.2 t = none)
    (hbase : ∀ u, u ∈ base'.toList ↔ u ∈ base.toList ∨ u = t) :
    ((∃ fuel found,
        (prepared.configure settings functions).evaluate fuel base = some (.ok found)) ↔
      ∃ fuel found,
        (prepared.configure settings functions).evaluate fuel base' = some (.ok found)) ∧
    ((∃ fuel f, (prepared.configure settings functions).evaluate fuel base = some (.error f)) ↔
      ∃ fuel f, (prepared.configure settings functions).evaluate fuel base' = some (.error f)) ∧
    ∀ fuel fuel' found found',
      (prepared.configure settings functions).evaluate fuel base = some (.ok found) →
      (prepared.configure settings functions).evaluate fuel' base' = some (.ok found') →
      ∀ u, u ∈ found'.output.toList ↔ u ∈ found.output.toList ∨ u = t := by
  have hs : rules.Ignores t := fun r hr q hq hmatch => by
    simpa [hignored r hr q hq] using hmatch.isSome
  have h : base.AgreesBut t base' := fun u hu =>
    ((hbase u).trans (or_iff_left hu)).symm
  refine ⟨⟨?_, ?_⟩, ⟨?_, ?_⟩, fun fuel fuel' found found' hfound hfound' u => ?_⟩
  · rintro ⟨fuel, found, hfound⟩
    obtain ⟨n, found', hfound', -⟩ := evaluate_agreesBut hprepare hmax hs h hfound
    exact ⟨n, found', hfound'⟩
  · rintro ⟨fuel, found, hfound⟩
    obtain ⟨n, found', hfound', -⟩ := evaluate_agreesBut hprepare hmax hs h.symm hfound
    exact ⟨n, found', hfound'⟩
  · rintro ⟨fuel, f, hf⟩
    exact evaluate_error_agreesBut hprepare hmax hs h hf
  · rintro ⟨fuel, f, hf⟩
    exact evaluate_error_agreesBut hprepare hmax hs h.symm hf
  · obtain ⟨n, again, hagain, hsame⟩ := evaluate_agreesBut hprepare hmax hs h hfound
    have heq := (evaluate_of_le hagain (Nat.le_max_left n fuel')).symm.trans
      (evaluate_of_le hfound' (Nat.le_max_right n fuel'))
    obtain rfl := Except.ok.inj (Option.some.inj heq)
    by_cases hu : u = t
    · subst hu
      have hmem := (mem_output hfound' u).mpr (.inl ((hbase u).mpr (.inr rfl)))
      exact iff_of_true hmem (.inr rfl)
    · rw [or_iff_left hu, hsame u hu]

/-- Whether somebody is given or derived to be childless, the output is the same. -/
theorem evaluate_ignored_childless : ∃ prepared n found found', ∃ (fact : Triple) (base : Graph),
    base.toList = [fact] ∧ prepare childless = .ok prepared ∧
    (prepared.configure {} .standard).evaluate 2 (.ofStore .empty) = some (.ok found) ∧
    (prepared.configure {} .standard).evaluate n base = some (.ok found') ∧
    ∀ u, u ∈ found'.output.toList ↔ u ∈ found.output.toList ∨ u = fact := by
  obtain ⟨prepared, found, hprepare, hfound⟩ := childless_evaluates
  let fact : Triple := ⟨.ofIri "bob", .ofIri "is", .ofIri "childless"⟩
  let base : Graph := .ofStore (Store.empty.addAll [fact]).1
  have hlist : base.toList = [fact] := by decide +kernel
  have hmax : EngineSettings.maxRounds {} = 0 := rfl
  have hignored : ∀ r ∈ childless.rules, ∀ q ∈ signedPatternsOfBody .positive r.body,
      Binding.empty.matchTriple q.2 fact = none := by decide +kernel
  have hbase : ∀ u, u ∈ base.toList ↔ u ∈ (Graph.ofStore .empty).toList ∨ u = fact := fun u => by
    simp [hlist, Graph.toList_ofStore, Store.toList, Store.empty]
  obtain ⟨hok, -, hout⟩ := evaluate_ignored hprepare hmax .standard hignored hbase
  obtain ⟨n, found', hfound'⟩ := hok.mp ⟨2, found, hfound⟩
  exact ⟨prepared, n, found, found', fact, base, hlist, hprepare, hfound, hfound',
    hout _ _ _ _ hfound hfound'⟩

end Engine

end TripleRules
