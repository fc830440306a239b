import TripleRules.Proofs.Engine.Termination

/-!
# The limit of rounds

A limit of rounds ends evaluations, and changes nothing else. Stratum by stratum a run
with a limit is the run without one, up to the first stratum that still adds triples in
the last round that it may take. If there is none, both find the same (`evaluate_limit`).
-/

namespace TripleRules

def StratumLog.addsIn (n : Nat) (l : StratumLog) : Bool :=
  l.rounds[n - 1]?.any fun r => !r.fresh.isEmpty

theorem StratumLog.addsIn_eq_false {n : Nat} {l : StratumLog}
    (hceases : Saturation.Ceases l.rounds) (hle : l.rounds.length ≤ n) : l.addsIn n = false := by
  rw [addsIn]
  cases hr : l.rounds[n - 1]? with
  | none => rfl
  | some r =>
    have hlt := (List.getElem?_eq_some_iff.mp hr).1
    have hnil : r.fresh = [] := (hceases _ r hr).mpr (by omega)
    simp [hnil]

theorem Saturation.run_exhausted {functions : FunctionRegistry} {s : RuleSet}
    {level : List RuleId} {exhausted : Ending} {n m : Nat} {o : Overlay}
    (hok : ∀ o : Overlay, ∃ x, derive functions s level o.toGraph = .ok x)
    (hexhausted : ∀ o, exhausted ≠ .settled o)
    (h : (run functions s level exhausted n o).ending = exhausted) (hle : n ≤ m)
    (exhausted' : Ending) :
    ∀ k < n, ∃ r, (run functions s level exhausted' m o).rounds[k]? = some r ∧ r.fresh ≠ [] := by
  induction n generalizing m o with
  | zero => exact fun k hk => absurd hk (Nat.not_lt_zero k)
  | succ n ih =>
    have hpos : 0 < m := Nat.lt_of_lt_of_le n.succ_pos hle
    obtain ⟨m, rfl⟩ := Nat.exists_eq_add_one_of_ne_zero (Nat.ne_of_gt hpos)
    intro k hk
    rcases run_cases functions s level exhausted n o with
      ⟨f, hderive, -⟩ | ⟨j, -, hrun⟩ | ⟨fresh, j, next, i, hderive, hfresh, hextend, hrun⟩
    · obtain ⟨x, hx⟩ := hok o
      simp [hderive] at hx
    · rw [hrun] at h
      exact absurd h.symm (hexhausted o)
    · rw [hrun] at h
      rw [run_of_derive hderive hfresh hextend]
      cases k with
      | zero => exact ⟨_, rfl, hfresh⟩
      | succ k => exact ih h (Nat.le_of_succ_le_succ hle) k (Nat.lt_of_succ_lt_succ hk)

namespace Engine

variable {e : Engine} {level : List RuleId} {fuel : Nat} {base : Graph}

def unlimited (e : Engine) : Engine := { e with settings := { e.settings with maxRounds := 0 } }

theorem addsIn_of_settled {n : Nat} {last : Overlay} (h : (e.run fuel base).ending = .settled last)
    (hle : ∀ k ∈ (e.run fuel base).statistics.rounds, k ≤ n) :
    (e.run fuel base).log.findIdx? (·.addsIn n) = none := by
  obtain ⟨start, added, hstart, hrun⟩ := stage?_eq_some.mp (stage?_of_run h)
  rw [List.take_of_length_le (by simp)] at hrun
  rw [run_of_extend e fuel hstart] at hle ⊢
  refine List.findIdx?_eq_none_iff.mpr fun l hl => ?_
  exact StratumLog.addsIn_eq_false (runStrata_ceases hrun l hl) (hle _ (List.mem_map_of_mem hl))

theorem runStrata_cons_log (e : Engine) (fuel : Nat) (level : List RuleId) (stratum : Nat)
    (xs : List (List RuleId × Nat)) (o : Overlay) :
    ∃ size rest, (e.runStrata fuel ((level, stratum) :: xs) o).1 =
      ⟨stratum, (e.saturate fuel stratum level o).rounds, size⟩ :: rest := by
  simp only [runStrata]
  split
  · exact ⟨_, _, rfl⟩
  · exact ⟨_, _, rfl⟩

section
variable (hmax : e.settings.maxRounds ≠ 0)
include hmax

theorem length_saturate_le (fuel stratum : Nat) (level : List RuleId) (o : Overlay) :
    (e.saturate fuel stratum level o).rounds.length ≤ e.settings.maxRounds := by
  simp only [saturate, if_neg hmax]
  split
  · exact Nat.zero_le _
  · exact Saturation.length_rounds_le

theorem saturate_unlimited (hsound : e.Sound level) (fuel stratum : Nat) (o : Overlay) :
    (∃ last, (e.saturate fuel stratum level o).ending = .settled last ∧
      ∀ fuel', e.settings.maxRounds ≤ fuel' →
        e.unlimited.saturate fuel' stratum level o = e.saturate fuel stratum level o) ∨
    (e.saturate fuel stratum level o).ending =
        .failed (.roundLimit stratum e.settings.maxRounds) ∧
      ∀ fuel', e.settings.maxRounds ≤ fuel' → ∀ size, StratumLog.addsIn e.settings.maxRounds
        ⟨stratum, (e.unlimited.saturate fuel' stratum level o).rounds, size⟩ = true := by
  by_cases hlevel : level.isEmpty
  · exact .inl ⟨o, by simp [saturate, hlevel], by simp [saturate, hlevel]⟩
  simp only [saturate, if_neg hlevel, if_neg hmax, unlimited, if_true]
  rcases Saturation.run_ending hsound e.settings.maxRounds o with ⟨last, hlast⟩ | hlimit
  · exact .inl ⟨last, hlast, fun fuel' hfuel =>
      Saturation.run_of_settled (fun _ => Ending.noConfusion) hlast hfuel⟩
  · refine .inr ⟨hlimit, fun fuel' hfuel size => ?_⟩
    obtain ⟨r, hr, hfresh⟩ := Saturation.run_exhausted hsound
      (fun _ => Ending.noConfusion) hlimit hfuel .unfinished (e.settings.maxRounds - 1) (by omega)
    simp [StratumLog.addsIn, hr, hfresh]

/-- The strata settle as they do without the limit, or the first one fails whose last
allowed round adds triples. -/
theorem runStrata_unlimited {xs : List (List RuleId × Nat)} (hsound : ∀ x ∈ xs, e.Sound x.1)
    (fuel : Nat) (o : Overlay) :
    (∃ last, (e.runStrata fuel xs o).2 = .settled last ∧
      (∀ l ∈ (e.runStrata fuel xs o).1, l.rounds.length ≤ e.settings.maxRounds) ∧
      ∀ fuel', e.settings.maxRounds ≤ fuel' →
        e.unlimited.runStrata fuel' xs o = e.runStrata fuel xs o) ∨
    ∃ n x, xs[n]? = some x ∧
      (e.runStrata fuel xs o).2 = .failed (.roundLimit x.2 e.settings.maxRounds) ∧
      ∀ fuel', e.settings.maxRounds ≤ fuel' →
        (e.unlimited.runStrata fuel' xs o).1.findIdx? (·.addsIn e.settings.maxRounds) =
          some n := by
  induction xs generalizing o with
  | nil => exact .inl ⟨o, rfl, fun l hl => (nomatch hl), fun _ _ => rfl⟩
  | cons x rest ih =>
    obtain ⟨level, stratum⟩ := x
    rcases saturate_unlimited hmax (hsound _ List.mem_cons_self) fuel stratum o with
      ⟨mid, hmid, hsame⟩ | ⟨hending, hadds⟩
    · -- both runs come to the same graph, and no round of the stratum adds triples so late
      have hlength := length_saturate_le hmax fuel stratum level o
      rcases ih (fun x hx => hsound x (List.mem_cons_of_mem _ hx)) mid with
        ⟨last, hlast, hlog, hrest⟩ | ⟨n, x, hx, hlast, hfirst⟩
      · simp only [runStrata, hmid]
        refine .inl ⟨last, hlast, ?_, fun fuel' hfuel => ?_⟩
        · rintro l (_ | ⟨_, hl⟩)
          · exact hlength
          · exact hlog l hl
        · simp only [hsame fuel' hfuel, hmid, hrest fuel' hfuel]
      · refine .inr ⟨n + 1, x, hx, by simp only [runStrata, hmid, hlast], fun fuel' hfuel => ?_⟩
        simp only [runStrata, hsame fuel' hfuel, hmid, List.findIdx?_cons]
        rw [StratumLog.addsIn_eq_false (saturate_ceases hmid).1 hlength, hfirst fuel' hfuel]
        rfl
    · -- the run with the limit stops here, whatever the other one goes on to do
      refine .inr ⟨0, (level, stratum), rfl, by simp only [runStrata, hending], ?_⟩
      intro fuel' hfuel
      obtain ⟨size, log, hlog⟩ := e.unlimited.runStrata_cons_log fuel' level stratum rest o
      rw [hlog, List.findIdx?_cons, hadds fuel' hfuel size]
      rfl

theorem run_unlimited (hsound : ∀ x ∈ e.strata.levels.zipIdx, e.Sound x.1)
    (hdata : ∀ t ∈ e.rules.data, t.isConcrete = true) (fuel : Nat) (base : Graph) :
    (∃ last, (e.run fuel base).ending = .settled last ∧
      (∀ k ∈ (e.run fuel base).statistics.rounds, k ≤ e.settings.maxRounds) ∧
      ∀ fuel', e.settings.maxRounds ≤ fuel' → e.unlimited.run fuel' base = e.run fuel base) ∨
    ∃ stratum, (e.run fuel base).ending = .failed (.roundLimit stratum e.settings.maxRounds) ∧
      ∀ fuel', e.settings.maxRounds ≤ fuel' →
        (e.unlimited.run fuel' base).log.findIdx? (·.addsIn e.settings.maxRounds) =
          some stratum := by
  obtain ⟨start, added, hstart⟩ := (Overlay.ofGraph base).exists_extend hdata
  have hrun := fun fuel' => run_of_extend e.unlimited fuel' hstart
  rw [run_of_extend e fuel hstart]
  rcases runStrata_unlimited hmax hsound fuel start with
    ⟨last, hlast, hlog, hsame⟩ | ⟨n, ⟨level, stratum⟩, hx, hending, hfirst⟩
  · refine .inl ⟨last, hlast, List.forall_mem_map.mpr hlog, fun fuel' hfuel => ?_⟩
    rw [hrun fuel', ← hsame fuel' hfuel]
    rfl
  · obtain ⟨-, rfl⟩ : e.strata.levels[n]? = some level ∧ n = stratum := by
      simpa [List.getElem?_zipIdx] using hx
    exact .inr ⟨n, hending, fun fuel' hfuel => by rw [hrun fuel']; exact hfirst fuel' hfuel⟩

end

/-- An evaluation with a limit always ends. It finds what one without the limit finds, if
that takes no more rounds in any stratum, and fails otherwise; then it names the first
stratum that adds triples in the last round it may take. -/
theorem evaluate_limit {rules : RuleSet} {prepared : Engine} {functions : FunctionRegistry}
    (hprepare : prepare rules = .ok prepared) (hf : functions.KeepsConcrete)
    (settings : EngineSettings) (hmax : settings.maxRounds ≠ 0) (fuel : Nat) (base : Graph) :
    let limited := prepared.configure settings functions
    (∀ found, limited.evaluate fuel base = some (.ok found) ↔
      (∃ n, ∀ fuel', n ≤ fuel' → limited.unlimited.evaluate fuel' base = some (.ok found)) ∧
        ∀ k ∈ found.statistics.rounds, k ≤ settings.maxRounds) ∧
    ((∃ found, limited.evaluate fuel base = some (.ok found)) ∨
      ∃ stratum, limited.evaluate fuel base =
          some (.error (.roundLimit stratum settings.maxRounds)) ∧
        ∀ fuel', settings.maxRounds ≤ fuel' →
          (limited.unlimited.run fuel' base).log.findIdx? (·.addsIn settings.maxRounds) =
            some stratum) := by
  intro limited
  have hsound : ∀ x ∈ limited.strata.levels.zipIdx, limited.Sound x.1 :=
    sound_levels hprepare settings hf
  obtain ⟨rfl, -, hwf, -, -⟩ := prepared_of_prepare hprepare
  rcases run_unlimited (e := limited) hmax hsound (Scope.checkRuleSet_ok.mp hwf).2 fuel base with
    ⟨last, hlast, hrounds, hsame⟩ | ⟨stratum, hending, hfirst⟩
  · have hevaluate : ∀ fuel', settings.maxRounds ≤ fuel' →
        limited.unlimited.evaluate fuel' base = limited.evaluate fuel base := fun fuel' hfuel => by
      rw [evaluate, evaluate, hsame fuel' hfuel]
    refine ⟨fun found => ⟨fun h => ⟨⟨settings.maxRounds, fun fuel' hfuel => ?_⟩, ?_⟩, ?_⟩, .inl ?_⟩
    · rw [hevaluate fuel' hfuel, h]
    · obtain ⟨_, -, rfl⟩ := evaluate_eq_ok_iff.mp h
      exact hrounds
    · rintro ⟨⟨n, hn⟩, -⟩
      rw [← hevaluate _ (Nat.le_max_right n _)]
      exact hn _ (Nat.le_max_left n _)
    · exact ⟨_, evaluate_eq_ok_iff.mpr ⟨last, hlast, rfl⟩⟩
  · have hfail : limited.evaluate fuel base =
        some (.error (.roundLimit stratum settings.maxRounds)) := by
      rw [evaluate, Run.outcome?, hending]
      rfl
    refine ⟨fun found => ⟨fun h => ?_, ?_⟩, .inr ⟨stratum, hfail, hfirst⟩⟩
    · cases hfail.symm.trans h
    · -- without the limit no stratum would add triples so late
      rintro ⟨⟨n, hn⟩, hle⟩
      obtain ⟨last, hlast, rfl⟩ :=
        evaluate_eq_ok_iff.mp (hn _ (Nat.le_max_left n settings.maxRounds))
      cases (addsIn_of_settled hlast hle).symm.trans (hfirst _ (Nat.le_max_right n _))

theorem evaluate_limit_childless : ∃ prepared stratum,
    prepare childless = .ok prepared ∧ FunctionRegistry.standard.KeepsConcrete ∧
    (prepared.configure { maxRounds := 1 } .standard).evaluate 0 (.ofStore .empty) =
      some (.error (.roundLimit stratum 1)) ∧
    ∀ fuel, 1 ≤ fuel → ((prepared.configure { maxRounds := 1 } .standard).unlimited.run fuel
      (.ofStore .empty)).log.findIdx? (·.addsIn 1) = some stratum := by
  obtain ⟨prepared, -, hprepare, -⟩ := childless_evaluates
  have hstandard := FunctionRegistry.standard_keepsConcrete
  obtain ⟨-, ⟨found, hfound⟩ | ⟨stratum, hfail, hfirst⟩⟩ :=
    evaluate_limit hprepare hstandard { maxRounds := 1 } Nat.one_ne_zero 0 (.ofStore .empty)
  · have h : evaluates { maxRounds := 1 } childless 0 (.ofStore .empty) = false := by
      decide +kernel
    simp [evaluates, hprepare, hfound, Except.isOk, Except.toBool] at h
  · exact ⟨prepared, stratum, hprepare, hstandard, hfail, hfirst⟩

end Engine

end TripleRules
