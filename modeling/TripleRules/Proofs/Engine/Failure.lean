import TripleRules.Proofs.Engine.LeastModel
import TripleRules.Proofs.Scope

/-!
# Evaluation fails only by its limit

The rules of a prepared engine never leave a template open, since the check of
their scopes is sound, and the rules of its strata are known. So its rounds do
not fail, and an evaluation ends with a result unless a stratum uses up the
rounds that the settings allow.
-/

namespace TripleRules

variable {rules : RuleSet} {prepared e : Engine} {functions : FunctionRegistry} {fuel : Nat}
  {base : Graph} {level : List RuleId}

/-- How an evaluation ends that nothing goes wrong with: it settles or, if rounds are
limited, some stratum reaches the limit; without a limit it may go on for ever. -/
inductive Ending.Regular (settings : EngineSettings) : Ending → Prop
  | settled (working : Overlay) : Regular settings (.settled working)
  | roundLimit (stratum : Nat) : settings.maxRounds ≠ 0 →
      Regular settings (.failed (.roundLimit stratum settings.maxRounds))
  | unfinished : settings.maxRounds = 0 → Regular settings .unfinished

namespace Engine

def Sound (e : Engine) (level : List RuleId) : Prop :=
  ∀ o : Overlay, ∃ x, Saturation.derive e.functions e.rules level o.toGraph = .ok x

theorem saturate_regular (h : e.Sound level) (fuel stratum : Nat) (o : Overlay) :
    (e.saturate fuel stratum level o).ending.Regular e.settings := by
  simp only [saturate]
  split
  · exact .settled o
  · split
    · next hmax =>
      rcases Saturation.run_ending h fuel o with ⟨last, hlast⟩ | hunfinished
      · rw [hlast]
        exact .settled last
      · rw [hunfinished]
        exact .unfinished hmax
    · next hmax =>
      rcases Saturation.run_ending h e.settings.maxRounds o with ⟨last, hlast⟩ | hlimit
      · rw [hlast]
        exact .settled last
      · rw [hlimit]
        exact .roundLimit stratum hmax

theorem runStrata_regular {xs : List (List RuleId × Nat)} (h : ∀ x ∈ xs, e.Sound x.1) (fuel : Nat)
    (o : Overlay) : (e.runStrata fuel xs o).2.Regular e.settings := by
  induction xs generalizing o with
  | nil => exact .settled o
  | cons x rest ih =>
    obtain ⟨level, stratum⟩ := x
    have hregular := saturate_regular (h _ List.mem_cons_self) fuel stratum o
    simp only [runStrata]
    split
    · exact ih (fun x hx => h x (List.mem_cons_of_mem _ hx)) _
    · exact hregular

theorem sound_of_prepare (hprepare : prepare rules = .ok prepared) (settings : EngineSettings)
    (hf : functions.KeepsConcrete) (hlevel : ∀ id ∈ level, id ∈ rules.ids) :
    (prepared.configure settings functions).Sound level := by
  obtain ⟨rfl, -, hwf, -, -⟩ := prepared_of_prepare hprepare
  obtain ⟨hrules, -⟩ := Scope.checkRuleSet_ok.mp hwf
  refine fun o => Saturation.derive_isOk.mpr fun id hid => ?_
  obtain ⟨r, hr, rfl⟩ := List.mem_map.mp (hlevel id hid)
  refine ⟨r, hr, rfl, fun t hderives => ?_⟩
  obtain ⟨b, hsolves, template, htemplate, rfl⟩ := Rule.derives_iff.mp hderives
  exact Rule.isConcrete_of_solves hf (hrules r hr) (fun u hu => Graph.isConcrete_of_mem hu) hsolves
    htemplate

theorem sound_levels (hprepare : prepare rules = .ok prepared) (settings : EngineSettings)
    (hf : functions.KeepsConcrete) :
    ∀ x ∈ prepared.strata.levels.zipIdx, (prepared.configure settings functions).Sound x.1 := by
  intro x hx
  have hprepared := prepared_of_prepare hprepare
  exact sound_of_prepare hprepare settings hf fun id hid =>
    ((Stratification.mem_level hprepared.strata (List.mem_zipIdx_iff_getElem?.mp hx)).mp hid).1

theorem run_of_prepare (hprepare : prepare rules = .ok prepared) (settings : EngineSettings)
    (functions : FunctionRegistry) (base : Graph) :
    ∃ start n, (∀ t, t ∈ start.toGraph.facts ↔ t ∈ base.toList ∨ t ∈ rules.data) ∧
      ∀ fuel, (prepared.configure settings functions).run fuel base = ⟨base, n,
        ((prepared.configure settings functions).runStrata fuel
          prepared.strata.levels.zipIdx start).1,
        ((prepared.configure settings functions).runStrata fuel
          prepared.strata.levels.zipIdx start).2⟩ := by
  obtain ⟨rfl, -, hwf, -, -⟩ := prepared_of_prepare hprepare
  obtain ⟨-, hdata⟩ := Scope.checkRuleSet_ok.mp hwf
  obtain ⟨start, n, hstart⟩ := (Overlay.ofGraph base).exists_extend hdata
  have hmem := (Overlay.mem_extend hstart).2
  rw [Overlay.toList_ofGraph] at hmem
  exact ⟨start, n, hmem, fun fuel =>
    run_of_extend (prepared.configure settings functions) fuel hstart⟩

theorem run_regular (hprepare : prepare rules = .ok prepared) (settings : EngineSettings)
    (hf : functions.KeepsConcrete) (fuel : Nat) (base : Graph) :
    ((prepared.configure settings functions).run fuel base).ending.Regular settings := by
  obtain ⟨start, n, -, hrun⟩ := run_of_prepare hprepare settings functions base
  rw [hrun fuel]
  exact runStrata_regular (sound_levels hprepare settings hf) fuel start

theorem outcome_of_regular {settings : EngineSettings}
    (h : ((e.run fuel base).ending).Regular settings) :
    (∃ found, e.evaluate fuel base = some (.ok found)) ∨
    (∃ stratum, settings.maxRounds ≠ 0 ∧
      e.evaluate fuel base = some (.error (.roundLimit stratum settings.maxRounds))) ∨
    (settings.maxRounds = 0 ∧ e.evaluate fuel base = none) := by
  simp only [evaluate, Run.outcome?]
  generalize e.run fuel base = r at h
  obtain ⟨_, _, _, ending⟩ := r
  cases h with
  | settled working => exact .inl ⟨_, rfl⟩
  | roundLimit stratum hmax => exact .inr (.inl ⟨stratum, hmax, rfl⟩)
  | unfinished hmax => exact .inr (.inr ⟨hmax, rfl⟩)

theorem ok_of_evaluate {settings : EngineSettings} (hprepare : prepare rules = .ok prepared)
    (hmax : settings.maxRounds = 0) (hf : functions.KeepsConcrete)
    {outcome : Except Failure Evaluation}
    (h : (prepared.configure settings functions).evaluate fuel base = some outcome) :
    ∃ found, outcome = .ok found := by
  rcases outcome_of_regular (run_regular hprepare settings hf fuel base) with
    ⟨found, hfound⟩ | ⟨_, hne, -⟩ | ⟨-, hnone⟩
  · exact ⟨found, Option.some.inj (h.symm.trans hfound)⟩
  · exact absurd hmax hne
  · cases h.symm.trans hnone

/-- A prepared engine whose functions keep terms concrete finds a result, all of it
concrete, or reaches the limit of some stratum; without a limit it may not end. -/
theorem evaluate_outcome (hprepare : prepare rules = .ok prepared) (settings : EngineSettings)
    (hf : functions.KeepsConcrete) (fuel : Nat) (base : Graph) :
    (∃ found, (prepared.configure settings functions).evaluate fuel base = some (.ok found) ∧
      (∀ t, t ∈ found.output.toList ↔ t ∈ base.toList ∨ t ∈ found.inferred.toList) ∧
      (∀ t ∈ found.inferred.toList, t.isConcrete = true) ∧
        ∀ t ∈ found.output.toList, t.isConcrete = true) ∨
    (∃ stratum, settings.maxRounds ≠ 0 ∧
      (prepared.configure settings functions).evaluate fuel base =
        some (.error (.roundLimit stratum settings.maxRounds))) ∨
    (settings.maxRounds = 0 ∧
      (prepared.configure settings functions).evaluate fuel base = none) := by
  cases outcome_of_regular (run_regular hprepare settings hf fuel base) with
  | inl h =>
    obtain ⟨found, hfound⟩ := h
    exact .inl ⟨found, hfound, mem_output hfound, fun t ht => Store.isConcrete_of_mem ht,
      fun t ht => Store.isConcrete_of_mem ht⟩
  | inr h => exact .inr h

theorem evaluate_outcome_childless : ∃ prepared, prepare childless = .ok prepared ∧
    FunctionRegistry.standard.KeepsConcrete ∧
    ∃ found, (prepared.configure {} .standard).evaluate 2 (.ofStore .empty) = some (.ok found) ∧
      (∀ t ∈ found.inferred.toList, t.isConcrete = true) ∧
        ∀ t ∈ found.output.toList, t.isConcrete = true := by
  obtain ⟨prepared, found, hprepare, hevaluate⟩ := childless_evaluates
  have hstandard := FunctionRegistry.standard_keepsConcrete
  have houtcome := evaluate_outcome hprepare {} hstandard 2 (.ofStore .empty)
  rw [hevaluate] at houtcome
  rcases houtcome with ⟨again, heq, -, hconcrete⟩ | ⟨_, -, h⟩ | ⟨-, h⟩
  · obtain rfl := Except.ok.inj (Option.some.inj heq)
    exact ⟨prepared, hprepare, hstandard, found, hevaluate, hconcrete⟩
  · cases h
  · cases h

end Engine

end TripleRules
