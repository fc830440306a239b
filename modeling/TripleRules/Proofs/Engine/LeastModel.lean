import TripleRules.Proofs.Engine.Prepare
import TripleRules.Proofs.Engine.Stage

/-!
# Evaluation finds the least model

Stratum by stratum the graph becomes the least set that is closed under the rules
of the stratum, with negations judged before it. The output is moreover closed
under all rules at once, so that evaluating it again finds nothing.
-/

namespace TripleRules.Engine

variable {rules : RuleSet} {prepared e : Engine} {fuel : Nat} {base : Graph} {found : Evaluation}

def configure (e : Engine) (settings : EngineSettings) (functions : FunctionRegistry) : Engine :=
  { e with settings, functions }

section
variable {before after : Overlay} {level : List RuleId} {i : Nat}
  (hofRules : Stratification.ofRules e.rules (.ofRules e.rules) = .ok e.strata)
include hofRules

theorem isLeast_stage (hlevel : e.strata.levels[i]? = some level)
    (hbefore : e.stage? fuel base i = some before)
    (hafter : e.stage? fuel base (i + 1) = some after) :
    IsLeast {S | before.toGraph.facts ⊆ S ∧
      e.rules.ClosedUnder e.functions level before.toGraph.facts S} after.toGraph.facts := by
  obtain ⟨mid, hmid, hsettled⟩ := (stage?_succ hlevel).mp hafter
  obtain rfl := Option.some.inj (hbefore.symm.trans hmid)
  obtain ⟨hsteps, n, hnil⟩ := saturate_settled hsettled
  exact Saturation.isLeast_of_advances hofRules hlevel hsteps hnil

theorem mem_stage_of_derives {n : Nat} (hafter : e.stage? fuel base n = some after) {g : Graph}
    (hg : g.facts = after.toGraph.facts) {r : Rule} (hr : r ∈ e.rules.rules)
    (hstratum : e.strata.stratum? r.id = some i) (hi : i < n) {t : Triple}
    (hderives : r.Derives e.functions g t) : t ∈ g.facts := by
  obtain ⟨j, level, hlevel, hid⟩ :=
    Stratification.exists_level hofRules (List.mem_map_of_mem hr)
  obtain rfl : j = i := Option.some.inj
    (((Stratification.mem_level hofRules hlevel).mp hid).2.symm.trans hstratum)
  obtain ⟨mid, hmid⟩ := exists_stage? hafter hi
  obtain ⟨before, hbefore, hsettled⟩ := (stage?_succ hlevel).mp hmid
  obtain ⟨-, k, hnil⟩ := saturate_settled hsettled
  -- the rule finds in the later stage what it found at the end of its stratum
  have hgrows := grows_of_stage? hofRules hi hmid hafter
  obtain ⟨b, hsolves, hhead⟩ := Rule.derives_iff.mp hderives
  rw [hg, hgrows.solves_iff hofRules hr hstratum] at hsolves
  have hmem := Saturation.mem_of_derive_nil hnil hr hid (Rule.derives_iff.mpr ⟨b, hsolves, hhead⟩)
  exact hg ▸ hgrows.subset hmem

theorem mem_last_of_derives (hlast : e.stage? fuel base e.strata.levels.length = some after)
    {g : Graph} (hg : ∀ t, t ∈ g.toList ↔ t ∈ after.toGraph.toList) {r : Rule}
    (hr : r ∈ e.rules.rules) {t : Triple} (hderives : r.Derives e.functions g t) :
    t ∈ g.toList := by
  obtain ⟨i, level, hlevel, hid⟩ :=
    Stratification.exists_level hofRules (List.mem_map_of_mem hr)
  exact mem_stage_of_derives hofRules hlast (Set.ext hg) hr
    ((Stratification.mem_level hofRules hlevel).mp hid).2 (List.getElem?_eq_some_iff.mp hlevel).1
    hderives

end

/-- Every stage is the least set that contains the stage before it and is closed under the
rules of its stratum, where negations are judged in the stage before; the output is the
last stage. -/
theorem evaluate_least_model (hprepare : prepare rules = .ok prepared) (settings : EngineSettings)
    (functions : FunctionRegistry)
    (h : (prepared.configure settings functions).evaluate fuel base = some (.ok found)) :
    ∃ stages : Nat → Overlay,
      (∀ n ≤ prepared.strata.levels.length,
        (prepared.configure settings functions).stage? fuel base n = some (stages n)) ∧
      (stages 0).toGraph.facts = base.facts ∪ {t | t ∈ rules.data} ∧
      (∀ i level, prepared.strata.levels[i]? = some level →
        IsLeast {S | (stages i).toGraph.facts ⊆ S ∧
          rules.ClosedUnder functions level (stages i).toGraph.facts S}
            (stages (i + 1)).toGraph.facts) ∧
      {t | t ∈ found.output.toList} = (stages prepared.strata.levels.length).toGraph.facts := by
  obtain ⟨rfl, -, -, -, hstrata⟩ := prepared_of_prepare hprepare
  obtain ⟨last, hlast, hout⟩ := evaluate_ok h
  have hstage : ∀ n : Nat, ∃ o, n ≤ prepared.strata.levels.length →
      (prepared.configure settings functions).stage? fuel base n = some o := fun n => by
    by_cases hn : n ≤ prepared.strata.levels.length
    · obtain ⟨o, ho⟩ := exists_stage? hlast hn
      exact ⟨o, fun _ => ho⟩
    · exact ⟨last, fun hle => absurd hle hn⟩
  choose stages hstages using hstage
  refine ⟨stages, hstages, ?_, ?_, ?_⟩
  · ext t
    exact mem_stage?_zero (hstages 0 (Nat.zero_le _)) t
  · intro i level hlevel
    have hi : i < prepared.strata.levels.length := (List.getElem?_eq_some_iff.mp hlevel).1
    exact isLeast_stage (e := prepared.configure settings functions) hstrata hlevel
      (hstages i (Nat.le_of_lt hi)) (hstages (i + 1) hi)
  · ext t
    obtain rfl := Option.some.inj (hlast.symm.trans (hstages _ (Nat.le_refl _)))
    exact hout t

/-- Who has a child is a parent, and a person who is no parent is childless. -/
def childless : RuleSet where
  rules := [
    ⟨⟨0⟩, none, [⟨.ofVariable "x", .ofIri "is", .ofIri "parent"⟩],
      [.pattern ⟨.ofVariable "x", .ofIri "child", .ofVariable "y"⟩]⟩,
    ⟨⟨1⟩, none, [⟨.ofVariable "x", .ofIri "is", .ofIri "childless"⟩],
      [.pattern ⟨.ofVariable "x", .ofIri "is", .ofIri "person"⟩,
        .negation [.pattern ⟨.ofVariable "x", .ofIri "is", .ofIri "parent"⟩]]⟩]
  data := [
    ⟨.ofIri "ann", .ofIri "is", .ofIri "person"⟩, ⟨.ofIri "bob", .ofIri "is", .ofIri "person"⟩,
    ⟨.ofIri "ann", .ofIri "child", .ofIri "bob"⟩]
  distinct := by decide

def evaluates (settings : EngineSettings) (rules : RuleSet) (fuel : Nat) (base : Graph) : Bool :=
  match prepare rules with
  | .ok e => ((e.configure settings .standard).evaluate fuel base).any Except.isOk
  | .error _ => false

theorem exists_of_evaluates {settings : EngineSettings}
    (h : evaluates settings rules fuel base = true) :
    ∃ prepared found, prepare rules = .ok prepared ∧
      (prepared.configure settings .standard).evaluate fuel base = some (.ok found) := by
  simp only [evaluates] at h
  split at h
  · next prepared hprepare =>
    obtain ⟨outcome, hevaluate, hok⟩ := (Option.any_eq_true _ _).mp h
    obtain ⟨found, rfl⟩ := Except.isOk_iff.mp hok
    exact ⟨prepared, found, hprepare, hevaluate⟩
  · cases h

theorem childless_evaluates : ∃ prepared found, prepare childless = .ok prepared ∧
    (prepared.configure {} .standard).evaluate 2 (.ofStore .empty) = some (.ok found) :=
  exists_of_evaluates (by decide +kernel)

theorem evaluate_least_model_childless : ∃ prepared found, ∃ stages : Nat → Overlay,
    prepare childless = .ok prepared ∧
    (prepared.configure {} .standard).evaluate 2 (.ofStore .empty) = some (.ok found) ∧
    (∀ i level, prepared.strata.levels[i]? = some level →
      IsLeast {S | (stages i).toGraph.facts ⊆ S ∧
        childless.ClosedUnder .standard level (stages i).toGraph.facts S}
          (stages (i + 1)).toGraph.facts) ∧
    {t | t ∈ found.output.toList} = (stages prepared.strata.levels.length).toGraph.facts := by
  obtain ⟨prepared, found, hprepare, hevaluate⟩ := childless_evaluates
  obtain ⟨stages, -, -, hleast, hout⟩ := evaluate_least_model hprepare {} .standard hevaluate
  exact ⟨prepared, found, stages, hprepare, hevaluate, hleast, hout⟩

-- ---------------------------------------------------------------------------
-- The output once more
-- ---------------------------------------------------------------------------

theorem runStrata_of_closed (hfuel : 0 < fuel) {o : Overlay} {xs : List (List RuleId × Nat)}
    (hxs : ∀ x ∈ xs, ∀ id ∈ x.1, id ∈ e.rules.ids)
    (h : ∀ r ∈ e.rules.rules, ∀ t, r.Derives e.functions o.toGraph t → t ∈ o.toGraph.toList) :
    (e.runStrata fuel xs o).2 = .settled o ∧
      (e.runStrata fuel xs o).1.map (fun l => l.rounds.length) =
        xs.map fun x => if x.1.isEmpty then 0 else 1 := by
  induction xs with
  | nil => exact ⟨rfl, rfl⟩
  | cons x rest ih =>
    obtain ⟨level, i⟩ := x
    obtain ⟨hending, hrounds⟩ := ih fun x hx => hxs x (List.mem_cons_of_mem _ hx)
    obtain ⟨n, hnil⟩ := Saturation.derive_of_closed (hxs (level, i) List.mem_cons_self)
      fun r hr _ => h r hr
    obtain ⟨hsettled, hone⟩ := saturate_of_derive_nil (i := i) hfuel hnil
    simp only [runStrata, hsettled]
    exact ⟨hending, by rw [List.map_cons, hone, hrounds, List.map_cons]⟩

/-- A graph that contains the data and all that rules derive from it is its own output. -/
theorem evaluate_of_closed
    (hofRules : Stratification.ofRules e.rules (.ofRules e.rules) = .ok e.strata)
    (hfuel : 0 < fuel) {s : Store} (hdata : ∀ t ∈ e.rules.data, t ∈ s.toList)
    (h : ∀ r ∈ e.rules.rules, ∀ t, r.Derives e.functions (.ofStore s) t → t ∈ s.toList) :
    ∃ again, e.evaluate fuel (.ofStore s) = some (.ok again) ∧ again.inferred = .empty ∧
      again.output = s ∧ again.statistics.rounds =
        e.strata.levels.map fun level => if level.isEmpty then 0 else 1 := by
  have hlist : (Overlay.ofGraph (.ofStore s)).toGraph.toList = s.toList := by
    rw [Overlay.toList_ofGraph, Graph.toList_ofStore]
  have hfacts : (Overlay.ofGraph (.ofStore s)).toGraph.facts = (Graph.ofStore s).facts :=
    Set.ext fun t => by simp only [Graph.facts, hlist, Graph.toList_ofStore]
  have hextend : (Overlay.ofGraph (.ofStore s)).extend e.rules.data =
      .ok (.ofGraph (.ofStore s), 0) :=
    Overlay.extend_of_subset fun t ht => hlist ▸ hdata t ht
  have hids : ∀ x ∈ e.strata.levels.zipIdx, ∀ id ∈ x.1, id ∈ e.rules.ids := fun x hx id hid =>
    ((Stratification.mem_level hofRules (List.mem_zipIdx_iff_getElem?.mp hx)).mp hid).1
  obtain ⟨hending, hrounds⟩ := runStrata_of_closed hfuel hids fun r hr t hderives => by
    rw [Rule.derives_iff, hfacts, ← Rule.derives_iff] at hderives
    exact hlist ▸ h r hr t hderives
  have hrun : e.run fuel (.ofStore s) = ⟨.ofStore s, 0,
      (e.runStrata fuel e.strata.levels.zipIdx (.ofGraph (.ofStore s))).1,
      .settled (.ofGraph (.ofStore s))⟩ := by
    rw [run_of_extend e fuel hextend, hending]
  refine ⟨_, by rw [evaluate, hrun]; rfl, rfl, ?_, ?_⟩
  · exact Graph.copy_ofStore s
  · have hzip : e.strata.levels.map (fun level => if level.isEmpty then 0 else 1) =
        e.strata.levels.zipIdx.map fun x => if x.1.isEmpty then 0 else 1 := by
      conv_lhs => rw [← List.zipIdx_map_fst 0 e.strata.levels, List.map_map]
      rfl
    rw [hzip, ← hrounds]
    rfl

/-- No rule derives anything from the output that is not there, in whatever stratum it is
and however few rounds were allowed. So evaluating the output returns it, infers nothing
and takes one round in every stratum that has rules. -/
theorem evaluate_output (hprepare : prepare rules = .ok prepared) (settings : EngineSettings)
    (functions : FunctionRegistry)
    (h : (prepared.configure settings functions).evaluate fuel base = some (.ok found)) :
    (∀ r ∈ rules.rules, ∀ b ∈ r.solutions functions (.ofStore found.output),
      ∀ template ∈ r.head, b.substitute template ∈ found.output.toList) ∧
    ∀ fuel', 0 < fuel' → ∃ again,
      (prepared.configure settings functions).evaluate fuel' (.ofStore found.output) =
        some (.ok again) ∧
      again.inferred = .empty ∧ again.output = found.output ∧
      again.statistics.rounds =
        prepared.strata.levels.map fun level => if level.isEmpty then 0 else 1 := by
  obtain ⟨rfl, -, -, -, hstrata⟩ := prepared_of_prepare hprepare
  obtain ⟨last, hlast, hout⟩ := evaluate_ok h
  have hclosed : ∀ r ∈ prepared.rules.rules, ∀ t, r.Derives functions (.ofStore found.output) t →
      t ∈ found.output.toList := fun r hr t hderives => by
    rw [← Graph.toList_ofStore]
    exact mem_last_of_derives (e := prepared.configure settings functions) hstrata hlast
      (fun t => by rw [Graph.toList_ofStore]; exact hout t) hr hderives
  refine ⟨fun r hr b hb template htemplate => ?_, fun fuel' hfuel' => ?_⟩
  · exact hclosed r hr _ ⟨b, hb, template, htemplate, rfl⟩
  · refine evaluate_of_closed (e := prepared.configure settings functions) hstrata hfuel'
      (fun t ht => ?_) hclosed
    obtain ⟨start, hstart⟩ := exists_stage? hlast (Nat.zero_le _)
    have hmem := (mem_stage?_zero hstart t).mpr (.inr ht)
    have hgrows := grows_of_stage? (e := prepared.configure settings functions) hstrata
      (Nat.zero_le _) hstart hlast
    exact (hout t).mpr (hgrows.subset hmem)

theorem evaluate_output_childless : ∃ prepared found again,
    prepare childless = .ok prepared ∧
    (prepared.configure {} .standard).evaluate 2 (.ofStore .empty) = some (.ok found) ∧
    (prepared.configure {} .standard).evaluate 1 (.ofStore found.output) = some (.ok again) ∧
    again.inferred = .empty ∧ again.output = found.output := by
  obtain ⟨prepared, found, hprepare, hevaluate⟩ := childless_evaluates
  obtain ⟨-, hagain⟩ := evaluate_output hprepare {} .standard hevaluate
  obtain ⟨again, hagain, hinferred, houtput, -⟩ := hagain 1 Nat.one_pos
  exact ⟨prepared, found, again, hprepare, hevaluate, hagain, hinferred, houtput⟩

end TripleRules.Engine
