import TripleRules.Proofs.Renaming.RuleSet
import TripleRules.Proofs.Renaming.Solution

/-!
# Evaluation under other names

Rounds of a renamed rule set find the same triples in the same order, from the
rules of the same positions. So its evaluation takes the same course but for the identities
of rules that the record of a run names (`Engine.run_rename`).
-/

namespace TripleRules

variable {m : RuleId → RuleId} {functions : FunctionRegistry} {s s' : RuleSet} {g : Graph}
  {p : RuleId} {level : List RuleId} {fresh : List (Triple × RuleId)} {n : Nat}

-- ---------------------------------------------------------------------------
-- The record of a run
-- ---------------------------------------------------------------------------

def Saturation.relabel (m : RuleId → RuleId) (fresh : List (Triple × RuleId)) :
    List (Triple × RuleId) :=
  fresh.map fun e => (e.1, m e.2)

def Round.relabel (m : RuleId → RuleId) (r : Round) : Round :=
  { r with fresh := Saturation.relabel m r.fresh }

def StratumLog.relabel (m : RuleId → RuleId) (l : StratumLog) : StratumLog :=
  { l with rounds := l.rounds.map (Round.relabel m) }

namespace Run

def relabel (m : RuleId → RuleId) (x : Run) : Run :=
  { x with log := x.log.map (StratumLog.relabel m) }

variable {x : Run}

theorem statistics_relabel : (x.relabel m).statistics = x.statistics := by
  simp [statistics, relabel, StratumLog.relabel, Round.relabel, Saturation.relabel,
    List.flatMap_map, List.map_flatMap, Function.comp_def]

theorem outcome?_relabel : (x.relabel m).outcome? = x.outcome? := by
  simp only [outcome?, statistics_relabel]
  rfl

end Run

-- ---------------------------------------------------------------------------
-- Rounds
-- ---------------------------------------------------------------------------

namespace Saturation

theorem map_fst_relabel : (relabel m fresh).map Prod.fst = fresh.map Prod.fst := by
  simp [relabel, Function.comp_def]

theorem relabel_eq_nil : relabel m fresh = [] ↔ fresh = [] := List.map_eq_nil_iff

theorem collect_relabel {derived : List Triple} :
    collect g (m p) (relabel m fresh) derived = relabel m (collect g p fresh derived) := by
  induction derived generalizing fresh with
  | nil => rfl
  | cons u rest ih =>
    have hany : (relabel m fresh).any (·.1 = u) = fresh.any (·.1 = u) := List.any_map
    rw [collect_cons, collect_cons, hany, ← ih]
    split
    · rfl
    · rw [relabel, relabel, List.map_append]
      rfl

section
variable (h : RuleSet.Renames m s s') (hf : functions.KeepsConcrete)
include h hf

theorem fire_rename {state next : List (Triple × RuleId) × Nat}
    (hfire : fire functions s g state p = .ok next) :
    fire functions s' g (relabel m state.1, state.2) (m p) = .ok (relabel m next.1, next.2) := by
  simp only [fire] at hfire ⊢
  split at hfire
  · cases hfire
  · next r hget =>
    obtain ⟨r', hget', hr⟩ := h.exists_get? hget
    simp only [hget', Except.bind_ok, Except.pure_ok] at hfire ⊢
    obtain ⟨fresh, hfold, rfl⟩ := hfire
    have hinstances := hr.instances hf g
    refine ⟨relabel m fresh, Except.foldlM_forall₂ hinstances ?_ hfold, ?_⟩
    · intro earlier b b' later hb hstep
      simp only [Except.bind_ok, Except.mapError_ok, Except.pure_ok] at hstep ⊢
      obtain ⟨derived, hderived, rfl⟩ := hstep
      exact ⟨derived, hb derived hderived, collect_relabel⟩
    · rw [hinstances.length_eq]

theorem derive_rename (hderive : derive functions s level g = .ok (fresh, n)) :
    derive functions s' (level.map m) g = .ok (relabel m fresh, n) := by
  have hlevel : List.Forall₂ (fun p p' => p' = m p) level (level.map m) :=
    List.forall₂_map_right_iff.mpr (List.forall₂_same.mpr fun _ _ => rfl)
  refine Except.foldlM_forall₂ (T := fun state => (relabel m state.1, state.2)) hlevel ?_ hderive
  rintro state p _ next rfl hfire
  exact fire_rename h hf hfire

theorem run_rename (hok : ∀ o : Overlay, ∃ x, derive functions s level o.toGraph = .ok x)
    (exhausted : Ending) (rounds : Nat) (o : Overlay) :
    run functions s' (level.map m) exhausted rounds o =
      ⟨(run functions s level exhausted rounds o).rounds.map (Round.relabel m),
        (run functions s level exhausted rounds o).ending⟩ := by
  induction rounds generalizing o with
  | zero => rfl
  | succ rounds ih =>
    rcases run_cases functions s level exhausted rounds o with
      ⟨f, hderive, -⟩ | ⟨n, hderive, hrun⟩ | ⟨fresh, n, next, k, hderive, hfresh, hextend, hrun⟩
    · obtain ⟨x, hx⟩ := hok o
      simp [hderive] at hx
    · rw [hrun, run_of_derive_nil (derive_rename h hf hderive)]
      rfl
    · rw [hrun, run_of_derive (derive_rename h hf hderive) (mt relabel_eq_nil.mp hfresh)
        (map_fst_relabel.symm ▸ hextend), ih next]
      rfl

end

end Saturation

-- ---------------------------------------------------------------------------
-- Strata
-- ---------------------------------------------------------------------------

namespace Engine

variable {e e' : Engine} {o : Overlay}

structure Renames (m : RuleId → RuleId) (e e' : Engine) : Prop where
  rules : RuleSet.Renames m e.rules e'.rules
  levels : e'.strata.levels = e.strata.levels.map (List.map m)
  settings : e'.settings = e.settings
  functions : e'.functions = e.functions

section
variable (h : Renames m e e') (hf : e.functions.KeepsConcrete)
include h hf

theorem saturate_rename (hsound : e.Sound level) (fuel stratum : Nat) (o : Overlay) :
    e'.saturate fuel stratum (level.map m) o =
      ⟨(e.saturate fuel stratum level o).rounds.map (Round.relabel m),
        (e.saturate fuel stratum level o).ending⟩ := by
  have hrun := Saturation.run_rename h.rules hf hsound
  simp only [saturate, h.settings, h.functions, List.isEmpty_map]
  split
  · rfl
  · split
    · exact hrun _ fuel o
    · exact hrun _ e.settings.maxRounds o

theorem runStrata_rename {xs : List (List RuleId × Nat)} (hsound : ∀ x ∈ xs, e.Sound x.1)
    (fuel : Nat) (o : Overlay) :
    e'.runStrata fuel (xs.map (Prod.map (List.map m) id)) o =
      ((e.runStrata fuel xs o).1.map (StratumLog.relabel m), (e.runStrata fuel xs o).2) := by
  induction xs generalizing o with
  | nil => rfl
  | cons x rest ih =>
    obtain ⟨level, stratum⟩ := x
    obtain ⟨hlevel, hrest⟩ := List.forall_mem_cons.mp hsound
    simp only [List.map_cons, Prod.map_apply, id_eq, runStrata,
      saturate_rename h hf hlevel fuel stratum o]
    cases (e.saturate fuel stratum level o).ending with
    | settled next =>
      simp only [ih hrest next]
      rfl
    | failed f => rfl
    | unfinished => rfl

theorem run_rename (hsound : ∀ x ∈ e.strata.levels.zipIdx, e.Sound x.1) (fuel : Nat)
    (base : Graph) : e'.run fuel base = (e.run fuel base).relabel m := by
  simp only [run, h.rules.data]
  split
  · rfl
  · simp only [h.levels, List.zipIdx_map, runStrata_rename h hf hsound]
    rfl

theorem evaluate_rename (hsound : ∀ x ∈ e.strata.levels.zipIdx, e.Sound x.1) (fuel : Nat)
    (base : Graph) : e'.evaluate fuel base = e.evaluate fuel base := by
  rw [evaluate, evaluate, run_rename h hf hsound, Run.outcome?_relabel]

end

theorem renames_of_prepare (h : RuleSet.Renames m s s') (hprepare : prepare s = .ok e)
    (hprepare' : prepare s' = .ok e') (settings : EngineSettings) (functions : FunctionRegistry) :
    Renames m (e.configure settings functions) (e'.configure settings functions) := by
  obtain ⟨rfl, -, -, -, hstrata⟩ := prepared_of_prepare hprepare
  obtain ⟨rfl, -, -, -, hstrata'⟩ := prepared_of_prepare hprepare'
  exact ⟨h, h.relabels.levels hstrata hstrata', rfl, rfl⟩

/-- Names of variables mean nothing. If the variables of every rule are renamed, in each by
itself and different ones differently, the rule set is refused for the same kind of reason, or
accepted with the same dependencies, recursive rules and strata position by position.
Then all evaluations come to the same result, or fail alike. -/
theorem prepare_evaluate_rename (hrules : List.Forall₂ Rule.Renames s.rules s'.rules)
    (hdata : s'.data = s.data) :
    (∀ x, prepare s = .error x →
      ∃ x', prepare s' = .error x' ∧ x'.diagnostic.code = x.diagnostic.code) ∧
    ∀ e, prepare s = .ok e → ∃ e' m, prepare s' = .ok e' ∧ s'.ids = s.ids.map m ∧
      e'.dependencies = e.dependencies.map m ∧ e'.recursive = e.recursive.map m ∧
      e'.strata.levels = e.strata.levels.map (List.map m) ∧
      (∀ p ∈ s.ids, e'.strata.stratum? (m p) = e.strata.stratum? p) ∧
      ∀ (settings : EngineSettings) (functions : FunctionRegistry), functions.KeepsConcrete →
        ∀ fuel base, (e'.configure settings functions).evaluate fuel base =
          (e.configure settings functions).evaluate fuel base := by
  obtain ⟨m, h⟩ := RuleSet.exists_renames hrules hdata
  rcases prepare_alike h.checkRuleSet_iff.symm h.relabels.hasNegativeCycle_iff.symm with
    ⟨x, x', hx, hx', hcode⟩ | ⟨e, e', he, he'⟩
  · refine ⟨fun y hy => ?_, fun e he => ?_⟩
    · obtain rfl := Except.error.inj (hx.symm.trans hy)
      exact ⟨x', hx', hcode.symm⟩
    · cases hx.symm.trans he
  · refine ⟨fun x hx => ?_, fun y hy => ?_⟩
    · cases he.symm.trans hx
    obtain rfl := Except.ok.inj (he.symm.trans hy)
    have hprepared := prepared_of_prepare he
    have hprepared' := prepared_of_prepare he'
    refine ⟨e', m, he', h.ids, ?_, h.relabels.recursive hprepared.recursive hprepared'.recursive,
      h.relabels.levels hprepared.strata hprepared'.strata,
      fun p hp => h.relabels.stratum? hprepared.strata hprepared'.strata hp,
      fun settings functions hf fuel base => ?_⟩
    · rw [dependencies_of_prepare he', dependencies_of_prepare he, h.graph]
    · exact evaluate_rename (renames_of_prepare h he he' settings functions) hf
        (sound_levels he settings hf) fuel base

/-- The rules of `childless` under other names and identities; the variables of the first
one change places. -/
def childlessRenamed : RuleSet where
  rules := [
    ⟨⟨5⟩, some "parents", [⟨.ofVariable "y", .ofIri "is", .ofIri "parent"⟩],
      [.pattern ⟨.ofVariable "y", .ofIri "child", .ofVariable "x"⟩]⟩,
    ⟨⟨3⟩, none, [⟨.ofVariable "who", .ofIri "is", .ofIri "childless"⟩],
      [.pattern ⟨.ofVariable "who", .ofIri "is", .ofIri "person"⟩,
        .negation [.pattern ⟨.ofVariable "who", .ofIri "is", .ofIri "parent"⟩]]⟩]
  data := childless.data
  distinct := by decide

theorem prepare_evaluate_rename_childless : ∃ e e' m found,
    prepare childless = .ok e ∧ prepare childlessRenamed = .ok e' ∧
    e'.strata.levels = e.strata.levels.map (List.map m) ∧
    (e.configure {} .standard).evaluate 2 (.ofStore .empty) = some (.ok found) ∧
    (e'.configure {} .standard).evaluate 2 (.ofStore .empty) = some (.ok found) := by
  have hfirst : Rule.Renames childless.rules[0] childlessRenamed.rules[0] := by
    refine ⟨fun v => if v = ⟨"x"⟩ then ⟨"y"⟩ else ⟨"x"⟩, ?_, rfl, rfl⟩
    have hinj : ∀ v ∈ childless.rules[0].vars, ∀ w ∈ childless.rules[0].vars,
        (if v = ⟨"x"⟩ then ⟨"y"⟩ else ⟨"x"⟩ : Variable) = (if w = ⟨"x"⟩ then ⟨"y"⟩ else ⟨"x"⟩) →
          v = w := by decide
    exact fun v hv w hw => hinj v hv w hw
  have hsecond : Rule.Renames childless.rules[1] childlessRenamed.rules[1] := by
    refine ⟨fun _ => ⟨"who"⟩, ?_, rfl, rfl⟩
    have hinj : ∀ v ∈ childless.rules[1].vars, ∀ w ∈ childless.rules[1].vars, v = w := by decide
    exact fun v hv w hw _ => hinj v hv w hw
  have hrules : List.Forall₂ Rule.Renames childless.rules childlessRenamed.rules :=
    .cons hfirst (.cons hsecond .nil)
  obtain ⟨e, found, hprepare, hevaluate⟩ := childless_evaluates
  obtain ⟨e', m, hprepare', -, -, -, hlevels, -, hsame⟩ :=
    (prepare_evaluate_rename hrules rfl).2 e hprepare
  refine ⟨e, e', m, found, hprepare, hprepare', hlevels, hevaluate, ?_⟩
  rw [hsame {} .standard FunctionRegistry.standard_keepsConcrete, hevaluate]

end Engine

end TripleRules
