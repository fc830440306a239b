import TripleRules.Proofs.Dependency.Form
import TripleRules.Proofs.Engine.Failure
import TripleRules.Proofs.Engine.Unaffected

/-!
# Order does not matter

Two rule sets that say the same are accepted or refused alike, and on the same
triples their evaluations go together, round by round: each finds the same new
triples, in some order, and fails where the other fails. The order of rules, of
triples and of look-ups, repeated rules and their names have no part in that.
-/

namespace TripleRules

open Rule (SameForms form)

variable {functions : FunctionRegistry} {s s' : RuleSet} {g g' : Graph} {r r' : Rule}
  {rs rs' : List Rule} {counted : Prop} {t : Triple} {fresh : List (Triple × RuleId)} {n : Nat}

-- ---------------------------------------------------------------------------
-- What rules derive
-- ---------------------------------------------------------------------------

namespace Rule

def derivable (functions : FunctionRegistry) (g : Graph) (rs : List Rule) : Set Triple :=
  {t | ∃ r ∈ rs, r.Derives functions g t}

theorem derives_congr (hform : r.form = r'.form) (hfacts : g.facts = g'.facts) :
    r.Derives functions g t ↔ r'.Derives functions g' t := by
  rw [derives_iff, derives_iff, hfacts, head_of_form hform, body_of_form hform]

theorem derivable_congr (h : SameForms counted rs rs') (hfacts : g.facts = g'.facts) :
    derivable functions g rs = derivable functions g' rs' := by
  ext t
  constructor
  · rintro ⟨r, hr, hderives⟩
    obtain ⟨r', hr', hform⟩ := h.exists_form hr
    exact ⟨r', hr', (derives_congr hform hfacts).mp hderives⟩
  · rintro ⟨r', hr', hderives⟩
    obtain ⟨r, hr, hform⟩ := h.symm.exists_form hr'
    exact ⟨r, hr, (derives_congr hform.symm hfacts).mpr hderives⟩

theorem length_solutions_congr (hfacts : g.facts = g'.facts) :
    (r.solutions functions g).length = (r.solutions functions g').length :=
  (solutions_perm fun _ _ t _ => by rw [hfacts]).length_eq

theorem sum_length_solutions_congr (h : (rs.map form).Perm (rs'.map form))
    (hfacts : g.facts = g'.facts) :
    (rs.map fun r => (r.solutions functions g).length).sum =
      (rs'.map fun r => (r.solutions functions g').length).sum :=
  calc (rs.map fun r => (r.solutions functions g).length).sum
      = ((rs.map form).map fun f => (Body.solve functions g f.2 .empty).length).sum := by
        rw [List.map_map]
        rfl
    _ = ((rs'.map form).map fun f => (Body.solve functions g f.2 .empty).length).sum :=
        (h.map _).sum_nat
    _ = (rs'.map fun r => (r.solutions functions g).length).sum := by
        rw [List.map_map]
        rfl
    _ = (rs'.map fun r => (r.solutions functions g').length).sum := by
        rw [List.map_congr_left fun r _ => length_solutions_congr hfacts]

end Rule

-- ---------------------------------------------------------------------------
-- Rounds
-- ---------------------------------------------------------------------------

/-- Two rounds find the same triples, and as many solutions if these are counted. -/
structure Round.Alike (counted : Prop) (x x' : Round) : Prop where
  fresh : (x.fresh.map Prod.fst).Perm (x'.fresh.map Prod.fst)
  fired : counted → x.fired = x'.fired

/-- Failures of one kind. Which rule leaves a template open is a matter of order. -/
inductive Failure.Alike : Failure → Failure → Prop
  | openHead (e e' : OpenHead) : Alike (.openHead e) (.openHead e')
  | roundLimit (stratum limit : Nat) : Alike (.roundLimit stratum limit) (.roundLimit stratum limit)

inductive Ending.Alike : Ending → Ending → Prop
  | settled {o o' : Overlay} : o.toGraph.facts = o'.toGraph.facts → Alike (.settled o) (.settled o')
  | failed {f f' : Failure} : f.Alike f' → Alike (.failed f) (.failed f')
  | unfinished : Alike .unfinished .unfinished

structure Saturation.Alike (counted : Prop) (x x' : Saturation) : Prop where
  rounds : List.Forall₂ (Round.Alike counted) x.rounds x'.rounds
  ending : x.ending.Alike x'.ending

namespace Saturation

section
variable (hrs : rs ⊆ s.rules)
include hrs

theorem mem_derive (h : derive functions s (rs.map Rule.id) g = .ok (fresh, n)) :
    t ∈ fresh.map Prod.fst ↔ t ∉ g.facts ∧ t ∈ Rule.derivable functions g rs := by
  refine (derive_ok h t).trans (and_congr_right fun _ => ?_)
  constructor
  · rintro ⟨r, hr, hid, hderives⟩
    obtain ⟨q, hq, heq⟩ := List.mem_map.mp hid
    obtain rfl := List.inj_on_of_nodup_map s.distinct (hrs hq) hr heq
    exact ⟨q, hq, hderives⟩
  · rintro ⟨r, hr, hderives⟩
    exact ⟨r, hrs hr, List.mem_map_of_mem hr, hderives⟩

theorem derive_isOk_iff : (∃ x, derive functions s (rs.map Rule.id) g = .ok x) ↔
    ∀ t ∈ Rule.derivable functions g rs, t.isConcrete = true := by
  rw [derive_isOk]
  constructor
  · rintro h t ⟨r, hr, hderives⟩
    obtain ⟨q, hq, heq, hconcrete⟩ := h r.id (List.mem_map_of_mem hr)
    obtain rfl := List.inj_on_of_nodup_map s.distinct hq (hrs hr) heq
    exact hconcrete t hderives
  · intro h id hid
    obtain ⟨r, hr, rfl⟩ := List.mem_map.mp hid
    exact ⟨r, hrs hr, rfl, fun t hderives => h t ⟨r, hr, hderives⟩⟩

theorem fired_of_derive (h : derive functions s (rs.map Rule.id) g = .ok (fresh, n)) :
    n = (rs.map fun r => (r.solutions functions g).length).sum := by
  suffices ∀ state next : List (Triple × RuleId) × Nat,
      (rs.map Rule.id).foldlM (fire functions s g) state = .ok next →
        next.2 = state.2 + (rs.map fun r => (r.solutions functions g).length).sum by
    simpa using this _ _ h
  clear h
  induction rs with
  | nil =>
    intro state next h
    obtain rfl := Except.pure_ok.mp h
    simp
  | cons r rest ih =>
    intro state next h
    obtain ⟨hr, hrest⟩ := List.cons_subset.mp hrs
    rw [List.map_cons, List.foldlM_cons, Except.bind_ok] at h
    obtain ⟨mid, hfire, hnext⟩ := h
    simp only [fire, RuleSet.get?_eq_some.mpr ⟨hr, rfl⟩, Except.bind_ok, Except.pure_ok] at hfire
    obtain ⟨_, -, rfl⟩ := hfire
    rw [ih hrest _ _ hnext, List.map_cons, List.sum_cons]
    omega

end

variable (hrs : rs ⊆ s.rules) (hrs' : rs' ⊆ s'.rules) (h : SameForms counted rs rs')
include hrs hrs' h

theorem derive_alike (functions : FunctionRegistry) (hfacts : g.facts = g'.facts) :
    (∃ fresh n fresh' n', derive functions s (rs.map Rule.id) g = .ok (fresh, n) ∧
      derive functions s' (rs'.map Rule.id) g' = .ok (fresh', n') ∧
      (fresh.map Prod.fst).Perm (fresh'.map Prod.fst) ∧ (counted → n = n')) ∨
    ∃ e e', derive functions s (rs.map Rule.id) g = .error (.openHead e) ∧
      derive functions s' (rs'.map Rule.id) g' = .error (.openHead e') := by
  have hids : ∀ id ∈ rs.map Rule.id, id ∈ s.ids := List.map_subset _ hrs
  have hids' : ∀ id ∈ rs'.map Rule.id, id ∈ s'.ids := List.map_subset _ hrs'
  have hok : (∃ x, derive functions s (rs.map Rule.id) g = .ok x) ↔
      ∃ x, derive functions s' (rs'.map Rule.id) g' = .ok x := by
    rw [derive_isOk_iff hrs, derive_isOk_iff hrs', Rule.derivable_congr h hfacts]
  cases hd : derive functions s (rs.map Rule.id) g with
  | ok x =>
    obtain ⟨x', hd'⟩ := hok.mp ⟨x, hd⟩
    refine .inl ⟨x.1, x.2, x'.1, x'.2, rfl, hd', ?_, fun hcounted => ?_⟩
    · refine (List.perm_ext_iff_of_nodup (nodup_derive hd) (nodup_derive hd')).mpr fun t => ?_
      rw [mem_derive hrs hd, mem_derive hrs' hd', hfacts, Rule.derivable_congr h hfacts]
    · rw [fired_of_derive hrs hd, fired_of_derive hrs' hd']
      exact Rule.sum_length_solutions_congr (h.perm hcounted) hfacts
  | error f =>
    obtain ⟨e, rfl⟩ := derive_error hids hd
    cases hd' : derive functions s' (rs'.map Rule.id) g' with
    | ok x' =>
      obtain ⟨x, hx⟩ := hok.mpr ⟨x', hd'⟩
      simp [hd] at hx
    | error f' =>
      obtain ⟨e', rfl⟩ := derive_error hids' hd'
      exact .inr ⟨e, e', rfl, rfl⟩

theorem run_alike {exhausted : Ending} (hexhausted : exhausted.Alike exhausted) (rounds : Nat)
    {o o' : Overlay} (hfacts : o.toGraph.facts = o'.toGraph.facts) :
    (run functions s (rs.map Rule.id) exhausted rounds o).Alike counted
      (run functions s' (rs'.map Rule.id) exhausted rounds o') := by
  induction rounds generalizing o o' with
  | zero => exact ⟨.nil, hexhausted⟩
  | succ rounds ih =>
    rcases derive_alike hrs hrs' h functions hfacts with
      ⟨fresh, n, fresh', n', hd, hd', hperm, hfired⟩ | ⟨e, e', hd, hd'⟩
    · by_cases hfresh : fresh = []
      · subst hfresh
        obtain rfl : fresh' = [] := List.map_eq_nil_iff.mp hperm.symm.eq_nil
        rw [run_of_derive_nil hd, run_of_derive_nil hd']
        exact ⟨.cons ⟨.nil, hfired⟩ .nil, .settled hfacts⟩
      · have hfresh' : fresh' ≠ [] := by
          rintro rfl
          exact hfresh (List.map_eq_nil_iff.mp hperm.eq_nil)
        obtain ⟨next, m, hnext⟩ := o.exists_extend (isConcrete_of_derive hd)
        obtain ⟨next', m', hnext'⟩ := o'.exists_extend (isConcrete_of_derive hd')
        have hfacts' : next.toGraph.facts = next'.toGraph.facts := by
          ext t
          exact ((Overlay.mem_extend hnext).2 t).trans
            ((or_congr (Set.ext_iff.mp hfacts t) hperm.mem_iff).trans
              ((Overlay.mem_extend hnext').2 t).symm)
        rw [run_of_derive hd hfresh hnext, run_of_derive hd' hfresh' hnext']
        obtain ⟨hrounds, hending⟩ := ih hfacts'
        exact ⟨.cons ⟨hperm, hfired⟩ hrounds, hending⟩
    · rw [run_of_derive_error hd, run_of_derive_error hd']
      exact ⟨.nil, .failed (.openHead e e')⟩

end Saturation

-- ---------------------------------------------------------------------------
-- Evaluations
-- ---------------------------------------------------------------------------

structure StratumLog.Alike (counted : Prop) (l l' : StratumLog) : Prop where
  stratum : l.stratum = l'.stratum
  rounds : List.Forall₂ (Round.Alike counted) l.rounds l'.rounds

structure Run.Alike (counted : Prop) (x x' : Run) : Prop where
  log : List.Forall₂ (StratumLog.Alike counted) x.log x'.log
  ending : x.ending.Alike x'.ending

def Run.additions (x : Run) : List (List Nat) :=
  x.log.map fun l => l.rounds.map fun round => round.fresh.length

theorem map_eq_of_forall₂ {α α' β : Type} {R : α → α' → Prop} {f : α → β} {f' : α' → β}
    {l : List α} {l' : List α'} (h : List.Forall₂ R l l') (hf : ∀ a a', R a a' → f a = f' a') :
    l.map f = l'.map f' := by
  induction h with
  | nil => rfl
  | cons hhead _ ih => rw [List.map_cons, List.map_cons, hf _ _ hhead, ih]

namespace Run.Alike

variable {x x' : Run}

theorem additions (h : x.Alike counted x') : x.additions = x'.additions :=
  map_eq_of_forall₂ h.log fun _ _ hl => map_eq_of_forall₂ hl.rounds fun _ _ hround => by
    simpa using hround.fresh.length_eq

theorem rounds (h : x.Alike counted x') : x.statistics.rounds = x'.statistics.rounds :=
  map_eq_of_forall₂ h.log fun _ _ hl => hl.rounds.length_eq

theorem fired (h : x.Alike counted x') (hcounted : counted) :
    x.statistics.rulesFired = x'.statistics.rulesFired := by
  have hmap : x.log.map (fun l => l.rounds.map Round.fired) =
      x'.log.map fun l => l.rounds.map Round.fired :=
    map_eq_of_forall₂ h.log fun _ _ hl => map_eq_of_forall₂ hl.rounds fun _ _ hround =>
      hround.fired hcounted
  simp only [statistics, List.map_flatMap]
  rw [List.flatMap_def, List.flatMap_def, hmap]

end Run.Alike

namespace Engine

variable {e e' : Engine} {level level' : List RuleId} {o o' : Overlay} {base base' : Graph}

theorem saturate_alike (hsettings : e.settings = e'.settings)
    (hfunctions : e.functions = e'.functions)
    (hlevel : RuleSet.SameLevel counted e.rules e'.rules level level')
    (hfacts : o.toGraph.facts = o'.toGraph.facts) (fuel stratum : Nat) :
    (e.saturate fuel stratum level o).Alike counted (e'.saturate fuel stratum level' o') := by
  obtain ⟨hrs, hrs', h⟩ := hlevel
  simp only [saturate, List.isEmpty_iff, List.map_eq_nil_iff, h.eq_nil_iff, hsettings, hfunctions]
  split
  · exact ⟨.nil, .settled hfacts⟩
  · split
    · exact Saturation.run_alike hrs hrs' h .unfinished fuel hfacts
    · exact Saturation.run_alike hrs hrs' h (.failed (.roundLimit _ _)) _ hfacts

theorem runStrata_alike (hsettings : e.settings = e'.settings)
    (hfunctions : e.functions = e'.functions) {levels levels' : List (List RuleId)}
    (hlevels : List.Forall₂ (RuleSet.SameLevel counted e.rules e'.rules) levels levels')
    (hfacts : o.toGraph.facts = o'.toGraph.facts) (fuel n : Nat) :
    List.Forall₂ (StratumLog.Alike counted) (e.runStrata fuel (levels.zipIdx n) o).1
        (e'.runStrata fuel (levels'.zipIdx n) o').1 ∧
      (e.runStrata fuel (levels.zipIdx n) o).2.Alike
        (e'.runStrata fuel (levels'.zipIdx n) o').2 := by
  induction hlevels generalizing n o o' with
  | nil => exact ⟨.nil, .settled hfacts⟩
  | cons hlevel _ ih =>
    have halike := saturate_alike hsettings hfunctions hlevel hfacts fuel n
    simp only [List.zipIdx_cons, runStrata]
    generalize e.saturate fuel n _ o = x at halike ⊢
    generalize e'.saturate fuel n _ o' = x' at halike ⊢
    obtain ⟨rounds, ending⟩ := x
    obtain ⟨rounds', ending'⟩ := x'
    obtain ⟨hrounds, hending⟩ := halike
    cases hending with
    | settled hnext =>
      obtain ⟨hlog, hlast⟩ := ih hnext (n + 1)
      exact ⟨.cons ⟨rfl, hrounds⟩ hlog, hlast⟩
    | failed hfailure => exact ⟨.cons ⟨rfl, hrounds⟩ .nil, .failed hfailure⟩
    | unfinished => exact ⟨.cons ⟨rfl, hrounds⟩ .nil, .unfinished⟩

theorem run_alike (h : SameForms counted s.rules s'.rules)
    (htriples : ∀ t, t ∈ base.toList ∨ t ∈ s.data ↔ t ∈ base'.toList ∨ t ∈ s'.data)
    (hprepare : prepare s = .ok e) (hprepare' : prepare s' = .ok e') (settings : EngineSettings)
    (functions : FunctionRegistry) (fuel : Nat) :
    ((e.configure settings functions).run fuel base).Alike counted
      ((e'.configure settings functions).run fuel base') := by
  obtain ⟨start, m, hstart, hrun⟩ := run_of_prepare hprepare settings functions base
  obtain ⟨start', m', hstart', hrun'⟩ := run_of_prepare hprepare' settings functions base'
  obtain ⟨rfl, -, -, -, hstrata⟩ := prepared_of_prepare hprepare
  obtain ⟨rfl, -, -, -, hstrata'⟩ := prepared_of_prepare hprepare'
  have hfacts : start.toGraph.facts = start'.toGraph.facts := by
    ext t
    exact (hstart t).trans ((htriples t).trans (hstart' t).symm)
  have hsettings : (e.configure settings functions).settings =
      (e'.configure settings functions).settings := rfl
  obtain ⟨hlog, hending⟩ := runStrata_alike hsettings rfl
    (Stratification.levels_of_sameForms h hstrata hstrata') hfacts fuel 0
  rw [hrun, hrun']
  exact ⟨hlog, hending⟩

/-- Results of evaluations that go together: the same triples after as many rounds, a
failure of the same kind, or none. -/
inductive OutcomeAlike (counted : Prop) :
    Option (Except Failure Evaluation) → Option (Except Failure Evaluation) → Prop
  | found {x x' : Evaluation} : (∀ t, t ∈ x.output.toList ↔ t ∈ x'.output.toList) →
      x.statistics.rounds = x'.statistics.rounds →
      (counted → x.statistics.rulesFired = x'.statistics.rulesFired) →
      OutcomeAlike counted (some (.ok x)) (some (.ok x'))
  | failed {f f' : Failure} : f.Alike f' → OutcomeAlike counted (some (.error f)) (some (.error f'))
  | unfinished : OutcomeAlike counted none none

theorem outcome_alike {fuel : Nat} (h : (e.run fuel base).Alike counted (e'.run fuel base')) :
    OutcomeAlike counted (e.evaluate fuel base) (e'.evaluate fuel base') := by
  have hending := h.ending
  generalize hx : (e.run fuel base).ending = ending at hending
  generalize hx' : (e'.run fuel base').ending = ending' at hending
  cases hending with
  | settled hfacts =>
    obtain ⟨found, hevaluate, hstatistics, houtput⟩ := evaluate_of_run hx
    obtain ⟨found', hevaluate', hstatistics', houtput'⟩ := evaluate_of_run hx'
    rw [hevaluate, hevaluate']
    refine .found (fun t => ?_) ?_ fun hcounted => ?_
    · exact (houtput t).trans ((Set.ext_iff.mp hfacts t).trans (houtput' t).symm)
    · rw [hstatistics, hstatistics', h.rounds]
    · rw [hstatistics, hstatistics', h.fired hcounted]
  | failed hfailure =>
    simp only [evaluate, Run.outcome?, hx, hx']
    exact .failed hfailure
  | unfinished =>
    simp only [evaluate, Run.outcome?, hx, hx']
    exact .unfinished

-- ---------------------------------------------------------------------------
-- Preparation
-- ---------------------------------------------------------------------------

section
variable (h : SameForms counted s.rules s'.rules)
  (htriples : ∀ t, t ∈ base.toList ∨ t ∈ s.data ↔ t ∈ base'.toList ∨ t ∈ s'.data)
include h htriples

theorem checkRuleSet_of_sameForms (hwf : Scope.checkRuleSet s = .ok ()) :
    Scope.checkRuleSet s' = .ok () := by
  refine checkRuleSet_of_forms (fun _ => h.symm.exists_form) (fun t ht => ?_) hwf
  rcases (htriples t).mpr (.inr ht) with hbase | hdata
  · exact Graph.isConcrete_of_mem hbase
  · exact (Scope.checkRuleSet_ok.mp hwf).2 t hdata

theorem prepare_of_sameForms :
    (∃ x x', prepare s = .error x ∧ prepare s' = .error x' ∧
      x.diagnostic.code = x'.diagnostic.code) ∨
    ∃ e e', prepare s = .ok e ∧ prepare s' = .ok e' := by
  refine prepare_alike ⟨checkRuleSet_of_sameForms h htriples, ?_⟩ ⟨?_, ?_⟩
  · exact checkRuleSet_of_sameForms h.symm fun t => (htriples t).symm
  · exact fun hcycle => hcycle.of_forms fun _ => h.exists_form
  · exact fun hcycle => hcycle.of_forms fun _ => h.symm.exists_form

end

/-- Of two rule sets that say the same both are refused, for the same kind of reason, or
both are accepted. Then rules that say the same are in the same stratum, and evaluations
of the same triples end alike, with as many rounds and additions; each rule set may
hold some of the triples as its data. Rules that are also repeated alike fire as often. -/
theorem prepare_evaluate_alike
    (hforms : ∀ f, f ∈ s.rules.map form ↔ f ∈ s'.rules.map form)
    (htriples : ∀ t, t ∈ base.toList ∨ t ∈ s.data ↔ t ∈ base'.toList ∨ t ∈ s'.data) :
    (∀ x, prepare s = .error x →
      ∃ x', prepare s' = .error x' ∧ x.diagnostic.code = x'.diagnostic.code) ∧
    ∀ e, prepare s = .ok e → ∃ e', prepare s' = .ok e' ∧
      (∀ r ∈ s.rules, ∀ r' ∈ s'.rules, r.form = r'.form →
        ∃ i, e.strata.stratum? r.id = some i ∧ e'.strata.stratum? r'.id = some i) ∧
      ∀ settings functions fuel,
        OutcomeAlike ((s.rules.map form).Perm (s'.rules.map form))
          ((e.configure settings functions).evaluate fuel base)
          ((e'.configure settings functions).evaluate fuel base') ∧
        ((e.configure settings functions).run fuel base).additions =
          ((e'.configure settings functions).run fuel base').additions := by
  have h : SameForms ((s.rules.map form).Perm (s'.rules.map form)) s.rules s'.rules :=
    ⟨hforms, id⟩
  rcases prepare_of_sameForms h htriples with
    ⟨x, x', hprepare, hprepare', hcode⟩ | ⟨e, e', hprepare, hprepare'⟩
  · refine ⟨fun y hy => ?_, fun e he => ?_⟩
    · obtain rfl := Except.error.inj (hprepare.symm.trans hy)
      exact ⟨x', hprepare', hcode⟩
    · cases hprepare.symm.trans he
  · refine ⟨fun x hx => ?_, fun y hy => ?_⟩
    · cases hprepare.symm.trans hx
    obtain rfl := Except.ok.inj (hprepare.symm.trans hy)
    have hprepared := prepared_of_prepare hprepare
    have hprepared' := prepared_of_prepare hprepare'
    refine ⟨e', hprepare', fun r hr r' hr' hform => ?_, fun settings functions fuel => ?_⟩
    · exact Stratification.stratum?_of_alike h hprepared.strata hprepared'.strata
        ⟨r, hr, r', hr', rfl, rfl, hform⟩
    · have hrun := run_alike h htriples hprepare hprepare' settings functions fuel
      exact ⟨outcome_alike hrun, hrun.additions⟩

/-- The rules of `childless` the other way round, one of them twice and under other
names, and without the data. -/
def childlessAgain : RuleSet where
  rules := [
    ⟨⟨7⟩, some "childless", [⟨.ofVariable "x", .ofIri "is", .ofIri "childless"⟩],
      [.pattern ⟨.ofVariable "x", .ofIri "is", .ofIri "person"⟩,
        .negation [.pattern ⟨.ofVariable "x", .ofIri "is", .ofIri "parent"⟩]]⟩,
    ⟨⟨3⟩, some "parent", [⟨.ofVariable "x", .ofIri "is", .ofIri "parent"⟩],
      [.pattern ⟨.ofVariable "x", .ofIri "child", .ofVariable "y"⟩]⟩,
    ⟨⟨5⟩, none, [⟨.ofVariable "x", .ofIri "is", .ofIri "parent"⟩],
      [.pattern ⟨.ofVariable "x", .ofIri "child", .ofVariable "y"⟩]⟩]
  data := []
  distinct := by decide

/-- The data may as well come from the graph, in another order. -/
theorem prepare_evaluate_alike_childless : ∃ (base : Graph) (e e' : Engine) (x x' : Evaluation),
    prepare childless = .ok e ∧ prepare childlessAgain = .ok e' ∧
    (e.configure {} .standard).evaluate 2 (.ofStore .empty) = some (.ok x) ∧
    (e'.configure {} .standard).evaluate 2 base = some (.ok x') ∧
    (∀ t, t ∈ x.output.toList ↔ t ∈ x'.output.toList) ∧
    x.statistics.rounds = x'.statistics.rounds := by
  let base : Graph := .ofStore (Store.empty.addAll childless.data.reverse).1
  have hbase : base.toList = childless.data.reverse := by decide +kernel
  have hforms : ∀ f, f ∈ childless.rules.map form ↔ f ∈ childlessAgain.rules.map form := fun f => by
    simp [childless, childlessAgain, form, or_comm]
  have htriples : ∀ t, t ∈ (Graph.ofStore .empty).toList ∨ t ∈ childless.data ↔
      t ∈ base.toList ∨ t ∈ childlessAgain.data := fun t => by
    simp [hbase, childlessAgain, Graph.toList_ofStore, Store.toList, Store.empty]
  obtain ⟨e, x, hprepare, hevaluate⟩ := childless_evaluates
  obtain ⟨e', hprepare', -, halike⟩ := (prepare_evaluate_alike hforms htriples).2 e hprepare
  obtain ⟨houtcome, -⟩ := halike {} .standard 2
  rw [hevaluate] at houtcome
  generalize hevaluate' : (e'.configure {} .standard).evaluate 2 base = outcome at houtcome
  cases houtcome with
  | found houtput hrounds _ =>
    exact ⟨base, e, e', x, _, hprepare, hprepare', hevaluate, hevaluate', houtput, hrounds⟩

end Engine

end TripleRules
