import TripleRules.Proofs.Engine.Termination

/-!
# Stable models

Some triples make up a stable model if they are the least set that contains the first
ones and is closed under all rules, negations being judged in the model itself. What
an evaluation outputs is such a model (`isStable_last`). Conversely, where there is a
finite one, an evaluation without a limit ends, and outputs it (`evaluate_of_isStable`).
So what evaluations have in common can be shown without a look at their strata and rounds.
-/

namespace TripleRules

open Dependency (signedPatternsOfBody)

variable {functions : FunctionRegistry} {s : RuleSet} {r : Rule} {S T J J' M : Set Triple}
  {start : Set Triple} {u : Triple}

-- ---------------------------------------------------------------------------
-- What a rule infers
-- ---------------------------------------------------------------------------

namespace Rule

/-- A rule derives that triple from some triples, where negations are judged in others. -/
def Infers (functions : FunctionRegistry) (judged S : Set Triple) (r : Rule) (u : Triple) : Prop :=
  ∃ b, Body.Solves functions (Body.reading S judged) .positive r.body .empty b ∧
    ∃ template ∈ r.head, b.substitute template = u

theorem derives_iff_infers {g : Graph} :
    r.Derives functions g u ↔ r.Infers functions g.facts g.facts u := by
  have hself : Body.reading g.facts g.facts = fun _ => g.facts := by
    funext sign
    cases sign with
    | positive => rfl
    | negative => rfl
  rw [derives_iff, Infers, hself]

namespace Infers

theorem produces (h : r.Infers functions J S u) : r.Produces u :=
  have ⟨b, _, hhead⟩ := h
  ⟨b, hhead⟩

theorem imp (hpositive : ∀ p, (.positive, p) ∈ signedPatternsOfBody .positive r.body →
      ∀ u, p.Matches u → u ∈ S → u ∈ T)
    (hnegative : ∀ p, (.negative, p) ∈ signedPatternsOfBody .positive r.body →
      ∀ u, p.Matches u → (u ∈ J ↔ u ∈ J'))
    (h : r.Infers functions J S u) : r.Infers functions J' T u := by
  obtain ⟨b, hsolves, hhead⟩ := h
  refine ⟨b, Body.Solves.imp r.body ⟨?_, ?_⟩ hsolves, hhead⟩
  · rintro ⟨sign, p⟩ hp u hmatch hu
    cases sign with
    | positive => exact hpositive p hp u hmatch hu
    | negative => exact (hnegative p hp u hmatch).mp hu
  · rintro ⟨sign, p⟩ hp hsign u hmatch hu
    obtain rfl : sign = .negative := hsign
    exact (hnegative p hp u hmatch).mpr hu

theorem mono (hST : S ⊆ T) (h : r.Infers functions J S u) : r.Infers functions J T u :=
  h.imp (fun _ _ _ _ hu => hST hu) fun _ _ _ _ => Iff.rfl

end Infers

end Rule

-- ---------------------------------------------------------------------------
-- Closures and stable models
-- ---------------------------------------------------------------------------

namespace RuleSet

theorem closedUnder_iff {level : List RuleId} : s.ClosedUnder functions level J S ↔
    ∀ r ∈ s.rules, r.id ∈ level → ∀ u, r.Infers functions J S u → u ∈ S := by
  constructor
  · rintro h r hr hid _ ⟨b, hsolves, template, htemplate, rfl⟩
    exact h r hr hid b hsolves template htemplate
  · intro h r hr hid b hsolves template htemplate
    exact h r hr hid _ ⟨b, hsolves, template, htemplate, rfl⟩

/-- All triples that rules lead to from the first ones, negations being judged in the given set. -/
def closure (functions : FunctionRegistry) (s : RuleSet) (judged start : Set Triple) : Set Triple :=
  ⋂₀ {S | start ⊆ S ∧ s.ClosedUnder functions s.ids judged S}

/-- The triples that rules lead to are just those in which negations were judged. -/
def IsStable (functions : FunctionRegistry) (s : RuleSet) (start M : Set Triple) : Prop :=
  s.closure functions M start = M

theorem subset_closure : start ⊆ s.closure functions J start :=
  Set.subset_sInter fun _ hS => hS.1

theorem closure_subset (hstart : start ⊆ S)
    (h : ∀ r ∈ s.rules, ∀ u, r.Infers functions J S u → u ∈ S) :
    s.closure functions J start ⊆ S :=
  Set.sInter_subset_of_mem ⟨hstart, closedUnder_iff.mpr fun r hr _ => h r hr⟩

theorem mem_closure_of_infers (hr : r ∈ s.rules)
    (h : r.Infers functions J (s.closure functions J start) u) :
    u ∈ s.closure functions J start := by
  rintro S ⟨hstart, hclosed⟩
  have hsub : s.closure functions J start ⊆ S := Set.sInter_subset_of_mem ⟨hstart, hclosed⟩
  exact closedUnder_iff.mp hclosed r hr (List.mem_map_of_mem hr) u (h.mono hsub)

/-- Only the judgement of triples counts that negated patterns match. -/
theorem closure_congr (h : ∀ r ∈ s.rules,
      ∀ p, (.negative, p) ∈ signedPatternsOfBody .positive r.body →
        ∀ u, p.Matches u → (u ∈ J ↔ u ∈ J')) :
    s.closure functions J start = s.closure functions J' start := by
  refine (closure_subset subset_closure fun r hr u hu => ?_).antisymm
    (closure_subset subset_closure fun r hr u hu => ?_)
  · exact mem_closure_of_infers hr (hu.imp (fun _ _ _ _ hv => hv) (h r hr))
  · exact mem_closure_of_infers hr
      (hu.imp (fun _ _ _ _ hv => hv) fun p hp v hmatch => (h r hr p hp v hmatch).symm)

namespace IsStable

variable (hM : s.IsStable functions start M)
include hM

theorem start_subset : start ⊆ M := hM ▸ subset_closure

theorem mem_of_infers (hr : r ∈ s.rules) (h : r.Infers functions M M u) : u ∈ M := by
  rw [IsStable] at hM
  rw [← hM]
  exact mem_closure_of_infers hr (by rwa [hM])

theorem subset_of_closed (hstart : start ⊆ S)
    (h : ∀ r ∈ s.rules, ∀ u, r.Infers functions M S u → u ∈ S) : M ⊆ S :=
  hM.symm.subset.trans (closure_subset hstart h)

/-- A part of the model that rules do not lead out of, but for some from which the others
do not read, lacks only what these produce. -/
theorem exists_produces {P : Rule → Prop} (hstart : start ⊆ S) (hSM : S ⊆ M)
    (hreads : ∀ r ∈ s.rules, ¬ P r →
      ∀ p, (.positive, p) ∈ signedPatternsOfBody .positive r.body → ∀ u, p.Matches u →
        ∀ q ∈ s.rules, P q → ¬ q.Produces u)
    (hclosed : ∀ r ∈ s.rules, ¬ P r → ∀ u, r.Infers functions M S u → u ∈ S) :
    ∀ u ∈ M, u ∉ S → ∃ q ∈ s.rules, P q ∧ q.Produces u := by
  intro u hu hnot
  have hsub : M ⊆ {u | u ∈ M ∧ (u ∈ S ∨ ∃ q ∈ s.rules, P q ∧ q.Produces u)} := by
    refine hM.subset_of_closed (fun u hu => ⟨hSM (hstart hu), .inl (hstart hu)⟩) ?_
    intro r hr u hinfers
    refine ⟨hM.mem_of_infers hr (hinfers.mono fun _ hv => hv.1), ?_⟩
    by_cases hP : P r
    · exact .inr ⟨r, hr, hP, hinfers.produces⟩
    · refine .inl (hclosed r hr hP u (hinfers.imp ?_ fun _ _ _ _ => Iff.rfl))
      rintro p hp v hmatch ⟨-, hv | ⟨q, hq, hPq, hproduces⟩⟩
      · exact hv
      · exact absurd hproduces (hreads r hr hP p hp v hmatch q hq hPq)
  exact (hsub hu).2.resolve_left hnot

theorem grows {t : Stratification} {n : Nat}
    (hofRules : Stratification.ofRules s (.ofRules s) = .ok t) (hstart : start ⊆ S) (hSM : S ⊆ M)
    (hclosed : ∀ r ∈ s.rules, ∀ i < n, t.stratum? r.id = some i →
      ∀ u, r.Infers functions M S u → u ∈ S) : Stratification.Grows s t n S M := by
  have hlower : ∀ r ∈ s.rules, (¬ ∃ j, n ≤ j ∧ t.stratum? r.id = some j) →
      ∃ i < n, t.stratum? r.id = some i := by
    intro r hr hnot
    obtain ⟨i, level, hlevel, hid⟩ :=
      Stratification.exists_level hofRules (List.mem_map_of_mem hr)
    have hi := ((Stratification.mem_level hofRules hlevel).mp hid).2
    exact ⟨i, Nat.lt_of_not_le fun hle => hnot ⟨i, hle, hi⟩, hi⟩
  refine ⟨hSM, hM.exists_produces hstart hSM ?_ ?_⟩
  · rintro r hr hnot p hp u hmatch q hq ⟨j, hj, hprovider⟩ hproduces
    obtain ⟨i, hi, hstratum⟩ := hlower r hr hnot
    have hedge := DependencyGraph.mem_edges_of_matches hr hq hp hmatch hproduces
    have hle := Stratification.stratum_le_of_mem_edges hofRules hedge hstratum hprovider
    omega
  · intro r hr hnot
    obtain ⟨i, hi, hstratum⟩ := hlower r hr hnot
    exact hclosed r hr i hi hstratum

end IsStable

end RuleSet

-- ---------------------------------------------------------------------------
-- Evaluation
-- ---------------------------------------------------------------------------

namespace Engine

variable {e prepared : Engine} {rules : RuleSet} {fuel : Nat} {base : Graph} {last : Overlay}

theorem isStable_last (hofRules : Stratification.ofRules e.rules (.ofRules e.rules) = .ok e.strata)
    (hlast : e.stage? fuel base e.strata.levels.length = some last) :
    e.rules.IsStable e.functions (base.facts ∪ {t | t ∈ e.rules.data}) last.toGraph.facts := by
  obtain ⟨first, hfirst⟩ := exists_stage? hlast (Nat.zero_le _)
  have hstart : first.toGraph.facts = base.facts ∪ {t | t ∈ e.rules.data} :=
    Set.ext (mem_stage?_zero hfirst)
  refine (RuleSet.closure_subset ?_ fun r hr u hu => ?_).antisymm ?_
  · exact start_subset_stage? hofRules hlast
  · exact mem_last_of_derives hofRules hlast (fun _ => Iff.rfl) hr
      (Rule.derives_iff_infers.mpr hu)
  · -- every stage lies in every closed set, since it is the least one for its negations
    rintro u hu S ⟨hsub, hclosed⟩
    rw [RuleSet.closedUnder_iff] at hclosed
    suffices ∀ n ≤ e.strata.levels.length, ∀ o, e.stage? fuel base n = some o →
        o.toGraph.facts ⊆ S from this _ (Nat.le_refl _) _ hlast hu
    intro n hn
    induction n with
    | zero =>
      intro o ho
      obtain rfl := Option.some.inj (hfirst.symm.trans ho)
      exact hstart ▸ hsub
    | succ n ih =>
      intro o ho
      have hlevel := List.getElem?_eq_getElem hn
      obtain ⟨before, hbefore⟩ := exists_stage? ho n.le_succ
      have hgrows := grows_of_stage? hofRules (Nat.le_of_lt hn) hbefore hlast
      refine (isLeast_stage hofRules hlevel hbefore ho).2
        ⟨ih (Nat.le_of_lt hn) before hbefore, RuleSet.closedUnder_iff.mpr fun r hr hid v hv => ?_⟩
      have hstratum := ((Stratification.mem_level hofRules hlevel).mp hid).2
      refine hclosed r hr (List.mem_map_of_mem hr) v (hv.imp (fun _ _ _ _ hw => hw) ?_)
      intro p hp w hmatch
      exact (hgrows.mem_iff_of_matches hofRules hr hstratum hp hmatch (Nat.lt_succ_self n)).symm

section
variable {M : Set Triple}
  (hofRules : Stratification.ofRules e.rules (.ofRules e.rules) = .ok e.strata)
  (hM : e.rules.IsStable e.functions (base.facts ∪ {t | t ∈ e.rules.data}) M)
include hofRules hM

theorem confines_of_isStable {level : List RuleId} {n : Nat} {T : Set Triple}
    (hlevel : e.strata.levels[n]? = some level)
    (hgrows : Stratification.Grows e.rules e.strata n T M) :
    Saturation.Confines e.functions e.rules level T M := by
  intro g hT hg r hr hid u hderives
  have hstratum := ((Stratification.mem_level hofRules hlevel).mp hid).2
  refine hM.mem_of_infers hr
    ((Rule.derives_iff_infers.mp hderives).imp (fun _ _ _ _ hv => hg hv) ?_)
  intro p hp v hmatch
  refine ⟨fun hv => hg hv, fun hv => hT ?_⟩
  exact (hgrows.mem_iff_of_matches hofRules hr hstratum hp hmatch (Nat.lt_succ_self n)).mp hv

theorem stage?_of_isStable (hconcrete : ∀ t ∈ M, t.isConcrete = true)
    (hmax : e.settings.maxRounds = 0) (hfinite : M.Finite) {first : Overlay} {k : Nat}
    (hfirst : (Overlay.ofGraph base).extend e.rules.data = .ok (first, k)) {n : Nat}
    (hn : n ≤ e.strata.levels.length) :
    ∃ o, (∀ fuel, M.ncard < fuel → e.stage? fuel base n = some o) ∧
      Stratification.Grows e.rules e.strata n o.toGraph.facts M := by
  induction n with
  | zero =>
    have hstage : ∀ fuel, e.stage? fuel base 0 = some first := fun fuel =>
      stage?_eq_some.mpr ⟨first, k, hfirst, rfl⟩
    have hfacts : first.toGraph.facts = base.facts ∪ {t | t ∈ e.rules.data} :=
      Set.ext (mem_stage?_zero (hstage 0))
    refine ⟨first, fun fuel _ => hstage fuel, hM.grows hofRules hfacts.superset ?_ ?_⟩
    · exact hfacts ▸ hM.start_subset
    · exact fun r _ i hi => absurd hi (Nat.not_lt_zero i)
  | succ n ih =>
    obtain ⟨before, hbefore, hgrows⟩ := ih (Nat.le_of_lt hn)
    have hlevel := List.getElem?_eq_getElem hn
    have hconfines := confines_of_isStable hofRules hM hlevel hgrows
    have hok : ∀ o : Overlay, before.toGraph.facts ⊆ o.toGraph.facts → o.toGraph.facts ⊆ M →
        ∃ x, Saturation.derive e.functions e.rules e.strata.levels[n] o.toGraph = .ok x := by
      refine fun o hbefore ho => Saturation.derive_isOk.mpr fun id hid => ?_
      obtain ⟨r, hr, rfl⟩ :=
        List.mem_map.mp ((Stratification.mem_level hofRules hlevel).mp hid).1
      exact ⟨r, hr, rfl, fun t ht => hconcrete t (hconfines o.toGraph hbefore ho r hr hid t ht)⟩
    obtain ⟨rounds, after, hsaturate, hsub, -⟩ :=
      saturate_settles hmax hfinite hconfines hok subset_rfl hgrows.subset n
    have hafter : ∀ fuel, M.ncard < fuel → e.stage? fuel base (n + 1) = some after :=
      fun fuel hfuel => (stage?_succ hlevel).mpr
        ⟨before, hbefore fuel hfuel, by rw [hsaturate fuel hfuel]⟩
    have hafter' := hafter _ (Nat.lt_succ_self _)
    have hbefore' := hbefore _ (Nat.lt_succ_self _)
    have hstep := (grows_of_stage? hofRules n.le_succ hbefore' hafter').subset
    refine ⟨after, hafter, hM.grows hofRules (start_subset_stage? hofRules hafter') hsub ?_⟩
    intro r hr i hi hstratum u hinfers
    -- what negations of that rule read, the model and the stage have in common
    refine mem_stage_of_derives hofRules hafter' rfl hr hstratum hi
      (Rule.derives_iff_infers.mpr (hinfers.imp (fun _ _ _ _ hv => hv) ?_))
    intro p hp v hmatch
    refine ⟨fun hv => hstep ?_, fun hv => hsub hv⟩
    exact (hgrows.mem_iff_of_matches hofRules hr hstratum hp hmatch
      (Nat.lt_succ_of_le (Nat.le_of_lt_succ hi))).mp hv

end

variable {functions : FunctionRegistry} {settings : EngineSettings} {found : Evaluation}
  {M : Set Triple}

theorem isStable_of_evaluate (hprepare : prepare rules = .ok prepared)
    (h : (prepared.configure settings functions).evaluate fuel base = some (.ok found)) :
    rules.IsStable functions (base.facts ∪ {t | t ∈ rules.data}) {t | t ∈ found.output.toList} := by
  obtain ⟨rfl, -, -, -, hstrata⟩ := prepared_of_prepare hprepare
  obtain ⟨last, hlast, hout⟩ := evaluate_ok h
  have hfacts : {t | t ∈ found.output.toList} = last.toGraph.facts := Set.ext hout
  rw [hfacts]
  exact isStable_last (e := prepared.configure settings functions) hstrata hlast

/-- Where some store holds a stable model, an evaluation without a limit ends and outputs it. -/
theorem evaluate_of_isStable (hprepare : prepare rules = .ok prepared)
    (hmax : settings.maxRounds = 0)
    (hM : rules.IsStable functions (base.facts ∪ {t | t ∈ rules.data}) M) {held : Store}
    (hheld : M ⊆ {t | t ∈ held.toList}) :
    ∃ n found, (∀ fuel, n ≤ fuel →
        (prepared.configure settings functions).evaluate fuel base = some (.ok found)) ∧
      {t | t ∈ found.output.toList} = M := by
  have hfinite : M.Finite := held.toList.finite_toSet.subset hheld
  have hconcrete : ∀ t ∈ M, t.isConcrete = true := fun t ht => Store.isConcrete_of_mem (hheld ht)
  obtain ⟨rfl, -, hwf, -, hstrata⟩ := prepared_of_prepare hprepare
  obtain ⟨first, k, hfirst⟩ :=
    (Overlay.ofGraph base).exists_extend (Scope.checkRuleSet_ok.mp hwf).2
  obtain ⟨last, hlast, hgrows⟩ := stage?_of_isStable
    (e := prepared.configure settings functions) hstrata hM hconcrete hmax hfinite hfirst
    (Nat.le_refl _)
  have hrun := run_of_stage? (hlast _ (Nat.lt_succ_self _))
  obtain ⟨found, hevaluate, -, hout⟩ := evaluate_of_run hrun
  refine ⟨M.ncard + 1, found, fun fuel hfuel => evaluate_of_le hevaluate hfuel, ?_⟩
  ext t
  refine (hout t).trans ⟨fun ht => hgrows.subset ht, fun ht => ?_⟩
  -- no rule is left that could produce more
  by_contra hnot
  obtain ⟨q, hq, ⟨j, hj, hstratum⟩, -⟩ := hgrows.new t ht hnot
  obtain ⟨i, level, hlevel, hid⟩ := Stratification.exists_level hstrata (List.mem_map_of_mem hq)
  have hi := ((Stratification.mem_level hstrata hlevel).mp hid).2
  obtain rfl := Option.some.inj (hi.symm.trans hstratum)
  exact absurd (List.getElem?_eq_some_iff.mp hlevel).1 (Nat.not_lt.mpr hj)

end Engine

end TripleRules
