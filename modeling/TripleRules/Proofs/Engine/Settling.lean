import TripleRules.Proofs.Dependency.LeastStrata
import TripleRules.Proofs.Engine.Failure

/-!
# Strata without recursion settle fast

After the first round, what a rule of a stratum derives anew is due to a triple that a rule of
the stratum derived in the round before. Where no rule depends on itself, this goes back
through different rules, so there are no more rounds that find something than there are rules
(`Engine.run_settles_fast`). That does not depend on the graph, nor on whether rules assign.
-/

namespace TripleRules

open Dependency (signedPatternsOfBody)

variable {functions : FunctionRegistry} {s : RuleSet} {level : List RuleId}
  {rank : RuleId → Nat} {o next : Overlay} {k n : Nat}

-- ---------------------------------------------------------------------------
-- Ranks
-- ---------------------------------------------------------------------------

/-- Ranks of the rules of a level, below some number; dependencies within the level lower them. -/
structure RuleSet.Ranks (s : RuleSet) (level : List RuleId) (rank : RuleId → Nat) (n : Nat) :
    Prop where
  lt : ∀ p ∈ level, rank p < n
  falls : ∀ {p q : RuleId} {sign : Sign}, p ∈ level → q ∈ level →
    ⟨p, sign, q⟩ ∈ (DependencyGraph.ofRules s).edges → rank q < rank p

namespace DependencyGraph

noncomputable def rankIn (s : RuleSet) (level : List RuleId) (p : RuleId) : Nat :=
  {q | q ∈ level ∧ Relation.TransGen (ofRules s).Depends p q}.ncard

theorem ranks_of_not_onCycle (h : ∀ p ∈ level, ¬ (ofRules s).OnCycle p) :
    s.Ranks level (rankIn s level) level.length where
  lt p hp := by
    have hsub : {q | q ∈ level ∧ Relation.TransGen (ofRules s).Depends p q} ⊂ {q | q ∈ level} :=
      ⟨fun _ hq => hq.1, fun hsub => h p hp (hsub hp).2⟩
    calc rankIn s level p < {q | q ∈ level}.ncard := Set.ncard_lt_ncard hsub level.finite_toSet
      _ = level.toFinset.card := by rw [← List.coe_toFinset, Set.ncard_coe_finset]
      _ ≤ level.length := level.toFinset_card_le
  falls {p q sign} hp hq he := by
    have hdepends := depends_of_mem_edges he
    refine Set.ncard_lt_ncard ⟨fun x hx => ⟨hx.1, .head hdepends hx.2⟩, fun hsub => h q hq ?_⟩
      (level.finite_toSet.subset fun _ hx => hx.1)
    exact (hsub ⟨hq, .single hdepends⟩).2

theorem ranks_of_independent
    (h : ∀ p ∈ level, ∀ sign q, ⟨p, sign, q⟩ ∉ (ofRules s).edges) :
    s.Ranks level (fun _ => 0) 1 where
  lt _ _ := Nat.one_pos
  falls hp _ he := absurd he (h _ hp _ _)

end DependencyGraph

-- ---------------------------------------------------------------------------
-- Rounds
-- ---------------------------------------------------------------------------

namespace Saturation

variable {r : Rule} {t : Triple} {exhausted : Ending} {rounds : Nat}

/-- A rule that derives more in one graph than in another has a pattern that matches a triple
which is in one of them only. -/
theorem exists_match_of_derives {g g' : Graph} (h : r.Derives functions g' t)
    (hnot : ¬ r.Derives functions g t) :
    ∃ sign p u, (sign, p) ∈ signedPatternsOfBody .positive r.body ∧ p.Matches u ∧
      ¬ (u ∈ g.toList ↔ u ∈ g'.toList) := by
  by_contra hnone
  push Not at hnone
  obtain ⟨b, hsolves, hhead⟩ := Rule.derives_iff.mp h
  refine hnot (Rule.derives_iff.mpr ⟨b, (Body.solves_congr ?_).mpr hsolves, hhead⟩)
  rintro ⟨sign, p⟩ hp u hmatch
  exact hnone sign p u hp hmatch

/-- Only rules of at least that rank derive something that the graph does not have. -/
def NewFrom (functions : FunctionRegistry) (s : RuleSet) (level : List RuleId)
    (rank : RuleId → Nat) (k : Nat) (g : Graph) : Prop :=
  ∀ r ∈ s.rules, r.id ∈ level → ∀ t, r.Derives functions g t → t ∉ g.toList → k ≤ rank r.id

theorem newFrom_zero (g : Graph) : NewFrom functions s level rank 0 g :=
  fun _ _ _ _ _ _ => Nat.zero_le _

/-- A round raises the ranks: something new is due to a rule of the level with a lower rank. -/
theorem NewFrom.advance (h : NewFrom functions s level rank k o.toGraph)
    (hranks : s.Ranks level rank n) (hadvances : Advances functions s level o next) :
    NewFrom functions s level rank (k + 1) next.toGraph := by
  intro r hr hlevel t hderives hnew
  have hnot : ¬ r.Derives functions o.toGraph t := fun hold =>
    hnew ((hadvances.mem t).mpr (.inr ⟨r, hr, hlevel, hold⟩))
  obtain ⟨sign, p, u, hp, hmatch, hu⟩ := exists_match_of_derives hderives hnot
  have hunew : u ∉ o.toGraph.toList := fun hmem =>
    hu (iff_of_true hmem ((hadvances.mem u).mpr (.inl hmem)))
  have hunext : u ∈ next.toGraph.toList := by
    by_contra hmem
    exact hu (iff_of_false hunew hmem)
  -- the triple that made the difference is itself new, so its rule has at least rank `k`
  obtain ⟨q, hq, hqlevel, hqderives⟩ := ((hadvances.mem u).mp hunext).resolve_left hunew
  obtain ⟨b, -, hproduces⟩ := Rule.derives_iff.mp hqderives
  have hedge := DependencyGraph.mem_edges_of_matches hr hq hp hmatch ⟨b, hproduces⟩
  exact Nat.succ_le_of_lt
    (Nat.lt_of_le_of_lt (h q hq hqlevel u hqderives hunew) (hranks.falls hlevel hqlevel hedge))

theorem NewFrom.lt_of_derive {fresh : List (Triple × RuleId)} {m : Nat}
    (h : NewFrom functions s level rank k o.toGraph) (hranks : s.Ranks level rank n)
    (hderive : derive functions s level o.toGraph = .ok (fresh, m)) (hfresh : fresh ≠ []) :
    k < n := by
  obtain ⟨x, hx⟩ := List.exists_mem_of_ne_nil fresh hfresh
  obtain ⟨hnew, r, hr, hlevel, hderives⟩ := (derive_ok hderive x.1).mp (List.mem_map_of_mem hx)
  exact Nat.lt_of_le_of_lt (h r hr hlevel x.1 hderives hnew) (hranks.lt r.id hlevel)

section
variable (hranks : s.Ranks level rank n)
include hranks

theorem length_rounds_of_newFrom (hk : k ≤ n) (h : NewFrom functions s level rank k o.toGraph) :
    (run functions s level exhausted rounds o).rounds.length ≤ n + 1 - k := by
  induction rounds generalizing o k with
  | zero => exact Nat.zero_le _
  | succ rounds ih =>
    rcases run_cases functions s level exhausted rounds o with
      ⟨f, -, hrun⟩ | ⟨m, -, hrun⟩ | ⟨fresh, m, next, j, hderive, hfresh, hextend, hrun⟩
    · rw [hrun]
      exact Nat.zero_le _
    · rw [hrun, List.length_singleton]
      omega
    · have hlt := h.lt_of_derive hranks hderive hfresh
      have hrest := ih hlt (h.advance hranks ⟨fresh, m, j, hderive, hextend⟩)
      rw [hrun, List.length_cons]
      omega

theorem ending_of_newFrom (hids : ∀ id ∈ level, id ∈ s.ids) (hk : k ≤ n)
    (h : NewFrom functions s level rank k o.toGraph) (hrounds : n + 1 - k ≤ rounds) :
    (∃ last, (run functions s level exhausted rounds o).ending = .settled last) ∨
      ∃ x, (run functions s level exhausted rounds o).ending = .failed (.openHead x) := by
  induction rounds generalizing o k with
  | zero => omega
  | succ rounds ih =>
    rcases run_cases functions s level exhausted rounds o with
      ⟨f, hderive, hrun⟩ | ⟨m, -, hrun⟩ | ⟨fresh, m, next, j, hderive, hfresh, hextend, hrun⟩
    · obtain ⟨x, rfl⟩ := derive_error hids hderive
      exact .inr ⟨x, by rw [hrun]⟩
    · exact .inl ⟨o, by rw [hrun]⟩
    · have hlt := h.lt_of_derive hranks hderive hfresh
      rw [hrun]
      exact ih hlt (h.advance hranks ⟨fresh, m, j, hderive, hextend⟩) (by omega)

end

theorem ending_cases (hids : ∀ id ∈ level, id ∈ s.ids) (exhausted : Ending) (rounds : Nat)
    (o : Overlay) :
    (∃ last, (run functions s level exhausted rounds o).ending = .settled last) ∨
      (∃ x, (run functions s level exhausted rounds o).ending = .failed (.openHead x)) ∨
      (run functions s level exhausted rounds o).ending = exhausted := by
  induction rounds generalizing o with
  | zero => exact .inr (.inr rfl)
  | succ rounds ih =>
    rcases run_cases functions s level exhausted rounds o with
      ⟨f, hderive, hrun⟩ | ⟨m, -, hrun⟩ | ⟨fresh, m, next, j, -, -, -, hrun⟩
    · obtain ⟨x, rfl⟩ := derive_error hids hderive
      exact .inr (.inl ⟨x, by rw [hrun]⟩)
    · exact .inl ⟨o, by rw [hrun]⟩
    · rw [hrun]
      exact ih next

end Saturation

-- ---------------------------------------------------------------------------
-- Evaluations
-- ---------------------------------------------------------------------------

namespace Engine

variable {e : Engine} {fuel i j limit : Nat} {xs : List (List RuleId × Nat)}

def roundsAllowed (e : Engine) (fuel : Nat) : Nat :=
  if e.settings.maxRounds = 0 then fuel else e.settings.maxRounds

theorem saturate_eq (hlevel : level ≠ []) (e : Engine) (fuel i : Nat) (o : Overlay) :
    ∃ exhausted, (∀ j limit, exhausted = .failed (.roundLimit j limit) → j = i) ∧
      e.saturate fuel i level o =
        Saturation.run e.functions e.rules level exhausted (e.roundsAllowed fuel) o := by
  have hempty : ¬ level.isEmpty = true := fun h => hlevel (List.isEmpty_iff.mp h)
  simp only [saturate, if_neg hempty, roundsAllowed]
  split
  · exact ⟨.unfinished, fun _ _ => Ending.noConfusion, rfl⟩
  · refine ⟨_, fun j limit h => ?_, rfl⟩
    exact (Failure.roundLimit.inj (Ending.failed.inj h)).1.symm

theorem stratum_of_roundLimit (hids : ∀ id ∈ level, id ∈ e.rules.ids)
    (h : (e.saturate fuel i level o).ending = .failed (.roundLimit j limit)) : j = i := by
  by_cases hlevel : level = []
  · subst hlevel
    cases h
  · obtain ⟨exhausted, hstratum, hrun⟩ := saturate_eq hlevel e fuel i o
    rw [hrun] at h
    rcases Saturation.ending_cases hids exhausted (e.roundsAllowed fuel) o with
      ⟨last, hlast⟩ | ⟨x, hx⟩ | hexhausted
    · cases hlast.symm.trans h
    · cases hx.symm.trans h
    · exact hstratum j limit (hexhausted.symm.trans h)

section
variable (hranks : e.rules.Ranks level rank k) (hk : k < n)
include hranks hk

theorem length_saturate (fuel i : Nat) (o : Overlay) :
    (e.saturate fuel i level o).rounds.length ≤ n := by
  by_cases hlevel : level = []
  · subst hlevel
    exact Nat.zero_le n
  · obtain ⟨exhausted, -, hrun⟩ := saturate_eq hlevel e fuel i o
    rw [hrun]
    exact Nat.le_trans (Saturation.length_rounds_of_newFrom hranks (Nat.zero_le k)
      (Saturation.newFrom_zero o.toGraph)) hk

theorem ending_saturate (hids : ∀ id ∈ level, id ∈ e.rules.ids)
    (hallowed : n ≤ e.roundsAllowed fuel) (i : Nat) (o : Overlay) :
    (∃ last, (e.saturate fuel i level o).ending = .settled last) ∨
      ∃ x, (e.saturate fuel i level o).ending = .failed (.openHead x) := by
  by_cases hlevel : level = []
  · subst hlevel
    exact .inl ⟨o, rfl⟩
  · obtain ⟨exhausted, -, hrun⟩ := saturate_eq hlevel e fuel i o
    rw [hrun]
    exact Saturation.ending_of_newFrom hranks hids (Nat.zero_le k)
      (Saturation.newFrom_zero o.toGraph) (Nat.le_trans hk hallowed)

end

theorem mem_log_runStrata {l : StratumLog} (h : l ∈ (e.runStrata fuel xs o).1) :
    ∃ level start, (level, l.stratum) ∈ xs ∧
      l.rounds = (e.saturate fuel l.stratum level start).rounds ∧
      (l.settledSize.isSome = true ∨
        (∀ last, (e.saturate fuel l.stratum level start).ending ≠ .settled last) ∧
        (e.runStrata fuel xs o).2 = (e.saturate fuel l.stratum level start).ending) := by
  induction xs generalizing o with
  | nil => cases h
  | cons x rest ih =>
    obtain ⟨level, i⟩ := x
    simp only [runStrata] at h ⊢
    split at h
    · rcases List.mem_cons.mp h with rfl | h
      · exact ⟨level, o, List.mem_cons_self, rfl, .inl rfl⟩
      · obtain ⟨level', start, hmem, hrounds, hend⟩ := ih h
        exact ⟨level', start, List.mem_cons_of_mem _ hmem, hrounds, hend⟩
    · next hnot =>
      obtain rfl := List.mem_singleton.mp h
      exact ⟨level, o, List.mem_cons_self, rfl, .inr ⟨hnot, rfl⟩⟩

theorem exists_saturate_of_failed {f : Failure} (h : (e.runStrata fuel xs o).2 = .failed f) :
    ∃ level i start, (level, i) ∈ xs ∧ (e.saturate fuel i level start).ending = .failed f := by
  induction xs generalizing o with
  | nil => cases h
  | cons x rest ih =>
    obtain ⟨level, i⟩ := x
    simp only [runStrata] at h
    split at h
    · obtain ⟨level', j, start, hmem, hfailed⟩ := ih h
      exact ⟨level', j, start, List.mem_cons_of_mem _ hmem, hfailed⟩
    · exact ⟨level, i, o, List.mem_cons_self, h⟩

section
variable (hstrata : Stratification.ofRules e.rules (.ofRules e.rules) = .ok e.strata)
  (hlevel : e.strata.levels[i]? = some level) (hranks : e.rules.Ranks level rank k) (hk : k < n)
include hstrata hlevel hranks hk

theorem log_settles_fast {l : StratumLog}
    (hl : l ∈ (e.runStrata fuel e.strata.levels.zipIdx o).1) (hi : l.stratum = i) :
    l.rounds.length ≤ n ∧ (n ≤ e.roundsAllowed fuel → l.settledSize.isSome = true ∨
      ∃ x, (e.runStrata fuel e.strata.levels.zipIdx o).2 = .failed (.openHead x)) := by
  obtain ⟨other, start, hmem, hrounds, hend⟩ := mem_log_runStrata hl
  rw [hi] at hmem hrounds hend
  obtain rfl : other = level :=
    Option.some.inj ((List.mem_zipIdx_iff_getElem?.mp hmem).symm.trans hlevel)
  refine ⟨hrounds ▸ length_saturate hranks hk fuel i start, fun hallowed => ?_⟩
  rcases hend with hsettled | ⟨hnot, hend⟩
  · exact .inl hsettled
  · have hids : ∀ id ∈ other, id ∈ e.rules.ids := fun _ hid =>
      ((Stratification.mem_level hstrata hlevel).mp hid).1
    rcases ending_saturate hranks hk hids hallowed i start with ⟨last, hlast⟩ | ⟨x, hx⟩
    · exact absurd hlast (hnot last)
    · exact .inr ⟨x, hend.trans hx⟩

theorem ending_ne_roundLimit (hle : n ≤ e.settings.maxRounds) :
    (e.runStrata fuel e.strata.levels.zipIdx o).2 ≠ .failed (.roundLimit i limit) := by
  intro h
  obtain ⟨other, j, start, hmem, hfailed⟩ := exists_saturate_of_failed h
  have hother := List.mem_zipIdx_iff_getElem?.mp hmem
  have hids : ∀ id ∈ other, id ∈ e.rules.ids := fun _ hid =>
    ((Stratification.mem_level hstrata hother).mp hid).1
  obtain rfl := stratum_of_roundLimit hids hfailed
  obtain rfl : other = level := Option.some.inj (hother.symm.trans hlevel)
  have hmax : e.settings.maxRounds ≠ 0 := by omega
  have hallowed : n ≤ e.roundsAllowed fuel := hle.trans_eq (if_neg hmax).symm
  rcases ending_saturate hranks hk hids hallowed i start with ⟨last, hlast⟩ | ⟨x, hx⟩
  · cases hlast.symm.trans hfailed
  · cases hx.symm.trans hfailed

end

variable {rules : RuleSet} {prepared : Engine} {base : Graph}

theorem not_mem_edges_of_lowest (h : Prepared rules prepared)
    (hlevel : prepared.strata.levels[0]? = some level) {p : RuleId} (hp : p ∈ level) :
    ∀ sign q, ⟨p, sign, q⟩ ∉ (DependencyGraph.ofRules rules).edges := by
  obtain ⟨hids, hzero⟩ := (Stratification.mem_level h.strata hlevel).mp hp
  rw [Stratification.stratum?_eq_level h.strata hids, Option.some.injEq] at hzero
  exact ((Stratification.isLeast_level h.strata).1.zero_iff p hids).mp hzero

theorem exists_ranks (h : Prepared rules prepared) (hlevel : prepared.strata.levels[i]? = some level)
    (hplain : ∀ id ∈ level, id ∉ prepared.recursive)
    (hn : level.length + 1 ≤ n ∨ i = 0 ∧ 2 ≤ n) : ∃ rank k, rules.Ranks level rank k ∧ k < n := by
  rcases hn with hn | ⟨rfl, hn⟩
  · refine ⟨_, _, DependencyGraph.ranks_of_not_onCycle fun p hp hcycle => ?_, hn⟩
    have hids := ((Stratification.mem_level h.strata hlevel).mp hp).1
    exact hplain p hp ((Recursion.mem_of_check_ok h.recursive).mpr ⟨hids, hcycle⟩)
  · exact ⟨_, _, DependencyGraph.ranks_of_independent fun _ => not_mem_edges_of_lowest h hlevel, hn⟩

/-- A stratum without recursive rules takes at most one round more than it has rules, whatever
the graph, and the lowest one, which reads nothing that rules produce, at most two. So it
settles where that many rounds are allowed, and it never reaches a limit that allows them. -/
theorem run_settles_fast (hprepare : prepare rules = .ok prepared) (settings : EngineSettings)
    (functions : FunctionRegistry) (hlevel : prepared.strata.levels[i]? = some level)
    (hplain : ∀ id ∈ level, id ∉ prepared.recursive)
    (hn : level.length + 1 ≤ n ∨ i = 0 ∧ 2 ≤ n) (fuel : Nat) (base : Graph) :
    let e := prepared.configure settings functions
    (∀ l ∈ (e.run fuel base).log, l.stratum = i → l.rounds.length ≤ n ∧
      (n ≤ e.roundsAllowed fuel → l.settledSize.isSome = true ∨
        ∃ x, (e.run fuel base).ending = .failed (.openHead x)) ∧
      (n ≤ e.roundsAllowed fuel → functions.KeepsConcrete → l.settledSize.isSome = true)) ∧
    (n ≤ settings.maxRounds →
      e.evaluate fuel base ≠ some (.error (.roundLimit i settings.maxRounds))) ∧
    (i = 0 → ∀ r ∈ rules.rules, r.id ∈ level → ∀ q ∈ signedPatternsOfBody .positive r.body,
      ∀ provider ∈ rules.rules, ∀ t, provider.Produces t → ¬ q.2.Matches t) := by
  intro e
  have hprepared := prepared_of_prepare hprepare
  obtain ⟨rank, k, hranks, hk⟩ := exists_ranks hprepared hlevel hplain hn
  obtain ⟨start, added, -, hrun⟩ := run_of_prepare hprepare settings functions base
  refine ⟨fun l hl hi => ?_, fun hle hlimit => ?_, ?_⟩
  · obtain rfl := hprepared.rules
    rw [hrun fuel] at hl ⊢
    obtain ⟨hlength, hsettles⟩ := log_settles_fast (e := e) hprepared.strata hlevel hranks hk hl hi
    refine ⟨hlength, hsettles, fun hallowed hf => (hsettles hallowed).resolve_right ?_⟩
    rintro ⟨x, hx⟩
    have hregular := run_regular hprepare settings hf fuel base
    rw [hrun fuel] at hregular
    cases hx ▸ hregular
  · obtain rfl := hprepared.rules
    have hfailed := evaluate_eq_error_iff.mp hlimit
    rw [hrun fuel] at hfailed
    exact ending_ne_roundLimit (e := e) hprepared.strata hlevel hranks hk hle hfailed
  · rintro rfl r hr hid ⟨sign, p⟩ hp provider hprovider t hproduces hmatch
    exact not_mem_edges_of_lowest hprepared hlevel hid sign provider.id
      (DependencyGraph.mem_edges_of_matches hr hprovider hp hmatch hproduces)

/-- Guests are welcomed by their names, and greeted by these in capitals. -/
def greetings : RuleSet where
  rules := [
    ⟨⟨0⟩, none, [⟨.ofVariable "x", .ofIri "is", .ofIri "guest"⟩],
      [.pattern ⟨.ofVariable "x", .ofIri "is", .ofIri "invited"⟩]⟩,
    ⟨⟨1⟩, none, [⟨.ofVariable "x", .ofIri "welcome", .ofVariable "n"⟩],
      [.pattern ⟨.ofVariable "x", .ofIri "is", .ofIri "guest"⟩,
        .assignment ⟨"n"⟩ (.call "localname" [.var ⟨"x"⟩])]⟩,
    ⟨⟨2⟩, none, [⟨.ofVariable "x", .ofIri "greeted", .ofVariable "m"⟩],
      [.pattern ⟨.ofVariable "x", .ofIri "welcome", .ofVariable "n"⟩,
        .assignment ⟨"m"⟩ (.call "ucase" [.var ⟨"n"⟩])]⟩]
  data := [⟨.ofIri "bob", .ofIri "is", .ofIri "invited"⟩]
  distinct := by decide

/-- The upper one of two strata has two rules, and three rounds are enough for it. -/
theorem run_settles_fast_greetings : ∃ prepared, prepare greetings = .ok prepared ∧
    prepared.strata.levels[1]? = some [⟨1⟩, ⟨2⟩] ∧ prepared.recursive = [] ∧
    (∀ l ∈ ((prepared.configure { maxRounds := 3 } .standard).run 0 (.ofStore .empty)).log,
      l.stratum = 1 → l.rounds.length ≤ 3 ∧ l.settledSize.isSome = true) ∧
    (prepared.configure { maxRounds := 3 } .standard).evaluate 0 (.ofStore .empty) ≠
      some (.error (.roundLimit 1 3)) := by
  have hok : (prepare greetings).isOk = true := by decide +kernel
  obtain ⟨prepared, hprepare⟩ := Except.isOk_iff.mp hok
  have hprepared := prepared_of_prepare hprepare
  have hcheck : Recursion.check (.ofRules greetings) greetings = .ok [] := by decide +kernel
  have hrecursive : prepared.recursive = [] :=
    Except.ok.inj (hprepared.recursive.symm.trans hcheck)
  have hlevels : (Stratification.ofRules greetings (.ofRules greetings)).toOption.map
      Stratification.levels = some [[⟨0⟩], [⟨1⟩, ⟨2⟩]] := by decide +kernel
  rw [hprepared.strata] at hlevels
  have hlevel : prepared.strata.levels[1]? = some [⟨1⟩, ⟨2⟩] := by
    rw [Option.some.inj hlevels]
    rfl
  obtain ⟨hlog, hlimit, -⟩ := run_settles_fast hprepare { maxRounds := 3 } .standard hlevel
    (by simp [hrecursive]) (.inl (Nat.le_refl 3)) 0 (.ofStore .empty)
  refine ⟨prepared, hprepare, hlevel, hrecursive, fun l hl hi => ?_, hlimit (Nat.le_refl 3)⟩
  obtain ⟨hlength, -, hsettled⟩ := hlog l hl hi
  exact ⟨hlength, hsettled (Nat.le_refl 3) FunctionRegistry.standard_keepsConcrete⟩

end Engine

end TripleRules
