import TripleRules.Engine.Basic
import TripleRules.Proofs.Engine.Stratum

/-!
# The strata one after the other

`Engine.stage?` is the graph after so many strata. An evaluation that succeeds
went through all of them, and each took its graph from the one before to a
graph in which its rules find nothing new.
-/

namespace TripleRules

namespace Engine

variable {e : Engine} {fuel : Nat} {base : Graph} {o start before after last : Overlay}
  {level : List RuleId} {i n m : Nat}

/-- The graph after the first `n` strata, if they settle. -/
def stage? (e : Engine) (fuel : Nat) (base : Graph) (n : Nat) : Option Overlay :=
  match (Overlay.ofGraph base).extend e.rules.data with
  | .error _ => none
  | .ok (start, _) => match (e.runStrata fuel (e.strata.levels.zipIdx.take n) start).2 with
    | .settled o => some o
    | _ => none

theorem stage?_eq_some : e.stage? fuel base n = some o ↔
    ∃ start k, (Overlay.ofGraph base).extend e.rules.data = .ok (start, k) ∧
      (e.runStrata fuel (e.strata.levels.zipIdx.take n) start).2 = .settled o := by
  simp only [stage?]
  split
  · next h => simp [h]
  · next start k h =>
    simp only [h, Except.ok.injEq, Prod.mk.injEq]
    split
    · next o' hrun =>
      constructor
      · rintro ⟨⟩
        exact ⟨start, k, ⟨rfl, rfl⟩, hrun⟩
      · rintro ⟨_, _, ⟨rfl, rfl⟩, h⟩
        rw [Ending.settled.inj (hrun.symm.trans h)]
    · next hrun =>
      constructor
      · rintro ⟨⟩
      · rintro ⟨_, _, ⟨rfl, rfl⟩, h⟩
        exact (hrun o h).elim

-- ---------------------------------------------------------------------------
-- One stratum
-- ---------------------------------------------------------------------------

open Saturation (Advances derive)

theorem saturate_cases (e : Engine) (fuel i : Nat) (level : List RuleId) (o : Overlay) :
    (level = [] ∧ e.saturate fuel i level o = ⟨[], .settled o⟩) ∨
    (level ≠ [] ∧ ∃ exhausted n, (∀ last, exhausted ≠ .settled last) ∧
      e.saturate fuel i level o = Saturation.run e.functions e.rules level exhausted n o) := by
  simp only [saturate, List.isEmpty_iff]
  split
  · next hempty => exact .inl ⟨hempty, rfl⟩
  · next hlevel =>
    split
    · exact .inr ⟨hlevel, _, _, fun _ => Ending.noConfusion, rfl⟩
    · exact .inr ⟨hlevel, _, _, fun _ => Ending.noConfusion, rfl⟩

theorem saturate_settled (h : (e.saturate fuel i level before).ending = .settled after) :
    Relation.ReflTransGen (Advances e.functions e.rules level) before after ∧
      ∃ n, derive e.functions e.rules level after.toGraph = .ok ([], n) := by
  rcases saturate_cases e fuel i level before with
    ⟨rfl, hnone⟩ | ⟨-, exhausted, n, hexhausted, hrun⟩
  · rw [hnone] at h
    obtain rfl := Ending.settled.inj h
    exact ⟨.refl, 0, rfl⟩
  · rw [hrun] at h
    exact Saturation.run_settled hexhausted h

theorem saturate_ceases (h : (e.saturate fuel i level before).ending = .settled after) :
    Saturation.Ceases (e.saturate fuel i level before).rounds ∧
      ((e.saturate fuel i level before).rounds = [] ↔ level = []) := by
  rcases saturate_cases e fuel i level before with
    ⟨hempty, hnone⟩ | ⟨hlevel, exhausted, n, hexhausted, hrun⟩
  · rw [hnone]
    exact ⟨fun n r hr => (nomatch hr), iff_of_true rfl hempty⟩
  · rw [hrun] at h ⊢
    obtain ⟨hne, hceases⟩ := Saturation.run_ceases hexhausted h
    exact ⟨hceases, iff_of_false hne hlevel⟩

theorem saturate_of_derive_nil (hfuel : 0 < fuel)
    (h : derive e.functions e.rules level o.toGraph = .ok ([], n)) :
    (e.saturate fuel i level o).ending = .settled o ∧
      (e.saturate fuel i level o).rounds.length = if level.isEmpty then 0 else 1 := by
  obtain ⟨k, rfl⟩ := Nat.exists_eq_succ_of_ne_zero (Nat.ne_of_gt hfuel)
  simp only [saturate]
  split
  · exact ⟨rfl, rfl⟩
  · split
    · rw [Saturation.run_of_derive_nil h]
      exact ⟨rfl, rfl⟩
    · next hmax =>
      obtain ⟨k, hk⟩ := Nat.exists_eq_succ_of_ne_zero hmax
      rw [hk, Nat.succ_eq_add_one, Saturation.run_of_derive_nil h]
      exact ⟨rfl, rfl⟩

-- ---------------------------------------------------------------------------
-- Several strata
-- ---------------------------------------------------------------------------

variable {xs ys : List (List RuleId × Nat)}

theorem runStrata_cons_settled : (e.runStrata fuel ((level, i) :: xs) start).2 = .settled last ↔
    ∃ mid, (e.saturate fuel i level start).ending = .settled mid ∧
      (e.runStrata fuel xs mid).2 = .settled last := by
  simp only [runStrata]
  split
  · next mid h => simp [h]
  · next h =>
    constructor
    · intro heq
      exact (h last heq).elim
    · rintro ⟨mid, heq, -⟩
      exact (h mid heq).elim

theorem runStrata_ceases (h : (e.runStrata fuel xs start).2 = .settled last) :
    ∀ l ∈ (e.runStrata fuel xs start).1, Saturation.Ceases l.rounds := by
  induction xs generalizing start with
  | nil => exact fun l hl => (nomatch hl)
  | cons x rest ih =>
    obtain ⟨level, i⟩ := x
    obtain ⟨mid, hmid, hrest⟩ := runStrata_cons_settled.mp h
    simp only [runStrata, hmid]
    rintro l (_ | ⟨_, hl⟩)
    · exact (saturate_ceases hmid).1
    · exact ih hrest l hl

theorem length_runStrata (h : (e.runStrata fuel xs start).2 = .settled last) :
    (e.runStrata fuel xs start).1.length = xs.length := by
  induction xs generalizing start with
  | nil => rfl
  | cons x rest ih =>
    obtain ⟨level, i⟩ := x
    obtain ⟨mid, hmid, hrest⟩ := runStrata_cons_settled.mp h
    simp only [runStrata, hmid, List.length_cons, ih hrest]

theorem runStrata_append_settled : (e.runStrata fuel (xs ++ ys) start).2 = .settled last ↔
    ∃ mid, (e.runStrata fuel xs start).2 = .settled mid ∧
      (e.runStrata fuel ys mid).2 = .settled last := by
  induction xs generalizing start with
  | nil => simp [runStrata]
  | cons x rest ih =>
    obtain ⟨level, i⟩ := x
    simp only [List.cons_append, runStrata_cons_settled, ih]
    constructor
    · rintro ⟨mid, hmid, mid', hmid', hlast⟩
      exact ⟨mid', ⟨mid, hmid, hmid'⟩, hlast⟩
    · rintro ⟨mid', ⟨mid, hmid, hmid'⟩, hlast⟩
      exact ⟨mid, hmid, mid', hmid', hlast⟩

theorem stage?_succ (hlevel : e.strata.levels[i]? = some level) :
    e.stage? fuel base (i + 1) = some after ↔ ∃ before, e.stage? fuel base i = some before ∧
      (e.saturate fuel i level before).ending = .settled after := by
  have htake : e.strata.levels.zipIdx.take (i + 1) =
      e.strata.levels.zipIdx.take i ++ [(level, i)] := by
    rw [List.take_add_one, List.getElem?_zipIdx, hlevel]
    simp
  simp only [stage?_eq_some, htake, runStrata_append_settled, runStrata_cons_settled]
  constructor
  · rintro ⟨start, k, hstart, before, hbefore, mid, hmid, hafter⟩
    obtain rfl := Ending.settled.inj hafter
    exact ⟨before, ⟨start, k, hstart, hbefore⟩, hmid⟩
  · rintro ⟨before, ⟨start, k, hstart, hbefore⟩, hafter⟩
    exact ⟨start, k, hstart, before, hbefore, after, hafter, rfl⟩

theorem exists_stage? (h : e.stage? fuel base m = some after) (hn : n ≤ m) :
    ∃ o, e.stage? fuel base n = some o := by
  obtain ⟨start, k, hstart, hrun⟩ := stage?_eq_some.mp h
  rw [← List.take_append_drop n (e.strata.levels.zipIdx.take m), List.take_take,
    Nat.min_eq_left hn] at hrun
  obtain ⟨mid, hmid, -⟩ := runStrata_append_settled.mp hrun
  exact ⟨mid, stage?_eq_some.mpr ⟨start, k, hstart, hmid⟩⟩

theorem grows_of_stage?
    (hofRules : Stratification.ofRules e.rules (.ofRules e.rules) = .ok e.strata)
    (hn : n ≤ m) (hbefore : e.stage? fuel base n = some before)
    (hafter : e.stage? fuel base m = some after) :
    Stratification.Grows e.rules e.strata n before.toGraph.facts after.toGraph.facts := by
  induction m, hn using Nat.le_induction generalizing after with
  | base =>
    obtain rfl := Option.some.inj (hbefore.symm.trans hafter)
    exact .refl _
  | succ m hn ih =>
    cases hlevel : e.strata.levels[m]? with
    | none =>
      have hlen := List.getElem?_eq_none_iff.mp hlevel
      have htake : e.stage? fuel base (m + 1) = e.stage? fuel base m := by
        simp only [stage?]
        rw [List.take_of_length_le (by simp; omega), List.take_of_length_le (by simpa using hlen)]
      exact ih (htake ▸ hafter)
    | some level =>
      obtain ⟨mid, hmid, hsettled⟩ := (stage?_succ hlevel).mp hafter
      have hlast := Saturation.grows_of_advances
        (fun id hid => ((Stratification.mem_level hofRules hlevel).mp hid).2)
        (saturate_settled hsettled).1
      exact (ih hmid).trans hlast hn

theorem base_of_stage? (h : e.stage? fuel base n = some o) : o.base = base := by
  obtain ⟨start, k, hstart, hrun⟩ := stage?_eq_some.mp h
  have hbase : start.base = base := (Overlay.mem_extend hstart).1
  generalize e.strata.levels.zipIdx.take n = xs at hrun
  clear h hstart
  induction xs generalizing start with
  | nil =>
    obtain rfl := Ending.settled.inj hrun
    exact hbase
  | cons x rest ih =>
    obtain ⟨level, i⟩ := x
    obtain ⟨mid, hmid, hrest⟩ := runStrata_cons_settled.mp hrun
    exact ih mid ((Saturation.base_of_advances (saturate_settled hmid).1).trans hbase) hrest

theorem mem_stage?_zero (h : e.stage? fuel base 0 = some o) (t : Triple) :
    t ∈ o.toGraph.toList ↔ t ∈ base.toList ∨ t ∈ e.rules.data := by
  obtain ⟨start, k, hstart, hrun⟩ := stage?_eq_some.mp h
  obtain rfl := Ending.settled.inj hrun
  rw [(Overlay.mem_extend hstart).2 t, Overlay.toList_ofGraph]

theorem start_subset_stage?
    (hofRules : Stratification.ofRules e.rules (.ofRules e.rules) = .ok e.strata)
    (h : e.stage? fuel base n = some o) :
    base.facts ∪ {t | t ∈ e.rules.data} ⊆ o.toGraph.facts := by
  obtain ⟨first, hfirst⟩ := exists_stage? h (Nat.zero_le n)
  intro t ht
  have hgrows := grows_of_stage? hofRules (Nat.zero_le n) hfirst h
  exact hgrows.subset ((mem_stage?_zero hfirst t).mpr ht)

-- ---------------------------------------------------------------------------
-- Evaluation
-- ---------------------------------------------------------------------------

variable {found : Evaluation}

theorem run_of_extend (e : Engine) (fuel : Nat)
    (h : (Overlay.ofGraph base).extend e.rules.data = .ok (start, n)) :
    e.run fuel base = ⟨base, n, (e.runStrata fuel e.strata.levels.zipIdx start).1,
      (e.runStrata fuel e.strata.levels.zipIdx start).2⟩ := by
  simp only [run, h]

theorem base_run (e : Engine) (fuel : Nat) (base : Graph) : (e.run fuel base).base = base := by
  simp only [run]
  split
  · rfl
  · rfl

theorem evaluate_eq_ok_iff : e.evaluate fuel base = some (.ok found) ↔
    ∃ last, (e.run fuel base).ending = .settled last ∧
      found = ⟨last.added, (base.copy.addAll last.added.toList).1,
        (e.run fuel base).statistics⟩ := by
  simp only [evaluate, Run.outcome?, base_run]
  cases (e.run fuel base).ending with
  | settled working =>
    simp only [Option.some.injEq, Except.ok.injEq, Ending.settled.injEq, exists_eq_left']
    exact eq_comm
  | failed f => simp
  | unfinished => simp

theorem evaluate_eq_error_iff {f : Failure} :
    e.evaluate fuel base = some (.error f) ↔ (e.run fuel base).ending = .failed f := by
  simp only [evaluate, Run.outcome?]
  cases (e.run fuel base).ending with
  | settled working => simp
  | failed f => simp
  | unfinished => simp

theorem mem_output (h : e.evaluate fuel base = some (.ok found)) (t : Triple) :
    t ∈ found.output.toList ↔ t ∈ base.toList ∨ t ∈ found.inferred.toList := by
  obtain ⟨last, -, rfl⟩ := evaluate_eq_ok_iff.mp h
  rw [Store.mem_addAll fun u hu => Store.isConcrete_of_mem hu, Graph.toList_copy]

theorem stage?_of_run (h : (e.run fuel base).ending = .settled last) :
    e.stage? fuel base e.strata.levels.length = some last := by
  simp only [run] at h
  split at h
  · cases h
  · next start k hstart =>
    refine stage?_eq_some.mpr ⟨start, k, hstart, ?_⟩
    rwa [List.take_of_length_le (by simp)]

theorem run_of_stage? (h : e.stage? fuel base e.strata.levels.length = some last) :
    (e.run fuel base).ending = .settled last := by
  obtain ⟨start, k, hstart, hrun⟩ := stage?_eq_some.mp h
  rw [List.take_of_length_le (by simp)] at hrun
  rw [run_of_extend e fuel hstart, hrun]

theorem evaluate_of_run (h : (e.run fuel base).ending = .settled last) :
    ∃ found, e.evaluate fuel base = some (.ok found) ∧
      found.statistics = (e.run fuel base).statistics ∧
        ∀ t, t ∈ found.output.toList ↔ t ∈ last.toGraph.toList := by
  have hevaluate := evaluate_eq_ok_iff.mpr ⟨last, h, rfl⟩
  refine ⟨_, hevaluate, rfl, fun t => ?_⟩
  rw [mem_output hevaluate t, Overlay.toList_toGraph, base_of_stage? (stage?_of_run h),
    List.mem_append]

theorem evaluate_ok (h : e.evaluate fuel base = some (.ok found)) :
    ∃ last, e.stage? fuel base e.strata.levels.length = some last ∧
      ∀ t, t ∈ found.output.toList ↔ t ∈ last.toGraph.toList := by
  obtain ⟨last, hending, -⟩ := evaluate_eq_ok_iff.mp h
  obtain ⟨found', hevaluate, -, houtput⟩ := evaluate_of_run hending
  obtain rfl := Except.ok.inj (Option.some.inj (hevaluate.symm.trans h))
  exact ⟨last, stage?_of_run hending, houtput⟩

end Engine

end TripleRules
