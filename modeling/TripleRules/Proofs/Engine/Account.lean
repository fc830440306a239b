import TripleRules.Proofs.Engine.LeastModel

/-!
# The account that events give

One who knows the graph and its data can replay an evaluation from its events alone.
`Account` is what is known so far, and `Confirms` says of an event that it is true then:
the triple is new and the rule the first one that derives it, and the numbers are those
counted so far. All events of an evaluation that succeeds are true when they happen, and
in the end its result is known (`evaluate_events`).
-/

namespace TripleRules

namespace Event

def triple? : Event → Option Triple
  | .derived t _ => some t
  | .roundCompleted .. => none
  | .stratumCompleted .. => none

def endsRoundOf (i : Nat) : Event → Bool
  | .derived .. => false
  | .roundCompleted stratum .. => stratum = i
  | .stratumCompleted .. => false

end Event

/-- The triples before the current round and those derived in it, the current stratum, and how
many of its rounds are complete. -/
structure Account where
  known : List Triple
  fresh : List Triple
  stratum : Nat
  rounds : Nat

namespace Account

/-- What is known after one more event. Of the numbers it tells nothing is believed. -/
def next (a : Account) : Event → Account
  | .derived t _ => { a with fresh := a.fresh ++ [t] }
  | .roundCompleted .. => ⟨a.known ++ a.fresh, [], a.stratum, a.rounds + 1⟩
  | .stratumCompleted .. => { a with stratum := a.stratum + 1, rounds := 0 }

/-- The event is true of an engine whose strata take that many rounds. -/
def Confirms (e : Engine) (counts : List Nat) (a : Account) : Event → Prop
  | .derived t rule => t ∉ a.known ++ a.fresh ∧
      ∃ level g, e.strata.levels[a.stratum]? = some level ∧ g.toList = a.known ∧
        Saturation.FirstDerives e.functions e.rules level g t rule
  | .roundCompleted stratum round added size => stratum = a.stratum ∧ round = a.rounds + 1 ∧
      added = a.fresh.length ∧ size = (a.known ++ a.fresh).length ∧
      -- the last round of a stratum is the one that adds nothing
      (added = 0 ↔ counts[stratum]? = some round)
  | .stratumCompleted stratum rounds size => stratum = a.stratum ∧ rounds = a.rounds ∧
      counts[stratum]? = some rounds ∧ a.fresh = [] ∧ size = a.known.length ∧
      (rounds = 0 ↔ e.strata.levels[stratum]? = some [])

inductive Leads (e : Engine) (counts : List Nat) : Account → List Event → Account → Prop
  | nil (a : Account) : Leads e counts a [] a
  | cons {a b : Account} {event : Event} {rest : List Event} : a.Confirms e counts event →
      Leads e counts (a.next event) rest b → Leads e counts a (event :: rest) b

variable {e : Engine} {counts : List Nat} {a b c : Account} {events events' : List Event}

theorem Leads.append (h : Leads e counts a events b) (h' : Leads e counts b events' c) :
    Leads e counts a (events ++ events') c := by
  induction h with
  | nil a => exact h'
  | cons hevent _ ih => exact .cons hevent (ih h')

theorem Leads.known (h : Leads e counts a events b) :
    b.known ++ b.fresh = a.known ++ a.fresh ++ events.filterMap Event.triple? := by
  induction h with
  | nil a => simp
  | @cons a b event rest _ _ ih =>
    rw [ih]
    cases event with
    | derived t rule => simp [next, Event.triple?]
    | roundCompleted stratum round added size => simp [next, List.filterMap_cons, Event.triple?]
    | stratumCompleted stratum rounds size => simp [next, List.filterMap_cons, Event.triple?]

end Account

-- ---------------------------------------------------------------------------
-- The events of a round and of a stratum
-- ---------------------------------------------------------------------------

namespace Run

def eventsOfRound (stratum : Nat) (x : Round × Nat) : List Event :=
  x.1.fresh.map (fun e => Event.derived e.1 e.2) ++
    [.roundCompleted stratum x.2 x.1.fresh.length x.1.graphSize]

theorem eventsOfStratum_eq (l : StratumLog) : eventsOfStratum l =
    (l.rounds.zipIdx 1).flatMap (eventsOfRound l.stratum) ++
      l.settledSize.toList.map (.stratumCompleted l.stratum l.rounds.length) := by
  obtain ⟨stratum, rounds, size⟩ := l
  cases size with
  | none => rfl
  | some size => rfl

theorem triples_eventsOfRound (stratum : Nat) (x : Round × Nat) :
    (eventsOfRound stratum x).filterMap Event.triple? = x.1.fresh.map Prod.fst := by
  simp [eventsOfRound, List.filterMap_append, List.filterMap_map, Function.comp_def, Event.triple?]

theorem count_eventsOfRound (stratum : Nat) (x : Round × Nat) (i : Nat) :
    (eventsOfRound stratum x).countP (·.endsRoundOf i) = if stratum = i then 1 else 0 := by
  simp [eventsOfRound, List.countP_map, Function.comp_def, Event.endsRoundOf, List.countP_cons]

theorem triples_eventsOfStratum (l : StratumLog) :
    (eventsOfStratum l).filterMap Event.triple? =
      l.rounds.flatMap fun r => r.fresh.map Prod.fst := by
  rw [eventsOfStratum_eq, List.filterMap_append, List.filterMap_flatMap, List.filterMap_map]
  conv_rhs => rw [← List.zipIdx_map_fst 1 l.rounds, List.flatMap_map]
  simp [triples_eventsOfRound, Function.comp_def, Event.triple?]

theorem count_eventsOfStratum (l : StratumLog) (i : Nat) :
    (eventsOfStratum l).countP (·.endsRoundOf i) =
      if l.stratum = i then l.rounds.length else 0 := by
  rw [eventsOfStratum_eq, List.countP_append, List.countP_flatMap, List.countP_map]
  simp only [Function.comp_def, count_eventsOfRound]
  simp [Event.endsRoundOf]

theorem length_triples (r : Run) :
    (r.events.filterMap Event.triple?).length = r.statistics.triplesDerived := by
  simp only [events, List.filterMap_flatMap, triples_eventsOfStratum, ← List.flatMap_assoc,
    List.length_flatMap, List.length_map]
  rfl

end Run

open Account (Leads)

variable {e : Engine} {counts : List Nat} {i k fuel : Nat} {level : List RuleId}
  {o next last : Overlay}

theorem Saturation.leads_derived {g : Graph} {known before : List Triple}
    {fresh : List (Triple × RuleId)} (hlevel : e.strata.levels[i]? = some level)
    (hg : g.toList = known)
    (hfirst : ∀ x ∈ fresh, FirstDerives e.functions e.rules level g x.1 x.2)
    (hnodup : (known ++ before ++ fresh.map Prod.fst).Nodup) :
    Leads e counts ⟨known, before, i, k⟩ (fresh.map fun x => Event.derived x.1 x.2)
      ⟨known, before ++ fresh.map Prod.fst, i, k⟩ := by
  induction fresh generalizing before with
  | nil =>
    simpa using Leads.nil _
  | cons x rest ih =>
    have hnew : x.1 ∉ known ++ before := fun hx =>
      (List.nodup_append.mp hnodup).2.2 x.1 hx x.1 List.mem_cons_self rfl
    refine .cons ⟨hnew, level, g, hlevel, hg, hfirst x List.mem_cons_self⟩ ?_
    have hrest := @ih (before ++ [x.1]) (fun y hy => hfirst y (List.mem_cons_of_mem _ hy))
      (by simpa using hnodup)
    simpa [Account.next] using hrest

theorem Saturation.leads_round {fresh : List (Triple × RuleId)} {n m : Nat}
    (hlevel : e.strata.levels[i]? = some level)
    (hderive : derive e.functions e.rules level o.toGraph = .ok (fresh, n))
    (hextend : o.extend (fresh.map Prod.fst) = .ok (next, m))
    (hcount : fresh = [] ↔ counts[i]? = some (k + 1)) :
    Leads e counts ⟨o.toGraph.toList, [], i, k⟩
      (Run.eventsOfRound i (⟨fresh, n, next.toGraph.size⟩, k + 1))
      ⟨next.toGraph.toList, [], i, k + 1⟩ := by
  have hnew : ∀ t ∈ fresh.map Prod.fst, t ∉ o.toGraph.toList := fun t ht =>
    ((derive_ok hderive t).mp ht).1
  have hnodup := nodup_derive hderive
  have hnext := Overlay.toList_extend hextend hnodup hnew
  refine Leads.append (leads_derived hlevel rfl
    (fun x hx => firstDerives_of_derive hderive hx) ?_) (.cons ?_ ?_)
  · rw [List.append_nil]
    exact List.nodup_append.mpr ⟨o.toGraph.nodup_toList, hnodup,
      fun t ht u hu heq => hnew u hu (heq ▸ ht)⟩
  · refine ⟨rfl, rfl, ?_, ?_, ?_⟩
    · simp
    · simp [hnext, Graph.size_eq_length]
    · simpa using hcount
  · simpa [Account.next, hnext] using Leads.nil _

theorem Saturation.leads_run {exhausted : Ending} {rounds : Nat}
    (hexhausted : ∀ o, exhausted ≠ .settled o) (hlevel : e.strata.levels[i]? = some level)
    (h : (run e.functions e.rules level exhausted rounds o).ending = .settled last)
    (hcount : counts[i]? =
      some (k + (run e.functions e.rules level exhausted rounds o).rounds.length)) :
    Leads e counts ⟨o.toGraph.toList, [], i, k⟩
      (((run e.functions e.rules level exhausted rounds o).rounds.zipIdx (k + 1)).flatMap
        (Run.eventsOfRound i))
      ⟨last.toGraph.toList, [], i,
        k + (run e.functions e.rules level exhausted rounds o).rounds.length⟩ := by
  induction rounds generalizing o k with
  | zero => exact absurd h (hexhausted last)
  | succ rounds ih =>
    rcases run_cases e.functions e.rules level exhausted rounds o with
      ⟨f, -, hrun⟩ | ⟨n, hderive, hrun⟩ | ⟨fresh, n, mid, m, hderive, hfresh, hextend, hrun⟩
    · rw [hrun] at h
      cases h
    · -- the only round that adds nothing, and the last one
      rw [hrun] at h hcount ⊢
      obtain rfl := Ending.settled.inj h
      have hround := leads_round (k := k) (m := 0) hlevel hderive rfl (iff_of_true rfl hcount)
      simpa using hround
    · -- others follow, so the number of this round is not the count of the stratum
      rw [hrun] at h hcount ⊢
      have hlength := List.length_pos_iff.mpr (run_ceases hexhausted h).1
      rw [List.length_cons, ← Nat.add_assoc, Nat.add_right_comm] at hcount ⊢
      have hmore : counts[i]? ≠ some (k + 1) := by
        rw [hcount]
        simpa using Nat.ne_of_gt hlength
      rw [List.zipIdx_cons, List.flatMap_cons]
      exact (leads_round hlevel hderive hextend (iff_of_false hfresh hmore)).append (ih h hcount)

namespace Engine

theorem leads_saturate (hlevel : e.strata.levels[i]? = some level)
    (h : (e.saturate fuel i level o).ending = .settled last)
    (hcount : counts[i]? = some (e.saturate fuel i level o).rounds.length) :
    Leads e counts ⟨o.toGraph.toList, [], i, 0⟩
      (Run.eventsOfStratum ⟨i, (e.saturate fuel i level o).rounds, some last.toGraph.size⟩)
      ⟨last.toGraph.toList, [], i + 1, 0⟩ := by
  have hempty : (e.saturate fuel i level o).rounds.length = 0 ↔
      e.strata.levels[i]? = some [] := by
    rw [List.length_eq_zero_iff, (saturate_ceases h).2, hlevel, Option.some.injEq]
  rw [Run.eventsOfStratum_eq]
  refine Leads.append (b := ⟨last.toGraph.toList, [], i,
    (e.saturate fuel i level o).rounds.length⟩) ?_ (.cons ⟨rfl, rfl, hcount, rfl,
      last.toGraph.size_eq_length, hempty⟩ (.nil _))
  rcases saturate_cases e fuel i level o with ⟨-, hnone⟩ | ⟨-, exhausted, n, hexhausted, hrun⟩
  · rw [hnone] at h ⊢
    obtain rfl := Ending.settled.inj h
    exact .nil _
  · rw [hrun] at h hcount ⊢
    simpa using Saturation.leads_run (k := 0) hexhausted hlevel h (by simpa using hcount)

theorem leads_runStrata {levels : List (List RuleId)}
    (hlevels : ∀ j level, levels[j]? = some level → e.strata.levels[i + j]? = some level)
    (h : (e.runStrata fuel (levels.zipIdx i) o).2 = .settled last)
    (hcounts : ∀ j l, (e.runStrata fuel (levels.zipIdx i) o).1[j]? = some l →
      counts[i + j]? = some l.rounds.length) :
    Leads e counts ⟨o.toGraph.toList, [], i, 0⟩
      ((e.runStrata fuel (levels.zipIdx i) o).1.flatMap Run.eventsOfStratum)
      ⟨last.toGraph.toList, [], i + levels.length, 0⟩ := by
  -- the strata still to come are numbered from `i` on
  induction levels generalizing i o with
  | nil =>
    obtain rfl := Ending.settled.inj h
    exact .nil _
  | cons level rest ih =>
    rw [List.zipIdx_cons] at h hcounts ⊢
    obtain ⟨mid, hmid, hrest⟩ := runStrata_cons_settled.mp h
    simp only [runStrata, hmid] at hcounts ⊢
    rw [List.flatMap_cons, List.length_cons, Nat.add_comm rest.length, ← Nat.add_assoc]
    refine (leads_saturate (hlevels 0 level rfl) hmid (hcounts 0 _ rfl)).append (ih ?_ hrest ?_)
    · intro j level' hj
      rw [Nat.add_assoc, Nat.add_comm 1]
      exact hlevels (j + 1) level' hj
    · intro j l hj
      rw [Nat.add_assoc, Nat.add_comm 1]
      exact hcounts (j + 1) l hj

theorem count_runStrata {levels : List (List RuleId)}
    (h : (e.runStrata fuel (levels.zipIdx i) o).2 = .settled last) (j : Nat) :
    ((e.runStrata fuel (levels.zipIdx i) o).1.flatMap Run.eventsOfStratum).countP
        (·.endsRoundOf j) =
      if j < i then 0
      else
        ((e.runStrata fuel (levels.zipIdx i) o).1.map fun l => l.rounds.length)[j - i]?.getD 0 := by
  induction levels generalizing i o with
  | nil => simp [runStrata]
  | cons level rest ih =>
    rw [List.zipIdx_cons] at h ⊢
    obtain ⟨mid, hmid, hrest⟩ := runStrata_cons_settled.mp h
    simp only [runStrata, hmid, List.flatMap_cons, List.countP_append, Run.count_eventsOfStratum,
      ih hrest, List.map_cons]
    rcases Nat.lt_trichotomy j i with hj | rfl | hj
    · rw [if_neg (Nat.ne_of_gt hj), if_pos (Nat.lt_succ_of_lt hj), if_pos hj]
    · simp
    · obtain ⟨k, rfl⟩ := Nat.exists_eq_add_of_lt hj
      have hi : i ≠ i + k + 1 := by omega
      have hk : i + k + 1 - (i + 1) = k := by omega
      have hk' : i + k + 1 - i = k + 1 := by omega
      rw [if_neg hi, if_neg (by omega), if_neg (by omega), hk, hk', List.getElem?_cons_succ,
        Nat.zero_add]

theorem leads_levels (h : (e.runStrata fuel e.strata.levels.zipIdx o).2 = .settled last) :
    Leads e ((e.runStrata fuel e.strata.levels.zipIdx o).1.map fun l => l.rounds.length)
      ⟨o.toGraph.toList, [], 0, 0⟩
      ((e.runStrata fuel e.strata.levels.zipIdx o).1.flatMap Run.eventsOfStratum)
      ⟨last.toGraph.toList, [], e.strata.levels.length, 0⟩ := by
  rw [← Nat.zero_add e.strata.levels.length]
  refine leads_runStrata (fun j level hj => ?_) h fun j l hl => ?_
  · rwa [Nat.zero_add]
  · rw [Nat.zero_add, List.getElem?_map, hl]
    rfl

variable {base : Graph} {found : Evaluation}

/-- What was inferred are the data that were new and the triples of the events, in their order,
and the output is the graph with these. Every round is told, and every event is true. -/
theorem evaluate_events (h : e.evaluate fuel base = some (.ok found)) :
    let events := (e.run fuel base).events
    let data := (e.rules.data.filter fun t => t ∉ base.toList).eraseDups
    found.inferred.toList = data ++ events.filterMap Event.triple? ∧
    data.length = found.statistics.dataAdded ∧
    (events.filterMap Event.triple?).length = found.statistics.triplesDerived ∧
    found.output.toList = base.toList ++ found.inferred.toList ∧ found.output.toList.Nodup ∧
    found.statistics.rounds.length = e.strata.levels.length ∧
    (∀ i, events.countP (·.endsRoundOf i) = found.statistics.rounds[i]?.getD 0) ∧
    Leads e found.statistics.rounds ⟨base.toList ++ data, [], 0, 0⟩ events
      ⟨found.output.toList, [], e.strata.levels.length, 0⟩ := by
  intro events data
  obtain ⟨last, hlast, rfl⟩ := evaluate_eq_ok_iff.mp h
  obtain ⟨start, added, hstart, hstrata⟩ := stage?_eq_some.mp (stage?_of_run hlast)
  rw [List.take_of_length_le (by simp)] at hstrata
  have hrun := run_of_extend e fuel hstart
  obtain ⟨hknown, hcount⟩ := Overlay.toList_extend_ofGraph hstart
  have hbase : last.base = base := base_of_stage? (stage?_of_run hlast)
  have houtput : (base.copy.addAll last.added.toList).1.toList = last.toGraph.toList :=
    hbase ▸ last.toList_copy_addAll
  have hevents : events =
      (e.runStrata fuel e.strata.levels.zipIdx start).1.flatMap Run.eventsOfStratum :=
    congrArg Run.events hrun
  have hrounds : (e.run fuel base).statistics.rounds =
      (e.runStrata fuel e.strata.levels.zipIdx start).1.map fun l => l.rounds.length :=
    congrArg (fun r => r.statistics.rounds) hrun
  have hleads := leads_levels hstrata
  rw [hknown, ← hevents, ← hrounds, ← houtput] at hleads
  have hinferred : last.added.toList = data ++ events.filterMap Event.triple? := by
    have hderived := hleads.known
    rw [List.append_nil, List.append_nil, houtput, Overlay.toList_toGraph, hbase,
      List.append_assoc, List.append_cancel_left_eq] at hderived
    exact hderived
  refine ⟨hinferred, ?_, Run.length_triples _, ?_, Store.nodup_toList _, ?_, fun i => ?_, hleads⟩
  · rw [hrun]
    exact hcount.symm
  · rw [houtput, Overlay.toList_toGraph, hbase]
  · rw [hrounds, List.length_map, length_runStrata hstrata, List.length_zipIdx]
  · rw [hevents, hrounds]
    simpa using count_runStrata (i := 0) hstrata i

theorem evaluate_events_childless : ∃ prepared found, prepare childless = .ok prepared ∧
    (prepared.configure {} .standard).evaluate 2 (.ofStore .empty) = some (.ok found) ∧
    Leads (prepared.configure {} .standard) found.statistics.rounds ⟨childless.data, [], 0, 0⟩
      ((prepared.configure {} .standard).run 2 (.ofStore .empty)).events
      ⟨found.output.toList, [], prepared.strata.levels.length, 0⟩ := by
  obtain ⟨prepared, found, hprepare, hevaluate⟩ := childless_evaluates
  obtain ⟨-, -, -, -, -, -, -, hleads⟩ := evaluate_events hevaluate
  have hrules : (prepared.configure {} .standard).rules = childless :=
    (prepared_of_prepare hprepare).rules
  have hdata : (childless.data.filter fun t => t ∉ (Graph.ofStore .empty).toList).eraseDups =
      childless.data := by decide
  rw [hrules, hdata] at hleads
  exact ⟨prepared, found, hprepare, hevaluate, hleads⟩

end Engine

end TripleRules
