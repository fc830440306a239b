import TripleRules.Dependency.Cycle
import TripleRules.Dependency.Stratification
import TripleRules.Engine.Saturation
import TripleRules.Engine.Settings
import TripleRules.Expr.Standard
import TripleRules.Rule.Scope

/-!
# The engine

An engine is prepared once from a rule set, which must be well-formed and free
of recursion through negation, and then evaluates any number of graphs. It runs
the strata in ascending order, each to its fixpoint. The given graph is only
read: what is inferred lies in an overlay on top of it.

`Engine.run` tells the whole course of an evaluation. Statistics and events are
views of it.
-/

namespace TripleRules

inductive Rejection where
  | defect (d : Defect)
  | illegalCycle (c : IllegalCycle)
  | unsettled (e : Unsettled)

def Rejection.diagnostic : Rejection → Diagnostic
  | .defect d => d.diagnostic
  | .illegalCycle c => c.diagnostic
  | .unsettled e => e.diagnostic

/-- A rule set with everything that is known of it before evaluation. -/
structure Engine where
  rules : RuleSet
  dependencies : DependencyGraph
  recursive : List RuleId
  strata : Stratification
  settings : EngineSettings
  functions : FunctionRegistry

inductive Event where
  /-- A triple that was not known before, with the first rule that derived it. -/
  | derived (t : Triple) (rule : RuleId)
  | roundCompleted (stratum round added graphSize : Nat)
  | stratumCompleted (stratum rounds graphSize : Nat)

structure StratumLog where
  stratum : Nat
  rounds : List Round
  settledSize : Option Nat

/-- The course of an evaluation: how many triples of the data were new, and the
strata as far as they were run. -/
structure Run where
  base : Graph
  dataAdded : Nat
  log : List StratumLog
  ending : Ending

structure Statistics where
  strata : Nat
  /-- The rounds of each of them, the last one without new triples included. -/
  rounds : List Nat
  /-- Solutions of bodies, summed over all rounds. -/
  rulesFired : Nat
  triplesDerived : Nat
  dataAdded : Nat
  deriving DecidableEq, Repr

def Statistics.totalRounds (s : Statistics) : Nat := Number.total s.rounds

structure Evaluation where
  inferred : Store
  output : Store
  statistics : Statistics

namespace Engine

def prepare (rules : RuleSet) : Except Rejection Engine := do
  (Scope.checkRuleSet rules).mapError .defect
  let dependencies := DependencyGraph.ofRules rules
  let recursive ← (Recursion.check dependencies rules).mapError .illegalCycle
  let strata ← (Stratification.ofRules rules dependencies).mapError .unsettled
  return ⟨rules, dependencies, recursive, strata, {}, .standard⟩

/-- The rounds of one stratum. An empty stratum takes none. -/
def saturate (e : Engine) (fuel : Nat) (stratum : Nat) (level : List RuleId) (working : Overlay) :
    Saturation :=
  if level.isEmpty then ⟨[], .settled working⟩
  else if e.settings.maxRounds = 0 then
    Saturation.run e.functions e.rules level .unfinished fuel working
  else
    Saturation.run e.functions e.rules level
      (.failed (.roundLimit stratum e.settings.maxRounds)) e.settings.maxRounds working

/-- The strata one after the other, until one of them does not settle. -/
def runStrata (e : Engine) (fuel : Nat) :
    List (List RuleId × Nat) → Overlay → List StratumLog × Ending
  | [], working => ([], .settled working)
  | (level, stratum) :: rest, working =>
    let s := e.saturate fuel stratum level working
    match s.ending with
    | .settled next =>
      let (log, ending) := e.runStrata fuel rest next
      (⟨stratum, s.rounds, some next.toGraph.size⟩ :: log, ending)
    | ending => ([⟨stratum, s.rounds, none⟩], ending)

/-- The course of an evaluation of a graph. Where rounds are not limited, `fuel`
bounds them, and a stratum that needs more leaves the run unfinished. -/
def run (e : Engine) (fuel : Nat) (base : Graph) : Run :=
  match (Overlay.ofGraph base).extend e.rules.data with
  | .error refusal => ⟨base, 0, [], .failed (.notConcrete refusal)⟩
  | .ok (working, dataAdded) =>
    -- strata are counted from zero, the empty ones included
    let (log, ending) := e.runStrata fuel e.strata.levels.zipIdx working
    ⟨base, dataAdded, log, ending⟩

def display (e : Engine) (observers : Nat) : String :=
  "RuleEngine \x7b rules: " ++ toString e.rules.size ++
    ", strata: " ++ toString e.strata.size ++
    ", config: EngineConfig \x7b trace: " ++ toString e.settings.trace ++
    ", max_rounds_per_stratum: " ++ toString e.settings.maxRounds ++
    " \x7d, hooks: " ++ toString observers ++ " \x7d"

end Engine

namespace Run

/-- The events of one stratum: every round tells its triples and then itself. -/
def eventsOfStratum (l : StratumLog) : List Event :=
  -- rounds are counted from one
  (l.rounds.zipIdx 1).flatMap (fun (r, n) =>
    r.fresh.map (fun e => Event.derived e.1 e.2) ++
      [.roundCompleted l.stratum n r.fresh.length r.graphSize]) ++
  match l.settledSize with
  | some size => [.stratumCompleted l.stratum l.rounds.length size]
  | none => []

/-- The events of an evaluation in their order, also of one that fails. -/
def events (r : Run) : List Event := r.log.flatMap eventsOfStratum

def statistics (r : Run) : Statistics where
  strata := r.log.length
  rounds := r.log.map fun l => l.rounds.length
  rulesFired := Number.total ((r.log.flatMap StratumLog.rounds).map Round.fired)
  triplesDerived := Number.total ((r.log.flatMap StratumLog.rounds).map fun r => r.fresh.length)
  dataAdded := r.dataAdded

/-- What the evaluation found, or why it failed; nothing if it is unfinished. -/
def outcome? (r : Run) : Option (Except Failure Evaluation) :=
  match r.ending with
  | .settled working =>
    some (.ok ⟨working.added, (r.base.copy.addAll working.added.toList).1, r.statistics⟩)
  | .failed f => some (.error f)
  | .unfinished => none

end Run

namespace Engine

def evaluate (e : Engine) (fuel : Nat) (base : Graph) : Option (Except Failure Evaluation) :=
  (e.run fuel base).outcome?

def solve (e : Engine) (fuel : Nat) (base : Graph) (q : Slots) :
    Option (Except Failure (List Triple)) :=
  (e.evaluate fuel base).map fun outcome => outcome.map fun found => found.output.find q

end Engine

end TripleRules
