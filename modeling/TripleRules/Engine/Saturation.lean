import TripleRules.Engine.Body
import TripleRules.Rule.RuleSet

/-!
# Saturation of a stratum

In a round every rule of a stratum is evaluated on the same graph; what it
derives is added only afterwards. Rounds follow one another until one derives
nothing new. The rounds are kept, so that everything else that is told about an
evaluation can be read off them.
-/

namespace TripleRules

inductive Failure where
  | openHead (e : OpenHead)
  /-- A stratum that would not settle within its limit. -/
  | roundLimit (stratum limit : Nat)
  | unknownRule (id : RuleId)
  | notConcrete (e : NotConcrete)

/-- One round: the new triples, each with the first rule that derived it, the
number of solutions found, and the size of the graph afterwards. -/
structure Round where
  fresh : List (Triple × RuleId)
  fired : Nat
  graphSize : Nat

inductive Ending where
  | settled (working : Overlay)
  | failed (f : Failure)
  /-- The rounds that were allowed did not decide. -/
  | unfinished

structure Saturation where
  rounds : List Round
  ending : Ending

namespace Saturation

/-- New triples with those of one solution added, as far as neither the graph nor an
earlier solution has them. -/
def collect (g : Graph) (id : RuleId) (fresh : List (Triple × RuleId)) (derived : List Triple) :
    List (Triple × RuleId) :=
  derived.foldl (fun fresh t =>
    if g.contains t || fresh.any (·.1 = t) then fresh else fresh ++ [(t, id)]) fresh

def fire (functions : FunctionRegistry) (s : RuleSet) (g : Graph)
    (state : List (Triple × RuleId) × Nat) (id : RuleId) :
    Except Failure (List (Triple × RuleId) × Nat) :=
  match s.get? id with
  | none => .error (.unknownRule id)
  | some r => do
    let solutions := r.solutions functions g
    let fresh ← solutions.foldlM (fun fresh b => do
      return collect g id fresh (← (r.instantiate b).mapError .openHead)) state.1
    return (fresh, state.2 + solutions.length)

def derive (functions : FunctionRegistry) (s : RuleSet) (level : List RuleId) (g : Graph) :
    Except Failure (List (Triple × RuleId) × Nat) :=
  level.foldlM (fire functions s g) ([], 0)

/-- Rounds until nothing new is derived, at most that many; `exhausted` is the ending
if these were not enough. -/
def run (functions : FunctionRegistry) (s : RuleSet) (level : List RuleId) (exhausted : Ending) :
    Nat → Overlay → Saturation
  | 0, _ => ⟨[], exhausted⟩
  | rounds + 1, working =>
    match derive functions s level working.toGraph with
    | .error f => ⟨[], .failed f⟩
    | .ok (fresh, fired) => match working.extend (fresh.map Prod.fst) with
      | .error e => ⟨[], .failed (.notConcrete e)⟩
      | .ok (next, _) =>
        let round : Round := ⟨fresh, fired, next.toGraph.size⟩
        -- the round that finds nothing new counts as a round
        if fresh.isEmpty then ⟨[round], .settled next⟩
        else
          let rest := run functions s level exhausted rounds next
          ⟨round :: rest.rounds, rest.ending⟩

end Saturation

def Failure.diagnostic : Failure → Diagnostic
  | .openHead e => e.diagnostic
  | .roundLimit stratum limit =>
    (Diagnostic.new .roundLimitExceeded
      ("stratum " ++ toString stratum ++ " still deriving after " ++ toString limit ++
        " rounds")).withHint
      "Raise engine.max_rounds_per_stratum, or set it to 0 for no limit"
  | .unknownRule id =>
    .new .internalError ("stratum refers to unknown rule " ++ id.display)
  | .notConcrete e => .new .internalError e.message

end TripleRules
