import TripleRules.Dependency.Basic
import TripleRules.Diagnostic.Basic

/-!
# Strata

Every rule gets a number that is not below that of a rule it depends on, and
above it where the dependency is negative. Rules without dependencies have the
number zero and all others at least one. Numbers start there and are raised,
edge by edge, until every edge is satisfied.
-/

namespace TripleRules

abbrev Levels := List (RuleId × Nat)

namespace Levels

def level (l : Levels) (id : RuleId) : Nat := (l.lookup id).getD 0

def set (id : RuleId) (n : Nat) : Levels → Levels
  | [] => [(id, n)]
  | e :: rest => if e.1 = id then (id, n) :: rest else e :: set id n rest

def required (l : Levels) (e : Edge) : Nat :=
  match e.sign with
  | .positive => l.level e.provider
  | .negative => l.level e.provider + 1

/-- Raise the rule of an edge to what the edge requires, and note that something changed. -/
def relax (state : Levels × Bool) (e : Edge) : Levels × Bool :=
  let (l, changed) := state
  let needed := l.required e
  if l.level e.rule < needed then (l.set e.rule needed, true)
  -- a rule without a number has one from here on
  else (l.set e.rule (l.level e.rule), changed)

def sweep (edges : List Edge) (l : Levels) : Levels × Bool := edges.foldl relax (l, false)

/-- Sweep until nothing changes, at most that many times. -/
def settle (edges : List Edge) : Nat → Levels → Option Levels
  | 0, _ => none
  | sweeps + 1, l =>
    let (l, changed) := sweep edges l
    if changed then settle edges sweeps l else some l

end Levels

structure Unsettled where
  bound : Nat
  deriving DecidableEq, Repr

/-- The rules of every stratum, in the order of their declaration, and the numbers of the rules. -/
structure Stratification where
  levels : List (List RuleId)
  strata : Levels

namespace Stratification

def initial (s : RuleSet) (g : DependencyGraph) : Levels :=
  s.ids.map fun id => (id, if g.isIndependent id then 0 else 1)

def ofLevels (s : RuleSet) (l : Levels) : Stratification where
  levels :=
    if s.rules.isEmpty then []
    else (List.range ((l.map Prod.snd).foldl max 0 + 1)).map fun i =>
      s.ids.filter fun id => l.lookup id = some i
  strata := l

/-- The strata of a rule set. One sweep more than there are rules is always enough
where no cycle passes through a negation. -/
def ofRules (s : RuleSet) (g : DependencyGraph) : Except Unsettled Stratification :=
  match Levels.settle g.edges (s.size + 1) (initial s g) with
  | some l => .ok (ofLevels s l)
  | none => .error ⟨s.size + 1⟩

/-- How many strata there are, empty ones included. -/
def size (s : Stratification) : Nat := s.levels.length

def isEmpty (s : Stratification) : Bool := s.levels.isEmpty

def highest (s : Stratification) : Nat := s.levels.length - 1

def level (s : Stratification) (i : Nat) : List RuleId := s.levels.getD i []

def stratum? (s : Stratification) (id : RuleId) : Option Nat := s.strata.lookup id

end Stratification

def Unsettled.diagnostic (e : Unsettled) : Diagnostic :=
  .new .stratumBoundExceeded
    ("stratification did not settle within " ++ toString e.bound ++ " iterations")

end TripleRules
