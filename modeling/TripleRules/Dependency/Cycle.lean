import TripleRules.Dependency.Component
import TripleRules.Diagnostic.Basic

/-!
# Cycles of dependencies

A rule that depends on itself, perhaps through others, is recursive. Recursion
is legal unless one of the dependencies on its way is negative. Every cycle lies
within one component, so it is enough to look for a negative edge there. For an illegal
recursion a shortest cycle through the first such edge is reported, beginning with
the rule that was declared first.
-/

namespace TripleRules

structure Search (α : Type) where
  /-- The nodes that are still to be expanded, the next one first. -/
  queue : List α
  /-- Every node met on the way with the node that led to it, the last one first. -/
  cameFrom : List (α × α)

namespace Search

variable {α : Type} [DecidableEq α]

def begin (start : α) : Search α := ⟨[start], []⟩

/-- Note where a node is met from, unless it was met before or is not to be entered. -/
def meet (inside : α → Bool) (start x : α) (s : Search α) (y : α) : Search α :=
  if y ≠ start && inside y && (s.cameFrom.lookup y).isNone then
    ⟨s.queue ++ [y], (y, x) :: s.cameFrom⟩
  else s

/-- Expand node after node until the next one is the goal. The first number bounds how many
nodes are expanded. -/
def run (next : α → List α) (inside : α → Bool) (start goal : α) : Nat → Search α → Search α
  | 0, s => s
  | fuel + 1, s => match s.queue with
    | [] => s
    | x :: queue =>
      if x = goal then s
      else
        let met := (next x).foldl (meet inside start x) ⟨queue, s.cameFrom⟩
        run next inside start goal fuel met

def back (s : Search α) (start : α) : Nat → α → List α
  | 0, x => [x]
  | fuel + 1, x =>
    if x = start then [x]
    else match s.cameFrom.lookup x with
      | some y => x :: s.back start fuel y
      | none => [x]

def way (next : α → List α) (inside : α → Bool) (start goal : α) (fuel : Nat) : List α :=
  let found := run next inside start goal fuel (.begin start)
  (found.back start found.cameFrom.length goal).reverse

end Search

/-- The nodes of a shortest cycle that takes an edge from `source` to `target` within a component:
the way back is searched breadth first among the rules of the component. -/
def Components.cycleThrough (c : Components) (g : DependencyGraph) (source target : RuleId) :
    List RuleId :=
  let way := Search.way g.successors (c.same · source) target source (g.entries.length + 1)
  -- the way ends in the source, which already begins the cycle
  source :: if source = target then [] else way.takeWhile (· ≠ source)

namespace RuleSet

def rank (s : RuleSet) (id : RuleId) : Nat := (s.position? id).getD s.size

/-- A cycle that begins with its first declared rule, which is repeated at the end. -/
def rotate (s : RuleSet) (cycle : List RuleId) : List RuleId :=
  let first := (cycle.map s.rank).foldl min s.size
  let start := (cycle.findIdx? fun id => s.rank id = first).getD 0
  let turned := cycle.rotateLeft start
  turned ++ turned.take 1

end RuleSet

/-- A cycle of dependencies with a negative edge on it, its first rule repeated at the end. -/
structure IllegalCycle where
  path : List RuleId
  labels : List String
  deriving DecidableEq, Repr

namespace Recursion

/-- The first negative edge of the rules that stays within a component. -/
def negativeEdge? (g : DependencyGraph) (s : RuleSet) (components : Components) : Option Edge :=
  (s.ids.flatMap g.edgesFrom).find? fun e =>
    e.sign = .negative && components.same e.rule e.provider

/-- Whether a rule depends on itself: its component has other rules, or it reads what it derives. -/
def isCyclic (g : DependencyGraph) (components : Components) (id : RuleId) : Bool :=
  components.size id > 1 || id ∈ g.successors id

/-- The recursive rules, in their order, unless some recursion passes through a negation. -/
def check (g : DependencyGraph) (s : RuleSet) : Except IllegalCycle (List RuleId) :=
  let components := Components.ofGraph g s.ids
  match negativeEdge? g s components with
  | some e =>
    let path := s.rotate (components.cycleThrough g e.rule e.provider)
    .error ⟨path, path.map s.label⟩
  | none => .ok (s.ids.filter (isCyclic g components))

end Recursion

def IllegalCycle.diagnosticOf (labels : List String) : Diagnostic :=
  ((Diagnostic.new .illegalRecursion
      "rule set is not stratifiable: dependency cycle through negation").withField
    "path" (" -> ".intercalate labels)).withHint
      ("Break the cycle or move the negated pattern onto a predicate no rule in the cycle " ++
        "derives")

def IllegalCycle.diagnostic (c : IllegalCycle) : Diagnostic := diagnosticOf c.labels

end TripleRules
