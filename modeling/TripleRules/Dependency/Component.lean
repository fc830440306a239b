import TripleRules.Dependency.Basic

/-!
# Components of dependencies

Two rules belong to one component when each depends on the other, directly or
not. One depth-first pass finds all components: a rule is numbered when it is
entered and then waits on a stack. It is known to reach some waiting rule, and
the lowest number of such a rule is kept for it. A rule that is left while this is still
its own number closes a component, with everything that waits above it.
-/

namespace TripleRules

/-- A depth-first pass over dependencies, as far as it has come. -/
structure Traversal where
  /-- The rules entered so far with their numbers, the last one first. -/
  numbers : List (RuleId × Nat)
  /-- For every rule entered, the lowest number that it is known to reach; the first entry counts. -/
  lowest : List (RuleId × Nat)
  /-- The rules entered that have no component yet, the last one on top. -/
  waiting : List RuleId
  /-- The components, in the order in which they were closed. -/
  components : List (List RuleId)

namespace Traversal

def start : Traversal := ⟨[], [], [], []⟩

def hasEntered (t : Traversal) (id : RuleId) : Bool := (t.numbers.lookup id).isSome

def number (t : Traversal) (id : RuleId) : Nat := (t.numbers.lookup id).getD 0

/-- The lowest number that a rule is known to reach. -/
def low (t : Traversal) (id : RuleId) : Nat := (t.lowest.lookup id).getD 0

def enter (t : Traversal) (id : RuleId) : Traversal where
  numbers := (id, t.numbers.length) :: t.numbers
  lowest := (id, t.numbers.length) :: t.lowest
  waiting := id :: t.waiting
  components := t.components

def lower (t : Traversal) (id : RuleId) (n : Nat) : Traversal :=
  { t with lowest := (id, min (t.low id) n) :: t.lowest }

/-- Close the component of a rule that reaches no lower number than its own. -/
def leave (t : Traversal) (id : RuleId) : Traversal :=
  if t.low id = t.number id then
    { t with
      waiting := (t.waiting.dropWhile (· ≠ id)).tail
      components := t.components ++ [t.waiting.takeWhile (· ≠ id) ++ [id]] }
  else t

/-- Follow a dependency of a rule: visit a rule that is new, and use what it reaches.
A rule with a component already cannot lead back. -/
def follow (visit : RuleId → Traversal → Traversal) (id : RuleId) (t : Traversal)
    (next : RuleId) : Traversal :=
  if t.hasEntered next then
    if next ∈ t.waiting then t.lower id (t.number next) else t
  else
    let t := visit next t
    t.lower id (t.low next)

end Traversal

namespace DependencyGraph

/-- Visit a rule and everything new that it depends on. The first argument bounds
how deep the visit goes. -/
def visit (g : DependencyGraph) : Nat → RuleId → Traversal → Traversal
  | 0, _, t => t
  | depth + 1, id, t =>
    ((g.successors id).foldl (Traversal.follow (g.visit depth) id) (t.enter id)).leave id

/-- Visit the given rules, as far as they are still new. No visit goes deeper than
the number of rules: every rule on the way is entered, and only rules of the graph lead on. -/
def traverse (g : DependencyGraph) (ids : List RuleId) : Traversal :=
  ids.foldl (fun t id => if t.hasEntered id then t else g.visit (g.entries.length + 1) id t) .start

end DependencyGraph

structure Components where
  groups : List (List RuleId)
  deriving DecidableEq, Repr

namespace Components

def ofGraph (g : DependencyGraph) (ids : List RuleId) : Components := ⟨(g.traverse ids).components⟩

def same (c : Components) (a b : RuleId) : Bool := c.groups.any fun group => a ∈ group ∧ b ∈ group

def size (c : Components) (id : RuleId) : Nat := ((c.groups.find? (id ∈ ·)).map List.length).getD 0

end Components

end TripleRules
