import TripleRules.Expr.Basic
import TripleRules.Triple

/-!
# Rules

A rule has a body, whose solutions are bindings, and a head, whose templates
every solution instantiates. A body is read from left to right: patterns and
assignments bind variables, conditions and negations only keep or drop bindings.
-/

namespace TripleRules

inductive BodyElement where
  | pattern (t : Triple)
  | condition (e : Expr)
  | assignment (v : Variable) (e : Expr)
  /-- A body that must have no solution. -/
  | negation (body : List BodyElement)

/-- What tells rules apart, whatever they say. The number comes from one counter, which is 64 bits
wide in a running engine and is not bounded here: the two agree as long as fewer than `2 ^ 64`
identities have been given out, and no engine lives long enough to see more. -/
structure RuleId where
  number : Nat
  deriving DecidableEq, Repr

def RuleId.display (id : RuleId) : String := "rule#" ++ toString id.number

structure Rule where
  id : RuleId
  name : Option String
  head : List Triple
  body : List BodyElement

def Rule.label (r : Rule) : String := r.name.getD r.id.display

namespace BodyElement

mutual

def display : BodyElement → String
  | .pattern t => t.display
  | .condition e => "FILTER(" ++ e.display ++ ")"
  | .assignment v e => "BIND(" ++ e.display ++ " AS " ++ v.display ++ ")"
  | .negation body => "NOT \x7b" ++ displayList body ++ " \x7d"

def displayList : List BodyElement → String
  | [] => ""
  | e :: rest => " " ++ e.display ++ displayList rest

end

-- ---------------------------------------------------------------------------
-- Equality
-- ---------------------------------------------------------------------------

mutual

def beq : BodyElement → BodyElement → Bool
  | .pattern s, .pattern t => s = t
  | .condition d, .condition e => d = e
  | .assignment v d, .assignment w e => v = w && d = e
  | .negation xs, .negation ys => beqList xs ys
  | _, _ => false

def beqList : List BodyElement → List BodyElement → Bool
  | [], [] => true
  | x :: xs, y :: ys => x.beq y && beqList xs ys
  | _, _ => false

end

mutual

theorem beq_iff : ∀ x y : BodyElement, x.beq y = true ↔ x = y
  | .pattern _, y => by cases y <;> simp [beq]
  | .condition _, y => by cases y <;> simp [beq]
  | .assignment .., y => by cases y <;> simp [beq]
  | .negation xs, y => by cases y <;> simp [beq, beqList_iff xs]

theorem beqList_iff : ∀ xs ys : List BodyElement, beqList xs ys = true ↔ xs = ys
  | [], ys => by cases ys <;> simp [beqList]
  | x :: xs, ys => by cases ys <;> simp [beqList, beq_iff x, beqList_iff xs]

end

instance : DecidableEq BodyElement := fun x y => decidable_of_iff _ (beq_iff x y)

end BodyElement

-- ---------------------------------------------------------------------------
-- Equivalence
-- ---------------------------------------------------------------------------

def takeFirst? {α : Type} (p : α → Bool) : List α → Option (List α)
  | [] => none
  | y :: ys => if p y then some ys else (takeFirst? p ys).map (y :: ·)

/-- Whether the members of two lists can be paired off: every member takes the first one that is
left for it. -/
def pairOff {α : Type} (p : α → α → Bool) : List α → List α → Bool
  | [], ys => ys.isEmpty
  | x :: xs, ys => match takeFirst? (p x) ys with
    | some rest => pairOff p xs rest
    | none => false

namespace BodyElement

mutual

/-- Whether two elements are the same but for the order inside negations. -/
def equivalent : BodyElement → BodyElement → Bool
  | .negation xs, .negation ys => equivalentBodies xs ys
  | x, y => x = y

def equivalentBodies : List BodyElement → List BodyElement → Bool
  | [], ys => ys.isEmpty
  | x :: xs, ys => match takeFirst? (fun y => x.equivalent y) ys with
    | some rest => equivalentBodies xs rest
    | none => false

end

theorem equivalentBodies_eq (xs ys : List BodyElement) :
    equivalentBodies xs ys = pairOff equivalent xs ys := by
  induction xs generalizing ys with
  | nil => rw [equivalentBodies, pairOff]
  | cons x xs ih =>
    rw [equivalentBodies, pairOff]
    cases takeFirst? x.equivalent ys with
    | none => rfl
    | some rest => exact ih rest

end BodyElement

namespace Rule

def equivalentHeads (xs ys : List Triple) : Bool := pairOff (fun x y => decide (x = y)) xs ys

def equivalent (r s : Rule) : Bool :=
  equivalentHeads r.head s.head && BodyElement.equivalentBodies r.body s.body

def sameForm (r s : Rule) : Bool := r.head = s.head && r.body = s.body

def display (r : Rule) : String :=
  "RULE \x7b" ++ String.join (r.head.map fun t => " " ++ t.display) ++ " \x7d WHERE \x7b" ++
    BodyElement.displayList r.body ++ " \x7d"

end Rule

end TripleRules
