import TripleRules.Term

/-!
# Triples

One type serves as a fact of a graph, as a pattern in a body and as a template
in a head. Only concrete triples are facts.
-/

namespace TripleRules

structure Triple where
  subject : Term
  predicate : Term
  object : Term
  deriving DecidableEq, Repr

/-- A look-up: each place is either free or must hold a given term. -/
structure Slots where
  subject : Option Term
  predicate : Option Term
  object : Option Term
  deriving DecidableEq, Repr

namespace Triple

def terms (t : Triple) : List Term := [t.subject, t.predicate, t.object]

/-- The variables in their order, as often as they occur. -/
def vars (t : Triple) : List Variable := t.terms.filterMap Term.toVariable?

def hasVariables (t : Triple) : Bool :=
  t.subject.isVariable || t.predicate.isVariable || t.object.isVariable

def isConcrete (t : Triple) : Bool := !t.hasVariables

def slots (t : Triple) : Slots := ⟨t.subject.slot, t.predicate.slot, t.object.slot⟩

def map (f : Term → Term) (t : Triple) : Triple := ⟨f t.subject, f t.predicate, f t.object⟩

def display (t : Triple) : String :=
  t.subject.display ++ " " ++ t.predicate.display ++ " " ++ t.object.display ++ " ."

end Triple

namespace Slots

def accepts (slot : Option Term) (t : Term) : Bool := slot.all (· == t)

/-- Whether a triple has the given terms in the places that are not free. -/
def admits (s : Slots) (t : Triple) : Bool :=
  accepts s.subject t.subject && accepts s.predicate t.predicate && accepts s.object t.object

end Slots

end TripleRules
