import TripleRules.Dictionary
import TripleRules.Triple

/-!
# Bindings

A binding gives terms to finitely many variables. Two bindings are equal exactly
when they give the same terms to the same variables. Extending a binding never
changes what it already gives.
-/

namespace TripleRules

/-- A finite map from variables to terms. -/
structure Binding where
  terms : Dictionary Term
  deriving DecidableEq

namespace Binding

def empty : Binding := ⟨.empty⟩

instance : Inhabited Binding := ⟨empty⟩

def entries (b : Binding) : List (Variable × Term) := b.terms.entries.map fun e => (⟨e.1⟩, e.2)

def get? (b : Binding) (v : Variable) : Option Term := b.terms.get? v.name

def contains (b : Binding) (v : Variable) : Bool := (b.get? v).isSome

def domain (b : Binding) : List Variable := b.terms.names.map Variable.mk

def size (b : Binding) : Nat := b.terms.size

def isEmpty (b : Binding) : Bool := b.terms.isEmpty

def insert (b : Binding) (v : Variable) (t : Term) : Binding :=
  ⟨b.terms.insert v.name t⟩

/-- Also give `t` to `v`; a variable bound to another term stands against it. -/
def extend (b : Binding) (v : Variable) (t : Term) : Option Binding :=
  match b.get? v with
  | some bound => if bound = t then some b else none
  | none => some (b.insert v t)

def extendAll (b : Binding) (entries : List (Variable × Term)) : Option Binding :=
  entries.foldlM (fun b e => b.extend e.1 e.2) b

def resolve (b : Binding) : Term → Term
  | .variable v => (b.get? v).getD (.variable v)
  | t => t

def substitute (b : Binding) (t : Triple) : Triple := t.map b.resolve

/-- Extend so that a pattern's term becomes the given one. -/
def matchTerm (b : Binding) (pattern candidate : Term) : Option Binding :=
  match pattern with
  | .variable v => b.extend v candidate
  | pattern => if pattern = candidate then some b else none

def matchTriple (b : Binding) (pattern candidate : Triple) : Option Binding := do
  let b ← b.matchTerm pattern.subject candidate.subject
  let b ← b.matchTerm pattern.predicate candidate.predicate
  b.matchTerm pattern.object candidate.object

def display (b : Binding) : String :=
  let entry (e : Variable × Term) : String := e.1.display ++ " = " ++ e.2.display
  "\x7b" ++ ", ".intercalate (b.entries.map entry) ++ "\x7d"

end Binding

end TripleRules
