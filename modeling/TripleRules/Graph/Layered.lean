import TripleRules.Graph.Store
import TripleRules.Binding

/-!
# Graphs and overlays

A graph is a stack of stores that share no triple: a store by itself, or a graph
with additions on top. Every look-up reads the layers from the bottom up.
An overlay keeps its base apart from its additions, and only the additions grow.
-/

namespace TripleRules

/-- Stores without a common triple, the bottom layer first. -/
structure Graph where
  layers : List Store
  disjoint : layers.Pairwise fun low high => ∀ t ∈ high.triples, t ∉ low.triples

namespace Graph

def ofStore (s : Store) : Graph := ⟨[s], List.pairwise_singleton _ _⟩

def toList (g : Graph) : List Triple := g.layers.flatMap Store.toList

def size (g : Graph) : Nat := Number.total (g.layers.map Store.size)

def contains (g : Graph) (t : Triple) : Bool := g.layers.any (·.contains t)

def find (g : Graph) (q : Slots) : List Triple := g.layers.flatMap (·.find q)

def matchPattern (g : Graph) (pattern : Triple) : List Binding :=
  (g.find pattern.slots).filterMap (Binding.empty.matchTriple pattern)

def copy (g : Graph) : Store :=
  (Store.empty.addAll g.toList).1

theorem contains_iff {g : Graph} {t : Triple} :
    g.contains t = true ↔ ∃ s ∈ g.layers, t ∈ s.triples := by
  simp [contains, Store.contains]

end Graph

/-- A graph and additions that are not in it. -/
structure Overlay where
  base : Graph
  added : Store
  disjoint : ∀ t ∈ added.triples, base.contains t = false

namespace Overlay

def ofGraph (base : Graph) : Overlay := ⟨base, .empty, by simp [Store.empty]⟩

def toGraph (o : Overlay) : Graph where
  layers := o.base.layers ++ [o.added]
  disjoint := by
    refine List.pairwise_append.2 ⟨o.base.disjoint, List.pairwise_singleton _ _, ?_⟩
    intro s hs top htop t ht
    obtain rfl := List.mem_singleton.1 htop
    intro hst
    have := Graph.contains_iff.2 ⟨s, hs, hst⟩
    simp [o.disjoint t ht] at this

/-- Add a triple unless it is there already, and say whether it is new. -/
def add (o : Overlay) (t : Triple) : Except NotConcrete (Overlay × Bool) :=
  if inBase : o.base.contains t = true then .ok (o, false)
  else if concrete : t.isConcrete = true then
    if stored : t ∈ o.added.triples then .ok (o, false)
    else
      .ok ({ o with
        added := o.added.push t concrete stored
        disjoint := by
          intro u hu
          rcases Array.mem_push.1 hu with hu | rfl
          · exact o.disjoint u hu
          · simpa using inBase }, true)
  else .error ⟨t⟩

def extend (o : Overlay) : List Triple → Except NotConcrete (Overlay × Nat)
  | [] => .ok (o, 0)
  | t :: rest => do
    let (o, new) ← o.add t
    let (o, count) ← o.extend rest
    return (o, if new then count + 1 else count)

end Overlay

end TripleRules
