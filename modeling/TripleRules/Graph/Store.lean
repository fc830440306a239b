import TripleRules.Graph.Index

/-!
# Stores

A store holds distinct concrete triples in the order of their first insertion
and answers look-ups through an index for each place. Triples are only ever
added, so positions stay valid.
-/

namespace TripleRules

structure NotConcrete where
  triple : Triple
  deriving DecidableEq, Repr

def NotConcrete.message (e : NotConcrete) : String :=
  "only concrete triples can be stored: " ++ e.triple.display

/-- Distinct concrete triples with an index for each place. -/
structure Store where
  triples : Array Triple
  bySubject : Index
  byPredicate : Index
  byObject : Index
  nodup : triples.toList.Nodup
  concrete : ∀ t ∈ triples, t.isConcrete = true
  bySubject_eq : bySubject = .ofTerms (triples.toList.map Triple.subject)
  byPredicate_eq : byPredicate = .ofTerms (triples.toList.map Triple.predicate)
  byObject_eq : byObject = .ofTerms (triples.toList.map Triple.object)

namespace Store

def empty : Store :=
  ⟨#[], .empty, .empty, .empty, by simp, by simp, rfl, rfl, rfl⟩

instance : Inhabited Store := ⟨empty⟩

def toList (s : Store) : List Triple := s.triples.toList

def size (s : Store) : Nat := s.triples.size

def contains (s : Store) (t : Triple) : Bool := s.triples.contains t

def push (s : Store) (t : Triple) (concrete : t.isConcrete = true) (new : t ∉ s.triples) : Store where
  triples := s.triples.push t
  bySubject := s.bySubject.insert t.subject s.triples.size
  byPredicate := s.byPredicate.insert t.predicate s.triples.size
  byObject := s.byObject.insert t.object s.triples.size
  nodup := by
    have h := s.nodup
    simp only [Array.toList_push, List.nodup_append]
    refine ⟨h, by simp, ?_⟩
    intro a ha b hb eq
    simp only [List.mem_singleton] at hb
    exact new (by simpa [← hb, ← eq] using ha)
  concrete := by
    intro u hu
    rcases Array.mem_push.1 hu with hu | rfl
    · exact s.concrete u hu
    · exact concrete
  bySubject_eq := by simp [s.bySubject_eq, Index.ofTerms_concat]
  byPredicate_eq := by simp [s.byPredicate_eq, Index.ofTerms_concat]
  byObject_eq := by simp [s.byObject_eq, Index.ofTerms_concat]

def add (s : Store) (t : Triple) : Except NotConcrete (Store × Bool) :=
  if concrete : t.isConcrete = true then
    if stored : t ∈ s.triples then .ok (s, false) else .ok (s.push t concrete stored, true)
  else .error ⟨t⟩

/-- Add triples one after the other, counting the new ones. A triple that cannot
be stored ends this, and what came before it stays. -/
def addAll (s : Store) : List Triple → Store × Except NotConcrete Nat
  | [] => (s, .ok 0)
  | t :: rest => match s.add t with
    | .error e => (s, .error e)
    | .ok (s, new) =>
      let (s, count) := s.addAll rest
      (s, count.map fun n => if new then n + 1 else n)

def ofList? (ts : List Triple) : Except NotConcrete Store :=
  match empty.addAll ts with
  | (s, .ok _) => .ok s
  | (_, .error e) => .error e

/-- The shorter of two lists of positions, the first one on a tie. -/
def shorter (best : Option (Array Nat)) (positions : Array Nat) : Option (Array Nat) :=
  match best with
  | none => some positions
  | some b => if positions.size < b.size then some positions else some b

/-- Positions that hold every match: the fewest that one given place leaves, if any is given. -/
def candidates (s : Store) (q : Slots) : Option (Array Nat) :=
  ([q.subject.map s.bySubject.positions, q.predicate.map s.byPredicate.positions,
    q.object.map s.byObject.positions].filterMap id).foldl shorter none

/-- The triples that a look-up asks for, in insertion order. -/
def find (s : Store) (q : Slots) : List Triple :=
  match s.candidates q with
  -- the other places are still to be compared
  | some positions => (positions.toList.filterMap (s.triples[·]?)).filter q.admits
  | none => s.toList

def display (s : Store) : String :=
  "Store \x7b\n" ++ String.join (s.toList.map fun t => "  " ++ t.display ++ "\n") ++ "\x7d"

end Store

end TripleRules
