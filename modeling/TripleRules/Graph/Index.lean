import TripleRules.Triple

/-!
# Positions by term

An index lists, for each term, the positions at which it stands in a sequence.
It is grown one term at a time, and `ofTerms_concat` says that growing it is the
same as indexing the longer sequence.
-/

namespace TripleRules

/-- Positions of terms, ascending for each term. -/
structure Index where
  entries : List (Term × Array Nat)

namespace Index

def empty : Index := ⟨[]⟩

def insertEntry (t : Term) (n : Nat) : List (Term × Array Nat) → List (Term × Array Nat)
  | [] => [(t, #[n])]
  | (u, positions) :: rest =>
    if u = t then (u, positions.push n) :: rest else (u, positions) :: insertEntry t n rest

def insert (i : Index) (t : Term) (n : Nat) : Index := ⟨insertEntry t n i.entries⟩

def positions (i : Index) (t : Term) : Array Nat := (i.entries.lookup t).getD #[]

def ofTerms (ts : List Term) : Index :=
  ts.zipIdx.foldl (fun i e => i.insert e.1 e.2) empty

theorem ofTerms_concat (ts : List Term) (t : Term) :
    ofTerms (ts ++ [t]) = (ofTerms ts).insert t ts.length := by
  simp [ofTerms, List.zipIdx_append]

end Index

end TripleRules
