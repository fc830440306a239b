/-!
# Tables over code points

A property of characters is constant on long stretches of code points. A
`RunTable` keeps the first code point of every stretch with the value there, so
a look-up is a binary search. Tables are written as run lengths: lines of
decimal numbers, each stretch beginning where the one before it ended.
-/

namespace TripleRules.Text

/-- The values on consecutive stretches. `starts` is ascending, and the value of
the stretch that begins at `starts[i]` is `values[i]`. -/
structure RunTable (α : Type) where
  starts : Array Nat
  values : Array α

namespace RunTable

variable {α : Type}

def ofLengths (runs : List (α × Nat)) : RunTable α :=
  let ends := runs.foldl (fun (acc : Array Nat × Nat) run => (acc.1.push acc.2, acc.2 + run.2))
    (#[], 0)
  ⟨ends.1, (runs.map Prod.fst).toArray⟩

/-- The last index in `[lo, hi)` whose stretch starts at or before `n`, given
that `lo` is one. The interval halves at each step, so `fuel = hi` is plenty. -/
private def search (starts : Array Nat) (n : Nat) : Nat → Nat → Nat → Nat
  | 0, lo, _ => lo
  | fuel + 1, lo, hi =>
    if hi ≤ lo + 1 then lo
    else
      let mid := (lo + hi) / 2
      if starts.getD mid 0 ≤ n then search starts n fuel mid hi else search starts n fuel lo mid

/-- The value at a code point; past the last stretch its value continues. -/
def get? (table : RunTable α) (n : Nat) : Option α :=
  table.values[search table.starts n table.starts.size 0 table.starts.size]?

end RunTable

/-- The decimal numbers of a text, read left to right; every other character separates. -/
def numerals (text : String) : List Nat :=
  let finish (acc : Array Nat × Option Nat) : Array Nat := match acc.2 with
    | some n => acc.1.push n
    | none => acc.1
  let step (acc : Array Nat × Option Nat) (c : Char) : Array Nat × Option Nat :=
    if c.isDigit then (acc.1, some (10 * acc.2.getD 0 + (c.toNat - 48))) else (finish acc, none)
  (finish (text.toList.foldl step (#[], none))).toList

abbrev CodePointSet := RunTable Bool

namespace CodePointSet

private def alternating : Bool → List Nat → List (Bool × Nat)
  | inside, n :: rest => (inside, n) :: alternating (!inside) rest
  | inside, [] => [(inside, 0)]

/-- The set written as alternating lengths, beginning with the gap before its first member. -/
def ofLines (lines : List String) : CodePointSet :=
  RunTable.ofLengths (alternating false (lines.flatMap numerals))

def contains (set : CodePointSet) (c : Char) : Bool :=
  (set.get? c.toNat).getD false

end CodePointSet

/-- Runs written as a tag of letters directly followed by the length of its stretch. -/
def taggedRuns (lines : List String) : List (String × Nat) :=
  let word (w : String) : String × Nat :=
    (String.ofList (w.toList.filter Char.isAlpha), (numerals w).headD 0)
  lines.flatMap fun line => (line.splitOn " ").map word

end TripleRules.Text
