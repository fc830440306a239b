/-!
# Integers of sixty-four bits

Numerals are read exactly and then tested against a range, so no intermediate
value ever wraps.
-/

namespace TripleRules.Number

def FitsSigned (i : Int) : Prop := -0x8000000000000000 ≤ i ∧ i < 0x8000000000000000

instance (i : Int) : Decidable (FitsSigned i) := by
  unfold FitsSigned
  infer_instance

def FitsCount (n : Nat) : Prop := n < 0x10000000000000000

instance (n : Nat) : Decidable (FitsCount n) := by
  unfold FitsCount
  infer_instance

def digits? (cs : List Char) : Option Nat :=
  if cs ≠ [] ∧ cs.all Char.isDigit then some (Nat.ofDigitChars 10 cs 0) else none

def signed? : List Char → Option Int
  | '-' :: cs => (digits? cs).map fun n => -(n : Int)
  | '+' :: cs => (digits? cs).map Int.ofNat
  | cs => (digits? cs).map Int.ofNat

def integer? (cs : List Char) : Option Int :=
  (signed? cs).filter fun i => FitsSigned i

def count? (s : String) : Option Nat :=
  let digits := match s.toList with
    | '+' :: cs => cs
    | cs => cs
  (digits? digits).filter fun n => FitsCount n

def checked (i : Int) : Option Int :=
  if FitsSigned i then some i else none

def total (counts : List Nat) : Nat := counts.foldr (· + ·) 0

end TripleRules.Number
