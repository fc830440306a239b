/-!
# Hexadecimal digits

Escapes of several notations give characters by their code points in hexadecimal.
-/

namespace TripleRules.Text

def hexDigits (n : Nat) : List Char := Nat.toDigits 16 n

def hexDigit? (c : Char) : Option Nat :=
  if c.isDigit then some (c.toNat - '0'.toNat)
  else if 'a' ≤ c ∧ c ≤ 'f' then some (c.toNat - 'a'.toNat + 10)
  else if 'A' ≤ c ∧ c ≤ 'F' then some (c.toNat - 'A'.toNat + 10)
  else none

def char? (n : Nat) : Option Char :=
  if n.isValidChar then some (Char.ofNat n) else none

end TripleRules.Text
