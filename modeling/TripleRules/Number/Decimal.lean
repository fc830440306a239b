import TripleRules.Number.Shortest

/-!
# Decimal text of binary floating point

Writing takes the fewest digits that read back and lays them out positionally,
never with an exponent. Reading accepts a sign, digits with at most one point,
and an exponent, and rounds correctly.

The order of floating-point values is that of their `rank?`, an integer that
grows with the value and is the same for both zeros.
-/

namespace TripleRules.Number

/-- The place of a value among all values: both zeros have rank zero, and
neighbouring values have neighbouring ranks. What is not a number has none. -/
def rank? (x : Float) : Option Int :=
  let bits : Nat := x.toBits.toNat
  let magnitude : Nat := bits % 0x8000000000000000
  -- above the encoding of infinity nothing is a number
  if 0x7FF0000000000000 < magnitude then none
  else if bits < 0x8000000000000000 then some magnitude
  else some (-(magnitude : Int))

def isFinite (x : Float) : Bool :=
  x.toBits.toNat % 0x8000000000000000 < 0x7FF0000000000000

def positional (digits : List Char) (exponent : Int) : List Char :=
  match exponent with
  | .ofNat n => digits ++ List.replicate n '0'
  | .negSucc n =>
    let places := n + 1
    if places < digits.length then
      digits.take (digits.length - places) ++ '.' :: digits.drop (digits.length - places)
    else '0' :: '.' :: List.replicate (places - digits.length) '0' ++ digits

def decimalText (x : Float) : String :=
  let bits : Nat := x.toBits.toNat
  let magnitude : Nat := bits % 0x8000000000000000
  if 0x7FF0000000000000 < magnitude then "NaN"
  else
    let body :=
      if magnitude = 0x7FF0000000000000 then "inf".toList
      else
        let d := Binary.shortest (.ofMagnitude magnitude)
        positional (Nat.toDigits 10 d.digits) d.exponent
    String.ofList (if bits < 0x8000000000000000 then body else '-' :: body)

/-- The value of `digits * 10 ^ exponent`. Magnitudes beyond any finite or
non-zero value are settled by the number of digits, before any power is taken. -/
private def scaled (digits : Nat) (exponent : Int) : Float :=
  let size := (Nat.toDigits 10 digits).length + exponent
  if digits = 0 || size < -400 then 0.0
  else if 400 < size then Float.ofBits 0x7FF0000000000000
  else match exponent with
    | .ofNat n => .ofScientific digits false n
    | .negSucc n => .ofScientific digits true (n + 1)

private def exponent? : List Char → Option Int
  | [] => some 0
  | c :: rest => if c = 'e' ∨ c = 'E' then signed? rest else none

private def unsigned? (cs : List Char) : Option Float :=
  match String.ofList (cs.map Char.toLower) with
  | "inf" | "infinity" => some (Float.ofBits 0x7FF0000000000000)
  | "nan" => some (Float.ofBits 0x7FF8000000000000)
  | _ =>
    let whole := cs.takeWhile Char.isDigit
    let rest := cs.dropWhile Char.isDigit
    let (fraction, rest) := match rest with
      | '.' :: rest => (rest.takeWhile Char.isDigit, rest.dropWhile Char.isDigit)
      | rest => ([], rest)
    if whole = [] ∧ fraction = [] then none
    else do
      let e ← exponent? rest
      let digits := Nat.ofDigitChars 10 (whole ++ fraction) 0
      return scaled digits (e - fraction.length)

def decimal? : List Char → Option Float
  | '-' :: cs => (unsigned? cs).map Float.neg
  | '+' :: cs => unsigned? cs
  | cs => unsigned? cs

end TripleRules.Number
