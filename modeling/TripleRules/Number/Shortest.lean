import TripleRules.Number.Integer

/-!
# The fewest digits that read back

A finite floating-point value stands for the interval of reals that round to
it. Among the decimal numbers of one digit, then two, and so on, the first grid
with a point in that interval gives the digits; of two such points the nearer
is taken, and of two equally near the upper one. All arithmetic is exact.
-/

namespace TripleRules.Number

/-- A finite magnitude `m * 2 ^ q`. Below a power of two the gap to the next
value down is half the gap up, which `narrowBelow` records. -/
structure Binary where
  m : Nat
  q : Int
  narrowBelow : Bool

structure ScaledDigits where
  digits : Nat
  exponent : Int
  deriving DecidableEq, Repr

namespace Binary

def ofMagnitude (bits : Nat) : Binary :=
  let e : Nat := bits / 0x10000000000000
  let f : Nat := bits % 0x10000000000000
  if e = 0 then ⟨f, -1074, false⟩ else ⟨0x10000000000000 + f, (e : Int) - 1075, f = 0 && 1 < e⟩

/-- The interval of a magnitude in exact decimal units: a point of it is
`n * 10 ^ exponent` with `lower ≤ n ≤ upper`, the ends counting only if `closed`. -/
structure Interval where
  lower : Nat
  value : Nat
  upper : Nat
  closed : Bool
  exponent : Int

/-- Quarter steps make both half gaps whole; a negative power of two becomes a
power of five over a power of ten. -/
def interval (x : Binary) : Interval :=
  let (unit, exponent) : Nat × Int := match x.q - 2 with
    | .ofNat n => (Nat.pow 2 n, 0)
    | .negSucc n => (Nat.pow 5 (n + 1), -((n : Int) + 1))
  { lower := (4 * x.m - if x.narrowBelow then 1 else 2) * unit
    value := 4 * x.m * unit
    upper := (4 * x.m + 2) * unit
    closed := x.m % 2 = 0
    exponent }

def Interval.holds (i : Interval) (n : Nat) : Bool :=
  if i.closed then i.lower ≤ n && n ≤ i.upper else i.lower < n && n < i.upper

/-- The multiple of `step` next to the value that rounds to it, as a count of steps. -/
def Interval.nearby? (i : Interval) (step : Nat) : Option Nat :=
  let below := i.value / step
  let above := below + 1
  match i.holds (below * step), i.holds (above * step) with
  -- exactly between the two, the upper one is taken
  | true, true => if 2 * i.value < (below + above) * step then some below else some above
  | true, false => some below
  | false, true => some above
  | false, false => none

private def strip : Nat → ScaledDigits → ScaledDigits
  | 0, d => d
  | fuel + 1, d =>
    if d.digits ≠ 0 ∧ d.digits % 10 = 0 then strip fuel ⟨d.digits / 10, d.exponent + 1⟩ else d

private def search (i : Interval) : Nat → ScaledDigits
  | 0 => ⟨i.value, i.exponent⟩
  | places + 1 => match i.nearby? (10 ^ (places + 1)) with
    | some n => ⟨n, i.exponent + (places + 1)⟩
    | none => search i places

/-- The shortest decimal number that rounds to a magnitude. -/
def shortest (x : Binary) : ScaledDigits :=
  if x.m = 0 then ⟨0, 0⟩
  else
    let i := x.interval
    let places := (Nat.toDigits 10 i.value).length - 1
    let found := search i places
    strip (Nat.toDigits 10 found.digits).length found

end Binary

end TripleRules.Number
