import TripleRules.Number.Decimal
import TripleRules.Number.Integer
import TripleRules.Text.Hex

/-!
# Values of TOML

Numbers, dates and truth values are single words. A word with digits in groups
has its groups set apart by single underscores, and a decimal number never begins
with a zero that it could do without. Of dates and times only their form is of
interest; it is checked with all ranges.
-/

namespace TripleRules.Toml

inductive Value where
  | text (s : String)
  | integer (i : Int)
  | float (x : Float)
  | boolean (b : Bool)
  /-- A date, a time of day or both, as written. -/
  | moment (written : String)
  | array (items : List Value)
  /-- Values under keys, each key once. -/
  | table (entries : List (String × Value))

-- ---------------------------------------------------------------------------
-- Numbers
-- ---------------------------------------------------------------------------

/-- Digits without the underscores between them; `lead` says whether a digit came just before. -/
def ungroup? (isDigit : Char → Bool) : (lead : Bool) → List Char → Option (List Char)
  | lead, [] => if lead then some [] else none
  | lead, c :: rest =>
    if c = '_' then if lead then ungroup? isDigit false rest else none
    else if isDigit c then (ungroup? isDigit true rest).map (c :: ·)
    else none

/-- A word without its sign; true for a minus sign. -/
def unsigned : List Char → Bool × List Char
  | '-' :: rest => (true, rest)
  | '+' :: rest => (false, rest)
  | cs => (false, cs)

def wholeDigits? (cs : List Char) : Option (List Char) := do
  let digits ← ungroup? Char.isDigit false cs
  if 1 < digits.length ∧ digits.head? = some '0' then none else return digits

def based? (base : Nat) (isDigit : Char → Bool) (cs : List Char) : Option Nat := do
  let digits ← ungroup? isDigit false cs
  return digits.foldl (fun n c => base * n + (Text.hexDigit? c).getD 0) 0

def whole? : List Char → Option Int
  | '0' :: 'x' :: rest => (based? 16 (fun c => (Text.hexDigit? c).isSome) rest).map Int.ofNat
  | '0' :: 'o' :: rest => (based? 8 (fun c => '0' ≤ c && c ≤ '7') rest).map Int.ofNat
  | '0' :: 'b' :: rest => (based? 2 (fun c => c = '0' || c = '1') rest).map Int.ofNat
  | cs => do
    let (negative, cs) := unsigned cs
    let n := Nat.ofDigitChars 10 (← wholeDigits? cs) 0
    return if negative then -(n : Int) else n

def integer? (cs : List Char) : Option Int := whole? cs >>= Number.checked

def exponent? : List Char → Option (List Char)
  | [] => some []
  | mark :: rest => do
    if mark ≠ 'e' ∧ mark ≠ 'E' then none
    let (negative, digits) := unsigned rest
    let digits ← ungroup? Char.isDigit false digits
    return 'e' :: (if negative then '-' :: digits else digits)

def fraction? : List Char → Option (List Char)
  | [] => some []
  | point :: rest => do
    if point ≠ '.' then none
    return '.' :: (← ungroup? Char.isDigit false rest)

/-- A number with a fraction or an exponent, which must not exceed all finite ones. -/
def decimal? (cs : List Char) : Option Float := do
  let (negative, cs) := unsigned cs
  let isMark (c : Char) : Bool := c = 'e' || c = 'E'
  let whole := cs.takeWhile fun c => c ≠ '.' && !isMark c
  let rest := cs.dropWhile fun c => c ≠ '.' && !isMark c
  if rest.isEmpty then none
  let digits ← wholeDigits? whole
  let fraction ← fraction? (rest.takeWhile (!isMark ·))
  let exponent ← exponent? (rest.dropWhile (!isMark ·))
  let x ← Number.decimal? (digits ++ fraction ++ exponent)
  -- only without a minus sign is the range tested
  if negative then return -x
  else if Number.isFinite x then return x
  else none

def float? (cs : List Char) : Option Float :=
  let (negative, name) := unsigned cs
  let signed (x : Float) : Float := if negative then -x else x
  match String.ofList name with
  | "inf" => some (signed (Float.ofBits 0x7FF0000000000000))
  | "nan" => some (signed (Float.ofBits 0x7FF8000000000000))
  | _ => decimal? cs

-- ---------------------------------------------------------------------------
-- Dates and times
-- ---------------------------------------------------------------------------

def digits? (count : Nat) (cs : List Char) : Option (Nat × List Char) :=
  let digits := cs.take count
  if digits.length = count ∧ digits.all Char.isDigit then
    some (Nat.ofDigitChars 10 digits 0, cs.drop count)
  else none

def mark? (mark : Char) : List Char → Option (List Char)
  | c :: rest => if c = mark then some rest else none
  | [] => none

def ranged? (least most : Nat) (cs : List Char) : Option (Nat × List Char) := do
  let (n, rest) ← digits? 2 cs
  if least ≤ n ∧ n ≤ most then return (n, rest) else none

def daysIn (year month : Nat) : Nat :=
  match month with
  | 2 => if year % 4 = 0 ∧ (year % 100 ≠ 0 ∨ year % 400 = 0) then 29 else 28
  | 4 | 6 | 9 | 11 => 30
  | _ => 31

def afterDate? (cs : List Char) : Option (List Char) := do
  let (year, rest) ← digits? 4 cs
  let (month, rest) ← ranged? 1 12 (← mark? '-' rest)
  let (_, rest) ← ranged? 1 (daysIn year month) (← mark? '-' rest)
  return rest

def afterTime? (cs : List Char) : Option (List Char) := do
  let (_, rest) ← ranged? 0 23 cs
  let (_, rest) ← ranged? 0 59 (← mark? ':' rest)
  let (_, rest) ← ranged? 0 60 (← mark? ':' rest)
  match rest with
  | '.' :: places =>
    if (places.takeWhile Char.isDigit).isEmpty then none else return places.dropWhile Char.isDigit
  | rest => return rest

/-- Whether this is nothing, or the distance of a time zone. -/
def isZone : List Char → Bool
  | [] => true
  | [c] => c = 'Z' || c = 'z'
  | c :: rest =>
    (c = '+' || c = '-') && (do
      let (_, rest) ← ranged? 0 23 rest
      let (_, rest) ← ranged? 0 59 (← mark? ':' rest)
      return rest) matches some []

def isZonedTime (cs : List Char) : Bool := (afterTime? cs).any isZone

def isDate (cs : List Char) : Bool := afterDate? cs matches some []

/-- Whether this is a date, a date and a time, or a time without a zone. -/
def isMoment (cs : List Char) : Bool :=
  match afterDate? cs with
  | some [] => true
  | some (c :: rest) => (c = 'T' || c = 't') && isZonedTime rest
  | none => afterTime? cs matches some []

-- ---------------------------------------------------------------------------
-- Words
-- ---------------------------------------------------------------------------

def Value.ofWord? (word : List Char) : Option Value :=
  match String.ofList word with
  | "true" => some (.boolean true)
  | "false" => some (.boolean false)
  | written =>
    match integer? word with
    | some i => some (.integer i)
    | none => match float? word with
      | some x => some (.float x)
      | none => if isMoment word then some (.moment written) else none

end TripleRules.Toml
