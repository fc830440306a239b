import TripleRules.Expr.Error

/-!
# Numbers, order and truth of terms

Integers are exact as long as arithmetic stays among them; a quotient, or a
floating-point operand, makes the result floating-point. Any two numbers are
compared as floating-point values, simple strings by their characters, and all
other terms only for being the same.
-/

namespace TripleRules

inductive Numeric where
  | integer (i : Int)
  | decimal (x : Float)

namespace Numeric

/-- The number of a term; an integer type whose text is no integer may still be floating-point. -/
def ofTerm? (t : Term) : Option Numeric :=
  t.literal?.bind fun l => match l.integer? with
    | some i => some (.integer i)
    | none => l.float?.map .decimal

def toFloat : Numeric → Float
  | .integer i => Float.ofInt i
  | .decimal x => x

def toTerm : Numeric → Term
  | .integer i => .ofInt i
  | .decimal x => .ofFloat x

/-- An integer result, unless it is out of range. -/
def ofChecked (i : Int) : Except EvalError Numeric :=
  match Number.checked i with
  | some i => .ok (.integer i)
  | none => .error .overflow

/-- A quotient of floating-point values; neither zero divides. -/
def quotient (x y : Float) : Except EvalError Numeric :=
  if Number.rank? y = some 0 then .error .divisionByZero else .ok (.decimal (x / y))

def arithmetic (op : ArithOp) (a b : Numeric) : Except EvalError Numeric :=
  match a, b with
  | .integer i, .integer j => match op with
    | .add => ofChecked (i + j)
    | .sub => ofChecked (i - j)
    | .mul => ofChecked (i * j)
    | .div => quotient (Float.ofInt i) (Float.ofInt j)
  | a, b =>
    let x := a.toFloat
    let y := b.toFloat
    match op with
    | .add => .ok (.decimal (x + y))
    | .sub => .ok (.decimal (x - y))
    | .mul => .ok (.decimal (x * y))
    | .div => quotient x y

def abs : Numeric → Except EvalError Numeric
  | .integer i => ofChecked i.natAbs
  | .decimal x => .ok (.decimal x.abs)

/-- The order of two numbers; none if one of them is undefined. -/
def order? (a b : Numeric) : Option Ordering := do
  return compare (← Number.rank? a.toFloat) (← Number.rank? b.toFloat)

end Numeric

namespace Term

/-- The order of two simple strings, character by character. -/
def stringOrder? (l r : Term) : Option Ordering := do
  let a ← l.literal?
  let b ← r.literal?
  if a.isString && b.isString then some (compare a.value b.value) else none

def compareBy (op : CompareOp) (l r : Term) : Except EvalError Bool :=
  match Numeric.ofTerm? l, Numeric.ofTerm? r with
  | some a, some b => match a.order? b with
    | some o => .ok (op.holds o)
    | none => .ok (op = .ne)
  | _, _ => match stringOrder? l r with
    | some o => .ok (op.holds o)
    | none => match op with
      | .eq => .ok (l = r)
      | .ne => .ok (l ≠ r)
      | _ => .error (.unordered l r)

def arithmetic (op : ArithOp) (l r : Term) : Except EvalError Term :=
  match Numeric.ofTerm? l, Numeric.ofTerm? r with
  | some a, some b => (Numeric.arithmetic op a b).map Numeric.toTerm
  | _, _ => .error (.nonNumeric op l r)

/-- Whether a term counts as true: a truth value is itself, a number is true
unless it is zero or undefined, and text is true unless it is empty. -/
def truth (t : Term) : Except EvalError Bool :=
  match t with
  | .literal l => match l.boolean?, l.float? with
    | some b, _ => .ok b
    | none, some x => .ok ((Number.rank? x).any (· ≠ 0))
    | none, none => if l.isText then .ok (l.value ≠ "") else .error (.noTruthValue t)
  | t => .error (.noTruthValue t)

end Term

end TripleRules
