import TripleRules.Expr.Basic

/-!
# Failures of evaluation

An expression that fails never ends an evaluation of rules: a condition that
fails does not hold, and an assignment that fails gives up its binding.
-/

namespace TripleRules

inductive Arity where
  | exactly (n : Nat)
  | between (least most : Nat)
  | atLeast (n : Nat)
  deriving DecidableEq, Repr

def Arity.accepts : Arity → Nat → Bool
  | .exactly n, count => count = n
  | .between least most, count => least ≤ count && count ≤ most
  | .atLeast n, count => n ≤ count

def Arity.display : Arity → String
  | .exactly n => toString n
  | .between least most => toString least ++ " to " ++ toString most
  | .atLeast n => "at least " ++ toString n

inductive EvalError where
  | unboundVariable (v : Variable)
  | noTruthValue (t : Term)
  | unordered (left right : Term)
  | nonNumeric (op : ArithOp) (left right : Term)
  /-- A kind of term that a function does not take. -/
  | unsuitable (function : String) (t : Term)
  | divisionByZero
  | overflow
  | unknownFunction (name : String)
  | wrongArity (function : String) (expected : Arity) (found : Nat)
  | unknownFlag (flag : Char)
  | malformedPattern
  | emptyIri
  deriving DecidableEq, Repr

def EvalError.message : EvalError → String
  | .unboundVariable v => "unbound variable " ++ v.display
  | .noTruthValue t => "type error: no boolean value for " ++ t.display
  | .unordered l r => "type error: cannot order " ++ l.display ++ " and " ++ r.display
  | .nonNumeric op l r =>
    "type error: non-numeric operand to " ++ op.symbol ++ ": " ++ l.display ++ " " ++ op.symbol ++
      " " ++ r.display
  | .unsuitable function t => "type error: " ++ function ++ "() cannot take " ++ t.display
  | .divisionByZero => "division by zero"
  | .overflow => "integer overflow"
  | .unknownFunction name => "unknown function '" ++ name ++ "'"
  | .wrongArity function expected found =>
    function ++ "() expects " ++ expected.display ++ " argument(s), found " ++ toString found
  | .unknownFlag flag =>
    "invalid argument to regex(): unknown flag '" ++ String.singleton flag ++ "'"
  | .malformedPattern => "invalid argument to regex()"
  | .emptyIri => "invalid argument to iri(): empty IRI"

end TripleRules
