import TripleRules.Binding
import TripleRules.Expr.Function

/-!
# Evaluation of expressions

An expression has a value under a binding, or fails. The two connectives
tolerate a failure on one side where the other side decides the result;
everything else fails with its first failing operand.
-/

namespace TripleRules.Expr

/-- Conjunction of two outcomes: one false side decides. -/
def both : Except EvalError Bool → Except EvalError Bool → Except EvalError Bool
  | .ok false, _ => .ok false
  | _, .ok false => .ok false
  | .ok true, .ok true => .ok true
  | .error e, _ => .error e
  | _, .error e => .error e

/-- Disjunction of two outcomes: one true side decides. -/
def either : Except EvalError Bool → Except EvalError Bool → Except EvalError Bool
  | .ok true, _ => .ok true
  | _, .ok true => .ok true
  | .ok false, .ok false => .ok false
  | .error e, _ => .error e
  | _, .error e => .error e

def read (b : Binding) (v : Variable) : Except EvalError Term :=
  match b.get? v with
  | some t => .ok t
  | none => .error (.unboundVariable v)

mutual

def eval (functions : FunctionRegistry) (b : Binding) : Expr → Except EvalError Term
  -- a variable is read wherever it stands
  | .constant (.variable v) => read b v
  | .constant t => .ok t
  | .var v => read b v
  | .not e => do
    let value ← (eval functions b e).bind Term.truth
    return .ofBool !value
  | .and l r => do
    let value ← both ((eval functions b l).bind Term.truth) ((eval functions b r).bind Term.truth)
    return .ofBool value
  | .or l r => do
    let value ← either ((eval functions b l).bind Term.truth) ((eval functions b r).bind Term.truth)
    return .ofBool value
  | .compare op l r => do
    let left ← eval functions b l
    let right ← eval functions b r
    return .ofBool (← Term.compareBy op left right)
  | .arith op l r => do
    let left ← eval functions b l
    let right ← eval functions b r
    Term.arithmetic op left right
  | .call function args => do
    functions.call function (← evalList functions b args)

def evalList (functions : FunctionRegistry) (b : Binding) :
    List Expr → Except EvalError (List Term)
  | [] => .ok []
  | e :: rest => do
    let value ← eval functions b e
    return value :: (← evalList functions b rest)

end

def condition (functions : FunctionRegistry) (b : Binding) (e : Expr) : Except EvalError Bool :=
  (e.eval functions b).bind Term.truth

end TripleRules.Expr
