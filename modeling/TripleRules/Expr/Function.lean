import TripleRules.Expr.Numeric
import TripleRules.Text.Quoted

/-!
# Functions of expressions

Functions are called by name, whatever its case, on arguments that already have
values. The number of arguments is checked before a function sees them.
-/

namespace TripleRules

structure Function where
  arity : Arity
  apply : List Term → Except EvalError Term

/-- Functions by their names in lower case, each name once. -/
structure FunctionRegistry where
  entries : List (String × Function)

namespace FunctionRegistry

def empty : FunctionRegistry := ⟨[]⟩

/-- Entries with a function put in the place of the one of that name, or at the end. -/
def put (name : String) (f : Function) : List (String × Function) → List (String × Function)
  | [] => [(name, f)]
  | e :: rest => if e.1 = name then (name, f) :: rest else e :: put name f rest

def register (r : FunctionRegistry) (name : String) (f : Function) : FunctionRegistry :=
  ⟨put (Text.lower name) f r.entries⟩

def get? (r : FunctionRegistry) (name : String) : Option Function :=
  r.entries.lookup (Text.lower name)

def contains (r : FunctionRegistry) (name : String) : Bool := (r.get? name).isSome

def size (r : FunctionRegistry) : Nat := r.entries.length

def isEmpty (r : FunctionRegistry) : Bool := r.entries.isEmpty

/-- Call a function by name. Failures name it as the caller does. -/
def call (r : FunctionRegistry) (name : String) (args : List Term) : Except EvalError Term :=
  match r.get? name with
  | none => .error (.unknownFunction name)
  | some f =>
    if f.arity.accepts args.length then f.apply args
    else .error (.wrongArity name f.arity args.length)

def display (r : FunctionRegistry) : String :=
  let names := (r.entries.map Prod.fst).mergeSort (fun a b => decide (a ≤ b))
  "FunctionRegistry \x7b functions: [" ++ ", ".intercalate (names.map Text.quoted) ++ "] \x7d"

end FunctionRegistry

end TripleRules
