import TripleRules.Diagnostic.Basic
import TripleRules.Expr.Eval
import TripleRules.Graph.Layered
import TripleRules.Rule.Basic

/-!
# Solutions of bodies

The elements of a body transform a list of bindings from left to right. A
pattern replaces every binding by its extensions to matching triples, an
assignment extends or drops it, and a condition or a negation keeps or drops it.
A failing expression is never true and has no value to assign.
-/

namespace TripleRules

namespace Body

/-- The extensions of a binding that make a pattern a triple of the graph. -/
def matchPattern (g : Graph) (b : Binding) (pattern : Triple) : List Binding :=
  let bound := b.substitute pattern
  (g.find bound.slots).filterMap (b.matchTriple bound)

def holds (functions : FunctionRegistry) (e : Expr) (b : Binding) : Bool :=
  match e.condition functions b with
  | .ok value => value
  | .error _ => false

/-- The binding with a variable given the value of an expression, if it has one. -/
def assign (functions : FunctionRegistry) (v : Variable) (e : Expr) (b : Binding) : Option Binding :=
  match e.eval functions b with
  | .ok value => b.extend v value
  | .error _ => none

mutual

def step (functions : FunctionRegistry) (g : Graph) : BodyElement → List Binding → List Binding
  | .pattern t, chain => chain.flatMap fun b => matchPattern g b t
  | .condition e, chain => chain.filter (holds functions e)
  | .assignment v e, chain => chain.filterMap (assign functions v e)
  | .negation body, chain => chain.filter fun b => (steps functions g body [b]).isEmpty

def steps (functions : FunctionRegistry) (g : Graph) : List BodyElement → List Binding → List Binding
  | [], chain => chain
  | e :: rest, chain => steps functions g rest (step functions g e chain)

end

/-- The extensions of a binding that satisfy a body, in the order they are found. -/
def solve (functions : FunctionRegistry) (g : Graph) (body : List BodyElement) (start : Binding) :
    List Binding :=
  steps functions g body [start]

end Body

structure OpenHead where
  rule : Rule
  binding : Binding
  triple : Triple

namespace Rule

def solutions (functions : FunctionRegistry) (g : Graph) (r : Rule) : List Binding :=
  Body.solve functions g r.body .empty

def instantiate (r : Rule) (b : Binding) : Except OpenHead (List Triple) :=
  r.head.mapM fun template =>
    let t := b.substitute template
    if t.isConcrete then .ok t else .error ⟨r, b, t⟩

end Rule

def OpenHead.diagnostic (e : OpenHead) : Diagnostic :=
  ((Diagnostic.new .internalConsistency
      ("head template instantiated with unbound variables: " ++ e.triple.display)).withField
    "rule" e.rule.display).withField "binding" e.binding.display

end TripleRules
