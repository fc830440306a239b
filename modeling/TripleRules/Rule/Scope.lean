import TripleRules.Diagnostic.Basic
import TripleRules.Rule.RuleSet

/-!
# Scopes of rules

A rule is well-formed when every variable that a condition, an assignment or a
template reads has been bound before, and no assignment binds a variable again.
Patterns bind and never require. A negation sees the scope around it, and
nothing that it binds is visible after it.
-/

namespace TripleRules

inductive Place where
  | head | condition | assignment
  deriving DecidableEq, Repr

def Place.display : Place → String
  | .head => "head template"
  | .condition => "condition"
  | .assignment => "assignment"

inductive ScopeError where
  | unbound (v : Variable) (place : Place)
  | rebound (v : Variable)
  deriving DecidableEq, Repr

inductive Defect where
  | scope (rule : Rule) (e : ScopeError)
  | openData (t : Triple)

namespace Scope

def require (scope : List Variable) (place : Place) (vs : List Variable) :
    Except ScopeError Unit :=
  match vs.find? (· ∉ scope) with
  | some v => .error (.unbound v place)
  | none => .ok ()

mutual

def afterElement (scope : List Variable) : BodyElement → Except ScopeError (List Variable)
  | .pattern t => .ok (scope ++ t.vars)
  | .condition e => do
    require scope .condition e.vars
    return scope
  | .assignment v e => do
    require scope .assignment e.vars
    if v ∈ scope then throw (.rebound v)
    return scope ++ [v]
  | .negation body => do
    let _ ← afterBody scope body
    return scope

def afterBody (scope : List Variable) : List BodyElement → Except ScopeError (List Variable)
  | [] => .ok scope
  | e :: rest => do afterBody (← afterElement scope e) rest

end

def checkRule (r : Rule) : Except ScopeError Unit := do
  let scope ← afterBody [] r.body
  require scope .head (r.head.flatMap Triple.vars)

/-- Check the rules in their order, and then the data. -/
def checkRuleSet (s : RuleSet) : Except Defect Unit := do
  s.rules.forM fun r => (checkRule r).mapError (.scope r)
  match s.data.find? (!·.isConcrete) with
  | some t => throw (.openData t)
  | none => return ()

end Scope

def ScopeError.diagnostic (rule : Rule) : ScopeError → Diagnostic
  | .unbound v place =>
    ((Diagnostic.new .notWellFormed
        ("variable " ++ v.display ++ " in " ++ place.display ++ " is not bound")).withField
      "rule" rule.display).withField "variable" v.display
      |>.withHint "Bind the variable in a preceding triple pattern or assignment"
  | .rebound v =>
    ((Diagnostic.new .notWellFormed
        ("variable " ++ v.display ++ " is assigned but already bound")).withField
      "rule" rule.display).withField "variable" v.display

def Defect.diagnostic : Defect → Diagnostic
  | .scope rule e => e.diagnostic rule
  | .openData t =>
    (Diagnostic.new .notWellFormed "rule set data must be concrete").withField "triple" t.display

end TripleRules
