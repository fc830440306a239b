import TripleRules.Rule.RuleSet

/-!
# Dependencies between rules

A rule depends on another when one of its patterns could match a triple that a
template of the other produces. Places are compared one by one, and a variable
on either side agrees with anything; so a dependency may be listed that no
derivation uses, but none is missing. Patterns inside a negation, at any depth,
make negative dependencies.
-/

namespace TripleRules

/-- Whether a dependency passes through a negation. -/
inductive Sign where
  | positive | negative
  deriving DecidableEq, Repr

def Sign.display : Sign → String
  | .positive => "+"
  | .negative => "-"

structure Edge where
  rule : RuleId
  sign : Sign
  provider : RuleId
  deriving DecidableEq, Repr

namespace Dependency

/-- Whether two terms could become the same. -/
def compatible (a b : Term) : Bool := a.isVariable || b.isVariable || a = b

/-- Whether a template could produce a triple that a pattern matches. -/
def overlaps (pattern template : Triple) : Bool :=
  compatible pattern.predicate template.predicate &&
    compatible pattern.subject template.subject && compatible pattern.object template.object

mutual

/-- The patterns of an element with their signs. Inside a negation all are negative. -/
def signedPatterns (sign : Sign) : BodyElement → List (Sign × Triple)
  | .pattern t => [(sign, t)]
  | .condition _ => []
  | .assignment .. => []
  | .negation body => signedPatternsOfBody .negative body

def signedPatternsOfBody (sign : Sign) : List BodyElement → List (Sign × Triple)
  | [] => []
  | e :: rest => signedPatterns sign e ++ signedPatternsOfBody sign rest

end

def providers (rules : List Rule) (pattern : Triple) : List RuleId :=
  (rules.filter fun r => r.head.any (overlaps pattern)).map Rule.id

/-- The edges out of a rule: pattern by pattern, and each sign and provider once. -/
def edgesOf (rules : List Rule) (r : Rule) : List Edge :=
  ((signedPatternsOfBody .positive r.body).flatMap fun p =>
    (providers rules p.2).map fun provider => (⟨r.id, p.1, provider⟩ : Edge)).eraseDups

end Dependency

structure DependencyGraph where
  entries : List (RuleId × List Edge)

namespace DependencyGraph

def ofRules (s : RuleSet) : DependencyGraph :=
  ⟨s.rules.map fun r => (r.id, Dependency.edgesOf s.rules r)⟩

def nodes (g : DependencyGraph) : List RuleId := g.entries.map Prod.fst

def contains (g : DependencyGraph) (id : RuleId) : Bool := id ∈ g.nodes

def edgesFrom (g : DependencyGraph) (id : RuleId) : List Edge := (g.entries.lookup id).getD []

def edges (g : DependencyGraph) : List Edge := g.entries.flatMap Prod.snd

/-- Whether a rule of the graph reads no triple that a rule could derive. -/
def isIndependent (g : DependencyGraph) (id : RuleId) : Bool :=
  g.contains id && (g.edgesFrom id).isEmpty

def independent (g : DependencyGraph) : List RuleId := g.nodes.filter g.isIndependent

def successors (g : DependencyGraph) (id : RuleId) : List RuleId :=
  (g.edgesFrom id).map Edge.provider

end DependencyGraph

end TripleRules
