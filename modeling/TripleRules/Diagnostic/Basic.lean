import TripleRules.Dictionary

/-!
# Diagnostics

A diagnostic is the report of a failure: a code, a message, and whatever is
known of the circumstances. Codes are grouped by their thousands.
-/

namespace TripleRules

namespace Diagnostic

inductive Code where
  /-- A variable is used before it is bound, or bound twice. -/
  | notWellFormed
  /-- A cycle of dependencies passes through a negation. -/
  | illegalRecursion
  /-- A stratum needed more rounds than it may take. -/
  | roundLimitExceeded
  | configError
  | configNotFound
  | invalidConfig
  | unknownProfile
  | internalError
  /-- A template kept a variable. -/
  | internalConsistency
  /-- Strata did not settle in time. -/
  | stratumBoundExceeded
  deriving DecidableEq, Repr

inductive Category where
  | ruleDefinition | evaluation | config | internal
  deriving DecidableEq, Repr

namespace Code

def all : List Code := [
  .notWellFormed, .illegalRecursion, .roundLimitExceeded, .configError, .configNotFound,
  .invalidConfig, .unknownProfile, .internalError, .internalConsistency, .stratumBoundExceeded]

def number : Code → Nat
  | .notWellFormed => 1001
  | .illegalRecursion => 1002
  | .roundLimitExceeded => 2001
  | .configError => 7000
  | .configNotFound => 7001
  | .invalidConfig => 7002
  | .unknownProfile => 7003
  | .internalError => 9000
  | .internalConsistency => 9001
  | .stratumBoundExceeded => 9002

def description : Code → String
  | .notWellFormed => "Rule is not well-formed"
  | .illegalRecursion => "Recursion through negation"
  | .roundLimitExceeded => "Round limit exceeded"
  | .configError => "Configuration error"
  | .configNotFound => "Configuration file not found"
  | .invalidConfig => "Invalid configuration syntax"
  | .unknownProfile => "Unknown profile"
  | .internalError => "Internal error"
  | .internalConsistency => "Internal consistency failure"
  | .stratumBoundExceeded => "Stratum bound exceeded"

def identifier : Code → String
  | .notWellFormed => "NOT_WELL_FORMED"
  | .illegalRecursion => "ILLEGAL_RECURSION"
  | .roundLimitExceeded => "ROUND_LIMIT_EXCEEDED"
  | .configError => "CONFIG_ERROR"
  | .configNotFound => "CONFIG_NOT_FOUND"
  | .invalidConfig => "INVALID_CONFIG_SYNTAX"
  | .unknownProfile => "UNKNOWN_PROFILE"
  | .internalError => "INTERNAL_ERROR"
  | .internalConsistency => "INTERNAL_CONSISTENCY"
  | .stratumBoundExceeded => "STRATUM_BOUND_EXCEEDED"

def ofIdentifier? (s : String) : Option Code := all.find? (·.identifier = s)

/-- The group of a code, by its thousands. -/
def category (c : Code) : Category :=
  match c.number / 1000 with
  | 1 => .ruleDefinition
  | 2 => .evaluation
  | 7 => .config
  | _ => .internal

end Code

def Category.identifier : Category → String
  | .ruleDefinition => "rule_definition"
  | .evaluation => "evaluation"
  | .config => "config"
  | .internal => "internal"

/-- The circumstances of a failure: named fields, a place, and the causes behind it. -/
structure Context where
  fields : Dictionary String := .empty
  location : Option String := none
  causes : List String := []
  deriving DecidableEq, Repr

end Diagnostic

structure Diagnostic where
  code : Diagnostic.Code
  message : String
  context : Option Diagnostic.Context := none
  hint : Option String := none
  deriving DecidableEq, Repr

namespace Diagnostic

def new (code : Code) (message : String) : Diagnostic := { code, message }

def withCode (d : Diagnostic) (code : Code) : Diagnostic := { d with code }

private def updateContext (d : Diagnostic) (f : Context → Context) : Diagnostic :=
  { d with context := some (f (d.context.getD {})) }

def withField (d : Diagnostic) (key value : String) : Diagnostic :=
  d.updateContext fun c => { c with fields := c.fields.insert key value }

def withCause (d : Diagnostic) (cause : String) : Diagnostic :=
  d.updateContext fun c => { c with causes := c.causes ++ [cause] }

def withLocation (d : Diagnostic) (location : String) : Diagnostic :=
  d.updateContext fun c => { c with location := some location }

def withHint (d : Diagnostic) (hint : String) : Diagnostic := { d with hint := some hint }

def field? (d : Diagnostic) (key : String) : Option String :=
  d.context.bind fun c => c.fields.get? key

def category (d : Diagnostic) : Category := d.code.category

/-- Whether rules or configuration are to blame, and not the engine itself. -/
def isUserError (d : Diagnostic) : Bool := d.category ≠ .internal

/-- The report as text: number, message and place, then fields, causes and the hint on lines of their own. -/
def display (d : Diagnostic) : String :=
  let circumstances := match d.context with
    | none => ""
    | some c =>
      (c.location.map (" at " ++ ·)).getD "" ++
      String.join (c.fields.entries.map fun e => "\n  " ++ e.1 ++ ": " ++ e.2) ++
      (if c.causes.isEmpty then ""
       else "\nCaused by:" ++ String.join (c.causes.map ("\n  - " ++ ·)))
  "[" ++ toString d.code.number ++ "] " ++ d.message ++ circumstances ++
    (d.hint.map ("\nHint: " ++ ·)).getD ""

end Diagnostic

end TripleRules
