import TripleRules.Text.Case

/-!
# Log levels and profiles

Both are known by a name in lower case. What a user types may be in any case, and
may be one of a few shorter names.
-/

namespace TripleRules

inductive LogLevel where
  | quiet | normal | verbose | debug
  deriving DecidableEq, Repr

namespace LogLevel

def all : List LogLevel := [.quiet, .normal, .verbose, .debug]

def name : LogLevel → String
  | .quiet => "quiet"
  | .normal => "normal"
  | .verbose => "verbose"
  | .debug => "debug"

def ofName? (s : String) : Option LogLevel := all.find? (·.name = s)

/-- The level that a user means: a name, its first letter or its number, in any case. -/
def ofText? (s : String) : Option LogLevel :=
  match Text.lower s with
  | "quiet" | "q" | "0" => some .quiet
  | "normal" | "n" | "1" => some .normal
  | "verbose" | "v" | "2" => some .verbose
  | "debug" | "d" | "3" => some .debug
  | _ => none

def filter : LogLevel → String
  | .quiet => "error"
  | .normal => "info"
  | .verbose => "debug"
  | .debug => "trace"

end LogLevel

/-- Where the settings of the engine come from. -/
inductive Profile where
  | default
  | strict
  | debug
  | custom
  deriving DecidableEq, Repr

namespace Profile

def all : List Profile := [.default, .strict, .debug, .custom]

def name : Profile → String
  | .default => "default"
  | .strict => "strict"
  | .debug => "debug"
  | .custom => "custom"

def ofName? (s : String) : Option Profile := all.find? (·.name = s)

/-- The built-in profile that a user means. `custom` is not a name to choose. -/
def ofText? (s : String) : Option Profile :=
  match Text.lower s with
  | "default" | "" => some .default
  | "strict" | "bounded" => some .strict
  | "debug" | "trace" => some .debug
  | _ => none

/-- The limit on rounds that a profile sets; zero sets none. -/
def maxRounds : Profile → Nat
  | .strict => 10000
  | _ => 0

def description : Profile → String
  | .default => "Run every stratum to its fixpoint"
  | .strict => "Fail a stratum that needs more than 10000 rounds"
  | .debug => "Trace every round and log at debug level"
  | .custom => "User-defined profile"

end Profile

end TripleRules
