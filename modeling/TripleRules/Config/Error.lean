import TripleRules.Diagnostic.Basic
import TripleRules.Text.Quoted

/-!
# Failures of configuration
-/

namespace TripleRules

structure FileError where
  missing : Bool
  reason : String
  deriving DecidableEq, Repr

def FileError.diagnostic (e : FileError) : Diagnostic :=
  .new (if e.missing then .configNotFound else .configError) e.reason

/-- Why a configuration cannot be loaded, changed or saved. A reason tells the details
where they are known. -/
inductive ConfigError where
  | notFound (path : String)
  | unusable (path : String) (reason : Option String)
  | malformed (path : String) (reason : Option String)
  /-- A setting that documents have no notation for. -/
  | unwritable (reason : Option String)
  | unknownProfile (name : String)
  | invalidValue (key value : String)
  deriving DecidableEq, Repr

namespace ConfigError

private def because (message : String) (reason : Option String) : String :=
  message ++ (reason.map (": " ++ ·)).getD ""

def message : ConfigError → String
  | .notFound path => "Config file not found: " ++ path
  | .unusable path reason => because ("IO error reading " ++ path) reason
  | .malformed path reason => because ("Parse error in " ++ path) reason
  | .unwritable reason => because "Serialization error" reason
  | .unknownProfile name => "Unknown profile: " ++ name
  | .invalidValue key value => "Invalid value for " ++ key ++ ": " ++ Text.quoted value

def code : ConfigError → Diagnostic.Code
  | .notFound _ => .configNotFound
  | .malformed .. => .invalidConfig
  | .unknownProfile _ => .unknownProfile
  | .unusable .. | .unwritable _ | .invalidValue .. => .configError

def hint? : ConfigError → Option String
  | .unknownProfile _ => some "Available profiles: default, strict, debug"
  | _ => none

def diagnostic (e : ConfigError) : Diagnostic := { Diagnostic.new e.code e.message with hint := e.hint? }

end ConfigError

def Diagnostic.malformedDocument (reason : String) : Diagnostic :=
  (Diagnostic.new .configError reason).withCode .invalidConfig

end TripleRules
