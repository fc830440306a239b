import TripleRules.Config.Basic
import TripleRules.Toml.Format

/-!
# Configurations as documents

A configuration is read from a document in some format. Every part may be missing and
then has its default value, and keys that mean nothing here are passed over. A section
is a table, or an array that lists its values in order; a date in its place says
nothing. A name is a text, or the key of an empty table or array.

It is written as a document of three tables. The order of the profiles in the last one
means nothing.
-/

namespace TripleRules

namespace Toml.Value

def parts? (names : List String) : Value → Option (String → Option Value)
  | .table entries => some fun name => entries.lookup name
  | .array items => some fun name => (names.zip items).lookup name
  | .moment _ => some fun _ => none
  | _ => none

def name? : Value → Option String
  | .text s => some s
  | .table [(name, .table [])] => some name
  | .table [(name, .array [])] => some name
  | _ => none

def flag? : Value → Option Bool
  | .boolean b => some b
  | _ => none

def count? : Value → Option Nat
  | .integer (.ofNat n) => some n
  | _ => none

def string? : Value → Option String
  | .text s => some s
  | _ => none

def entries? : Value → Option (List (String × Value))
  | .table entries => some entries
  | _ => none

end Toml.Value

open Toml (Value Scalar Document Format)

-- ---------------------------------------------------------------------------
-- Reading
-- ---------------------------------------------------------------------------

/-- A part that may be missing. -/
def ifPresent {α : Type} (read : Value → Option α) : Option Value → Option (Option α)
  | none => some none
  | some v => (read v).map some

def ProfileSettings.ofValue? (v : Value) : Option ProfileSettings := do
  let part ← v.parts? ["trace", "max_rounds_per_stratum", "log_level", "description"]
  return {
    trace := ← ifPresent Value.flag? (part "trace")
    maxRounds := ← ifPresent Value.count? (part "max_rounds_per_stratum")
    logLevel := ← ifPresent (fun v => v.name? >>= LogLevel.ofName?) (part "log_level")
    description := ← ifPresent Value.string? (part "description") }

def EngineSettings.ofValue? (v : Value) : Option EngineSettings := do
  let part ← v.parts? ["trace", "max_rounds_per_stratum"]
  let trace ← ifPresent Value.flag? (part "trace")
  let maxRounds ← ifPresent Value.count? (part "max_rounds_per_stratum")
  return ⟨trace.getD false, maxRounds.getD 0⟩

namespace Config

def generalOfValue? (v : Value) : Option (LogLevel × Profile) := do
  let part ← v.parts? ["log_level", "profile"]
  let level ← ifPresent (fun v => v.name? >>= LogLevel.ofName?) (part "log_level")
  let profile ← ifPresent (fun v => v.name? >>= Profile.ofName?) (part "profile")
  return (level.getD .normal, profile.getD .default)

def profilesOfValue? (v : Value) : Option (Dictionary ProfileSettings) := do
  let entries ← (← v.entries?).mapM fun e => do return (e.1, ← ProfileSettings.ofValue? e.2)
  return .ofList entries

def ofValue? (v : Value) : Option Config := do
  let part ← v.parts? ["general", "engine", "profiles"]
  let general ← ifPresent generalOfValue? (part "general")
  let engine ← ifPresent EngineSettings.ofValue? (part "engine")
  let profiles ← ifPresent profilesOfValue? (part "profiles")
  let (level, profile) := general.getD (.normal, .default)
  return ⟨level, profile, engine.getD {}, profiles.getD .empty⟩

def ofText? (s : String) (format : Format := .standard) : Option Config :=
  format.read? s >>= ofValue?

-- ---------------------------------------------------------------------------
-- Writing
-- ---------------------------------------------------------------------------

def profileEntries (s : ProfileSettings) : List (String × Scalar) :=
  (s.trace.map fun b => ("trace", Scalar.boolean b)).toList ++
  (s.maxRounds.map fun n => ("max_rounds_per_stratum", Scalar.integer n)).toList ++
  (s.logLevel.map fun l => ("log_level", Scalar.text l.name)).toList ++
  (s.description.map fun d => ("description", Scalar.text d)).toList

/-- A configuration as a document, with its profiles in the given order. -/
def documentWith (c : Config) (profiles : List (String × ProfileSettings)) : Document := [
  ("general", .fields [("log_level", .text c.logLevel.name), ("profile", .text c.profile.name)]),
  ("engine", .fields [("trace", .boolean c.engine.trace),
    ("max_rounds_per_stratum", .integer c.engine.maxRounds)]),
  ("profiles", .tables (profiles.map fun e => (e.1, profileEntries e.2)))]

def toText (c : Config) (format : Format := .standard) : Except ConfigError String :=
  match format.write? (c.documentWith c.profiles.entries) with
  | some text => .ok text
  | none => .error (.unwritable none)

end Config

end TripleRules
