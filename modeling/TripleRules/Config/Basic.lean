import TripleRules.Config.Error
import TripleRules.Config.Level
import TripleRules.Engine.Settings
import TripleRules.Number.Integer

/-!
# Configurations

A configuration holds the log level, the settings of the engine, the profile that
these were taken from, and the profiles that the user defined. Applying a profile
changes the settings it speaks of; a built-in profile wins over a defined one of
the same name.

Overrides are applied in a fixed order, the profile first, so that single settings
win over it. The first one that is refused ends the series, and those before it
stay in force.
-/

namespace TripleRules

/-- A profile that the user defined: what is missing is left alone. -/
structure ProfileSettings where
  trace : Option Bool := none
  maxRounds : Option Nat := none
  logLevel : Option LogLevel := none
  description : Option String := none
  deriving DecidableEq, Repr

structure Config where
  logLevel : LogLevel := .normal
  profile : Profile := .default
  engine : EngineSettings := {}
  profiles : Dictionary ProfileSettings := .empty
  deriving DecidableEq, Repr

namespace Config

def applyBuiltIn (c : Config) (p : Profile) : Config :=
  { c with
    profile := p
    engine := ⟨p = .debug, p.maxRounds⟩
    logLevel := if p = .debug then .debug else c.logLevel }

def applyDefined (c : Config) (s : ProfileSettings) : Config :=
  { c with
    profile := .custom
    engine := ⟨s.trace.getD c.engine.trace, s.maxRounds.getD c.engine.maxRounds⟩
    logLevel := s.logLevel.getD c.logLevel }

/-- Apply a profile by name. Only built-in profiles have names in any case. -/
def applyProfile (c : Config) (name : String) : Except ConfigError Config :=
  match Profile.ofText? name with
  | some p => .ok (c.applyBuiltIn p)
  | none => match c.profiles.get? name with
    | some s => .ok (c.applyDefined s)
    | none => .error (.unknownProfile name)

def availableProfiles (c : Config) : List (String × String) :=
  ([.default, .strict, .debug] : List Profile).map (fun p => (p.name, p.description)) ++
    c.profiles.entries.map fun e => (e.1, e.2.description.getD "Custom profile")

-- ---------------------------------------------------------------------------
-- Overrides
-- ---------------------------------------------------------------------------

/-- A setting that is overridden from outside under some key. -/
structure Override where
  key : String
  apply : Config → String → Except ConfigError Config

/-- A change by what a value was read as; a value that could not be read is refused. -/
private def changeBy {α : Type} (key value : String) (read : Option α) (change : α → Config) :
    Except ConfigError Config :=
  match read with
  | some a => .ok (change a)
  | none => .error (.invalidValue key value)

def overrides : List Override := [
  ⟨"STRATA_PROFILE", applyProfile⟩,
  ⟨"STRATA_LOG_LEVEL", fun c value =>
    changeBy "STRATA_LOG_LEVEL" value (LogLevel.ofText? value) fun l => { c with logLevel := l }⟩,
  -- whatever does not mean yes means no
  ⟨"STRATA_TRACE", fun c value =>
    .ok { c with engine.trace := Text.lower value ∈ ["true", "1", "yes"] }⟩,
  ⟨"STRATA_MAX_ROUNDS", fun c value =>
    changeBy "STRATA_MAX_ROUNDS" value (Number.count? value) fun n =>
      { c with engine.maxRounds := n }⟩]

/-- Apply overrides until one is refused, and tell why it was. -/
def applyEach (lookup : String → Option String) (c : Config) :
    List Override → Config × Option ConfigError
  | [] => (c, none)
  | o :: rest => match lookup o.key with
    | none => applyEach lookup c rest
    | some value => match o.apply c value with
      | .ok c => applyEach lookup c rest
      | .error e => (c, some e)

def applyOverrides (c : Config) (lookup : String → Option String) : Config × Option ConfigError :=
  applyEach lookup c overrides

end Config

end TripleRules
