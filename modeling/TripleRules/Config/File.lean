import TripleRules.Config.Document

/-!
# Files of configurations

The first file that exists among the usual places is read, and then overrides
are applied. Reading and writing themselves happen outside; here it is settled
which paths are tried and what becomes of the outcome.
-/

namespace TripleRules.Config

def within (folder name : String) : String :=
  if folder.isEmpty || folder.back = '/' then folder ++ name else folder ++ "/" ++ name

def pathsIn (configFolder home : String) : List String := [
  "./strata.toml",
  within (within configFolder "strata") "config.toml",
  within (within home ".strata") "config.toml",
  "/etc/strata/config.toml"]

/-- The paths that are tried for a user. Another folder of configurations can be named
by an absolute path. -/
def searchPaths (home : String) (configFolder : Option String) : List String :=
  match configFolder.filter (·.startsWith "/") with
  | some folder => pathsIn folder home
  | none => pathsIn (within home ".config") home

def parse (path text : String) (format : Toml.Format := .standard) : Except ConfigError Config :=
  match ofText? text format with
  | some c => .ok c
  | none => .error (.malformed path none)

def ofString (text : String) (format : Toml.Format := .standard) : Except ConfigError Config :=
  parse "<string>" text format

def ofFile (path : String) (outcome : Except FileError String)
    (format : Toml.Format := .standard) : Except ConfigError Config :=
  match outcome with
  | .ok text => parse path text format
  | .error e => .error (if e.missing then .notFound path else .unusable path e.reason)

/-- Save a configuration; `write` is told the text and says whether writing it failed. -/
def save (c : Config) (path : String) (write : String → Option FileError)
    (format : Toml.Format := .standard) : Except ConfigError Unit := do
  match write (← c.toText format) with
  | some e => .error (.unusable path e.reason)
  | none => .ok ()

/-- The configuration in force: that of the first path with a file, or the default one,
with overrides applied. -/
def load (paths : List String) (read : String → Option String)
    (environment : String → Option String) (format : Toml.Format := .standard) :
    Except ConfigError Config := do
  let c ← match paths.findSome? fun path => (read path).map (path, ·) with
    | some (path, text) => parse path text format
    | none => .ok {}
  match c.applyOverrides environment with
  | (c, none) => .ok c
  | (_, some e) => .error e

def defaultText : String := "# strata configuration file

[general]
# Logging level: quiet, normal, verbose, debug
log_level = \"normal\"
# Engine profile: default, strict, debug
profile = \"default\"

[engine]
# Log triple counts after every round and stratum
trace = false
# Maximum rounds a single stratum may take (0 = unlimited)
max_rounds_per_stratum = 0

# Custom profiles can be defined like this:
# [profiles.ci]
# max_rounds_per_stratum = 500
# trace = true
# log_level = \"verbose\"
# description = \"Bounded runs for CI\"
"

end TripleRules.Config
