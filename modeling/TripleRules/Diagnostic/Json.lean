import TripleRules.Diagnostic.Basic
import TripleRules.Json.Reader

/-!
# Diagnostics as documents

A report is written with its parts in a fixed order, and empty parts are left
out. It is read back from an object or from an array of its parts in order. What
may be missing when it is read: the circumstances and each of their parts, and
the hint.
-/

namespace TripleRules

namespace Diagnostic

def Context.toJson (c : Context) : Json :=
  .ofMembers (
    (if c.fields.isEmpty then []
     else [("fields", .ofMembers (c.fields.entries.map fun f => (f.1, .ofString f.2)))]) ++
    (c.location.map fun l => ("location", Json.ofString l)).toList ++
    (if c.causes.isEmpty then [] else [("causes", .ofStrings c.causes)]))

def toJson (d : Diagnostic) : Json :=
  .ofMembers (
    [("code", .ofString d.code.identifier), ("message", .ofString d.message)] ++
    (d.context.map fun c => ("context", c.toJson)).toList ++
    (d.hint.map fun h => ("hint", Json.ofString h)).toList)

/-- A code, spelled out or as the key of an empty member. -/
def Code.ofJson? : Json → Option Code
  | .text (some s) => ofIdentifier? s
  | .object [(some s, .null)] => ofIdentifier? s
  | _ => none

private def nullable {α : Type} (read : Json → Option α) : Option Json → Option (Option α)
  | none | some .null => some none
  | some j => (read j).map some

private def orElse {α : Type} (missing : α) (read : Json → Option α) : Option Json → Option α
  | none => some missing
  | some j => read j

/-- Circumstances from a document. Of several fields with one key the last counts. -/
def Context.ofJson? (j : Json) : Option Context := do
  let part ← j.record? ["fields", "location", "causes"]
  let fields ← orElse [] Json.stringMembers? (part "fields")
  let location ← nullable Json.string? (part "location")
  let causes ← orElse [] Json.strings? (part "causes")
  return ⟨.ofList fields, location, causes⟩

def ofJson? (j : Json) : Option Diagnostic := do
  let part ← j.record? ["code", "message", "context", "hint"]
  let code ← part "code" >>= Code.ofJson?
  let message ← part "message" >>= Json.string?
  let context ← nullable Context.ofJson? (part "context")
  let hint ← nullable Json.string? (part "hint")
  return ⟨code, message, context, hint⟩

def ofJsonText? (s : String) : Option Diagnostic := Json.ofText? s >>= ofJson?

end Diagnostic

end TripleRules
