import TripleRules.Json.Basic
import TripleRules.Json.Token

/-!
# Reading JSON

The reader takes one token after the other and keeps the arrays and objects that
are still open, innermost first. It accepts exactly one document.
-/

namespace TripleRules.Json

/-- An array or object that is still open, with its parts so far, last first. A key
waits for its value. -/
inductive Frame where
  | array (done : List Json)
  | object (done : List (Option String × Json)) (key : Option String)

inductive Expected where
  | value
  /-- The first item of an array, or its end. -/
  | item
  /-- The first key of an object, or its end. -/
  | firstKey
  | key
  | colon
  /-- A comma, or the end of the innermost array or object. -/
  | rest

structure Reader where
  frames : List Frame := []
  expected : Expected := .value
  result : Option Json := none

namespace Reader

def put (frames : List Frame) (j : Json) : Reader :=
  match frames with
  | [] => ⟨[], .rest, some j⟩
  | .array done :: frames => ⟨.array (j :: done) :: frames, .rest, none⟩
  | .object done key :: frames => ⟨.object ((key, j) :: done) none :: frames, .rest, none⟩

def value (frames : List Frame) : Token → Option Reader
  | .null => some (put frames .null)
  | .bool b => some (put frames (.bool b))
  | .number numeral => some (put frames (.number numeral))
  | .text s => some (put frames (.text s))
  | .openArray => some ⟨.array [] :: frames, .item, none⟩
  | .openObject => some ⟨.object [] none :: frames, .firstKey, none⟩
  | _ => none

def next (r : Reader) (t : Token) : Option Reader :=
  match r.expected, t, r.frames with
  | .item, .closeArray, .array done :: frames => some (put frames (.array done.reverse))
  | .rest, .closeArray, .array done :: frames => some (put frames (.array done.reverse))
  | .firstKey, .closeObject, .object done _ :: frames => some (put frames (.object done.reverse))
  | .rest, .closeObject, .object done _ :: frames => some (put frames (.object done.reverse))
  | .rest, .comma, .array done :: frames => some ⟨.array done :: frames, .value, none⟩
  | .rest, .comma, .object done key :: frames => some ⟨.object done key :: frames, .key, none⟩
  | .firstKey, .text key, .object done _ :: frames => some ⟨.object done key :: frames, .colon, none⟩
  | .key, .text key, .object done _ :: frames => some ⟨.object done key :: frames, .colon, none⟩
  | .colon, .colon, frames => some ⟨frames, .value, none⟩
  | .value, t, frames => value frames t
  | .item, t, frames => value frames t
  | _, _, _ => none

end Reader

def ofText? (s : String) : Option Json := do
  let tokens ← Token.scan s.toList
  (← tokens.foldlM Reader.next {}).result

end TripleRules.Json
