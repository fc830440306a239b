import TripleRules.Toml.Table
import TripleRules.Toml.Text

/-!
# Writing sections

A document of settings is a row of sections, with a blank line between them. A
section is a header with assignments of single words or texts, one on each line.
Integers beyond sixty-four bits cannot be written.
-/

namespace TripleRules.Toml

inductive Scalar where
  | text (s : String)
  | integer (i : Int)
  | boolean (b : Bool)
  deriving DecidableEq, Repr

namespace Scalar

def toValue : Scalar → Value
  | .text s => .text s
  | .integer i => .integer i
  | .boolean b => .boolean b

def write? : Scalar → Option (List Char)
  | .text s => some (writeText s)
  | .integer i => (Number.checked i).map fun i => (toString i).toList
  | .boolean b => some (if b then "true".toList else "false".toList)

end Scalar

structure Section where
  key : Key
  entries : List (String × Scalar)
  deriving DecidableEq, Repr

namespace Section

def statements (s : Section) : List Statement :=
  .header s.key :: s.entries.map fun e => .assignment ⟨[], e.1⟩ e.2.toValue

def writeHeader (k : Key) : List Char :=
  '[' :: k.path.flatMap (fun part => writeKeyPart part ++ ['.']) ++ writeKeyPart k.name ++
    [']', '\n']

def writeEntries? : List (String × Scalar) → Option (List Char)
  | [] => some []
  | (name, v) :: rest => do
    return writeKeyPart name ++ [' ', '=', ' '] ++ (← v.write?) ++ '\n' :: (← writeEntries? rest)

def write? (s : Section) : Option (List Char) := do
  return writeHeader s.key ++ (← writeEntries? s.entries)

def writeAll? : List Section → Option (List Char)
  | [] => some []
  | [s] => s.write?
  | s :: rest => do return (← s.write?) ++ '\n' :: (← writeAll? rest)

end Section

end TripleRules.Toml
