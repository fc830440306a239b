/-!
# JSON documents

Numbers are kept as they are written, and objects keep their members in order
with repetitions. A text read from a document may be half of a pair of
surrogates, which is no character; such a text counts as JSON but has no value.

Documents are written on one line, or with every member and item on a line of
its own, indented by two spaces for every level.
-/

namespace TripleRules

inductive Json where
  | null
  | bool (b : Bool)
  | number (numeral : String)
  | text (s : Option String)
  | array (items : List Json)
  | object (members : List (Option String × Json))

namespace Json

def ofString (s : String) : Json := .text (some s)

def ofStrings (ss : List String) : Json := .array (ss.map ofString)

def ofMembers (members : List (String × Json)) : Json :=
  .object (members.map fun m => (some m.1, m.2))

def string? : Json → Option String
  | .text s => s
  | _ => none

def strings? : Json → Option (List String)
  | .array items => items.mapM string?
  | _ => none

def stringMembers? : Json → Option (List (String × String))
  | .object members => members.mapM fun m => do return (← m.1, ← m.2.string?)
  | _ => none

/-- What a record holds under its names: an object with each name at most once, or an
array that lists values in the order of the names and may stop early. Other members
of an object are passed over. -/
def record? (names : List String) : Json → Option (String → Option Json)
  | .object members =>
    let keys := members.map Prod.fst
    if none ∉ keys ∧ names.all (fun name => keys.count (some name) ≤ 1) then
      some fun name => members.lookup (some name)
    else none
  | .array items =>
    if items.length ≤ names.length then some fun name => (names.zip items).lookup name else none
  | _ => none

-- ---------------------------------------------------------------------------
-- Writing
-- ---------------------------------------------------------------------------

def escape (c : Char) : List Char :=
  match c with
  | '"' => ['\\', '"']
  | '\\' => ['\\', '\\']
  | '\n' => ['\\', 'n']
  | '\r' => ['\\', 'r']
  | '\t' => ['\\', 't']
  | '\x08' => ['\\', 'b']
  | '\x0c' => ['\\', 'f']
  | c =>
    if c.toNat < 0x20 then
      ['\\', 'u', '0', '0', Nat.digitChar (c.toNat / 16), Nat.digitChar (c.toNat % 16)]
    else [c]

def quote (s : String) : String := String.ofList ('"' :: s.toList.flatMap escape ++ ['"'])

structure Style where
  /-- The break before an item or a closing mark, at a depth. -/
  lineBreak : Nat → String
  colon : String

def Style.compact : Style := ⟨fun _ => "", ":"⟩

def Style.indented : Style :=
  ⟨fun depth => "\n" ++ String.ofList (List.replicate (2 * depth) ' '), ": "⟩

def enclose (style : Style) (depth : Nat) (first last : String) (parts : List String) : String :=
  if parts.isEmpty then first ++ last
  else
    first ++ ",".intercalate (parts.map (style.lineBreak (depth + 1) ++ ·)) ++
      style.lineBreak depth ++ last

mutual

/-- A document as text; `depth` counts the arrays and objects around it. -/
def write (style : Style) (depth : Nat) : Json → String
  | .null => "null"
  | .bool b => if b then "true" else "false"
  | .number numeral => numeral
  | .text s => quote (s.getD "")
  | .array items => enclose style depth "[" "]" (writeItems style (depth + 1) items)
  | .object members => enclose style depth "\x7b" "\x7d" (writeMembers style (depth + 1) members)

def writeItems (style : Style) (depth : Nat) : List Json → List String
  | [] => []
  | j :: rest => write style depth j :: writeItems style depth rest

def writeMembers (style : Style) (depth : Nat) : List (Option String × Json) → List String
  | [] => []
  | (key, j) :: rest =>
    (quote (key.getD "") ++ style.colon ++ write style depth j) :: writeMembers style depth rest

end

def compact (j : Json) : String := j.write .compact 0

def pretty (j : Json) : String := j.write .indented 0

end Json

end TripleRules
