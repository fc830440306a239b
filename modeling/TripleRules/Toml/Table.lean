import TripleRules.Toml.Value

/-!
# Tables of TOML

A document is built from its statements in order. Headers open tables, and
assignments fill the table that was opened last. Tables come to be in three ways:
a header declares one, a longer header implies those on its way, and a dotted
key makes those on its way. Which of them may be opened or filled again depends on
how they came to be: a declared table is declared once, an implied one may still
be declared, and a dotted one grows by dotted keys alone.
-/

namespace TripleRules.Toml

/-- The parts of a key: where it leads, and its last part. -/
structure Key where
  path : List String
  name : String
  deriving DecidableEq, Repr

def Key.parts (k : Key) : List String := k.path ++ [k.name]

inductive Origin where
  | declared | implied | dotted
  deriving DecidableEq, Repr

inductive Node where
  | value (v : Value)
  | table (origin : Origin) (entries : List (String × Node))
  /-- A list of declared tables, the last one apart. -/
  | tables (earlier : List (List (String × Node))) (last : List (String × Node))

abbrev Entries := List (String × Node)

namespace Entries

/-- Entries with another node under a key, which goes to the end if it is new. -/
def put (name : String) (node : Node) : Entries → Entries
  | [] => [(name, node)]
  | e :: rest => if e.1 = name then (name, node) :: rest else e :: put name node rest

/-- Change the table at the end of a path; tables on the way are made if need be. Dotted
keys stay clear of declared tables, and headers lead into the last table of a list. -/
def descend (dotted : Bool) (change : Origin → Entries → Option Entries) :
    List String → Origin → Entries → Option Entries
  | [], origin, entries => change origin entries
  | name :: path, _, entries =>
    match entries.lookup name with
    | none => do
      let origin : Origin := if dotted then .dotted else .implied
      return entries ++ [(name, .table origin (← descend dotted change path origin []))]
    | some (.value _) => none
    | some (.table origin inner) =>
      -- a declared table is complete with its own assignments
      if dotted && origin = .declared then none
      else do return entries.put name (.table origin (← descend dotted change path origin inner))
    | some (.tables earlier last) => do
      return entries.put name (.tables earlier (← descend dotted change path .declared last))

/-- Give a value to a key of a table. A key of one part cannot add to a dotted table, nor
a longer one to a table that no dotted key made. -/
def assign (k : Key) (v : Value) : Origin → Entries → Option Entries :=
  descend true (fun origin entries =>
    if (origin == .dotted) == k.path.isEmpty || (entries.lookup k.name).isSome then none
    else some (entries ++ [(k.name, .value v)])) k.path

def declare (k : Key) : Entries → Option Entries :=
  descend false (fun _ entries =>
    match entries.lookup k.name with
    | none => some (entries ++ [(k.name, .table .declared [])])
    | some (.table .implied inner) => some (entries.put k.name (.table .declared inner))
    | some _ => none) k.path .declared

def extend (k : Key) : Entries → Option Entries :=
  descend false (fun _ entries =>
    match entries.lookup k.name with
    | none => some (entries ++ [(k.name, .tables [] [])])
    | some (.tables earlier last) => some (entries.put k.name (.tables (earlier ++ [last]) []))
    | some _ => none) k.path .declared

end Entries

mutual

def Node.toValue : Node → Value
  | .value v => v
  | .table _ entries => .table (Entries.toValues entries)
  | .tables earlier last =>
    .array (Entries.toTables earlier ++ [.table (Entries.toValues last)])

def Entries.toValues : List (String × Node) → List (String × Value)
  | [] => []
  | (name, node) :: rest => (name, node.toValue) :: Entries.toValues rest

def Entries.toTables : List (List (String × Node)) → List Value
  | [] => []
  | entries :: rest => .table (Entries.toValues entries) :: Entries.toTables rest

end

def Value.ofAssignments? (assignments : List (Key × Value)) : Option Value := do
  let entries ← assignments.foldlM (fun entries a => Entries.assign a.1 a.2 .declared entries) []
  return .table (Entries.toValues entries)

-- ---------------------------------------------------------------------------
-- Documents
-- ---------------------------------------------------------------------------

inductive Statement where
  | header (k : Key)
  | element (k : Key)
  | assignment (k : Key) (v : Value)

/-- A document so far, with the table that was opened last. -/
structure Draft where
  entries : Entries := []
  current : List String := []

def Draft.add (d : Draft) : Statement → Option Draft
  | .header k => do return ⟨← Entries.declare k d.entries, k.parts⟩
  | .element k => do return ⟨← Entries.extend k d.entries, k.parts⟩
  | .assignment k v => do
    return { d with entries := ← Entries.descend false (Entries.assign k v) d.current .declared d.entries }

def Value.ofStatements? (statements : List Statement) : Option Value := do
  let d ← statements.foldlM Draft.add {}
  return .table (Entries.toValues d.entries)

end TripleRules.Toml
