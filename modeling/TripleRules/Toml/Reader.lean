import TripleRules.Toml.Table
import TripleRules.Toml.Text

/-!
# Reading TOML

Every reader takes the text from where it stands and gives what it has read
with the text that follows, or nothing. Lists are read at most one item for
each character, so the length of the text bounds them; arrays and tables within
one another, and the parts of a key, are bounded by `maxDepth`.
-/

namespace TripleRules.Toml

/-- How many arrays and tables may be open at once, and how many parts a key may have. -/
def maxDepth : Nat := 79

-- ---------------------------------------------------------------------------
-- Between the words
-- ---------------------------------------------------------------------------

def skipBlanks (cs : List Char) : List Char := cs.dropWhile isBlank

/-- What follows blanks, line ends and comments. A comment ends with its line. -/
def skipLines (comment : Bool) : List Char → List Char
  | [] => []
  | c :: rest =>
    if c = '\n' then skipLines false rest
    else if c = '\r' && atLineEnd (c :: rest) then skipLines comment rest
    else if comment then if isPlain c then skipLines true rest else c :: rest
    else if isBlank c then skipLines false rest
    else if c = '#' then skipLines true rest
    else c :: rest

def lineEnd? (cs : List Char) : Option (List Char) :=
  let rest := skipBlanks cs
  if rest.isEmpty || atLineEnd rest || rest.head? = some '#' then some rest else none

-- ---------------------------------------------------------------------------
-- Keys
-- ---------------------------------------------------------------------------

def key? : Nat → List Char → Option (Key × List Char)
  | 0, _ => none
  | parts + 1, cs => do
    let (name, rest) ← keyPart? (skipBlanks cs)
    match skipBlanks rest with
    | '.' :: rest =>
      let (k, rest) ← key? parts rest
      return (⟨String.ofList name :: k.path, k.name⟩, rest)
    | rest => return (⟨[], String.ofList name⟩, rest)

def assignment? (value : List Char → Option (Value × List Char)) (cs : List Char) :
    Option ((Key × Value) × List Char) := do
  let (k, rest) ← key? maxDepth cs
  let (v, rest) ← value (skipBlanks (← mark? '=' rest))
  return ((k, v), skipBlanks rest)

-- ---------------------------------------------------------------------------
-- Values
-- ---------------------------------------------------------------------------

def isWordChar (c : Char) : Bool :=
  c.isAlphanum || c = '_' || c = '+' || c = '-' || c = '.' || c = ':'

/-- A word with its value. A date and a time may be two words. -/
def word? (cs : List Char) : Option (Value × List Char) := do
  let word := cs.takeWhile isWordChar
  let rest := cs.dropWhile isWordChar
  match rest with
  | ' ' :: next =>
    let time := next.takeWhile isWordChar
    if isDate word && isZonedTime time then
      return (.moment (String.ofList (word ++ ' ' :: time)), next.dropWhile isWordChar)
    else return (← Value.ofWord? word, rest)
  | rest => return (← Value.ofWord? word, rest)

def scalar? (cs : List Char) : Option (Value × List Char) :=
  if cs.head? = some '"' || cs.head? = some '\'' then
    (text? cs).map fun p => (.text (String.ofList p.1), p.2)
  else word? cs

/-- The items of an array, from behind its opening bracket; a comma may follow the last one. -/
def items? (value : List Char → Option (Value × List Char)) :
    Nat → List Char → Option (List Value × List Char)
  | 0, _ => none
  | most + 1, cs => match skipLines false cs with
    | ']' :: rest => some ([], rest)
    | cs => do
      let (v, rest) ← value cs
      match skipLines false rest with
      | ',' :: rest =>
        let (vs, rest) ← items? value most rest
        return (v :: vs, rest)
      | ']' :: rest => return ([v], rest)
      | _ => none

/-- The assignments of a table on one line, of which there is at least one. -/
def members? (value : List Char → Option (Value × List Char)) :
    Nat → List Char → Option (List (Key × Value) × List Char)
  | 0, _ => none
  | most + 1, cs => do
    let (a, rest) ← assignment? value cs
    match rest with
    | ',' :: rest =>
      let (more, rest) ← members? value most rest
      return (a :: more, rest)
    | '\x7d' :: rest => return ([a], rest)
    | _ => none

/-- A value in which at most that many arrays and tables are open at once. -/
def value? : Nat → List Char → Option (Value × List Char)
  | 0 => scalar?
  | depth + 1 => fun cs => match cs with
    | '[' :: rest => (items? (value? depth) (rest.length + 1) rest).map fun p => (.array p.1, p.2)
    | '\x7b' :: rest => match skipBlanks rest with
      | '\x7d' :: rest => some (.table [], rest)
      | _ => do
        let (assignments, rest) ← members? (value? depth) (rest.length + 1) rest
        return (← Value.ofAssignments? assignments, rest)
    | cs => scalar? cs

-- ---------------------------------------------------------------------------
-- Statements
-- ---------------------------------------------------------------------------

def statement? (cs : List Char) : Option (Statement × List Char) :=
  match cs with
  | '[' :: '[' :: rest => do
    let (k, rest) ← key? maxDepth rest
    let rest ← lineEnd? (← mark? ']' (← mark? ']' rest))
    return (.element k, rest)
  | '[' :: rest => do
    let (k, rest) ← key? maxDepth rest
    let rest ← lineEnd? (← mark? ']' rest)
    return (.header k, rest)
  | cs => do
    let ((k, v), rest) ← assignment? (value? maxDepth) cs
    return (.assignment k v, ← lineEnd? rest)

def statements? : Nat → List Char → Option (List Statement)
  | 0, _ => none
  | most + 1, cs => match skipLines false cs with
    | [] => some []
    | cs => do
      let (s, rest) ← statement? cs
      return s :: (← statements? most rest)

/-- The table that a text is. A byte order mark may stand in front. -/
def Value.ofText? (s : String) : Option Value := do
  let cs := match s.toList with
    | '\uFEFF' :: rest => rest
    | cs => cs
  Value.ofStatements? (← statements? (cs.length + 1) cs)

end TripleRules.Toml
