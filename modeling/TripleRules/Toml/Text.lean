import TripleRules.Text.Hex

/-!
# Texts of TOML

A text stands between quotes. Between double quotes a backslash begins an
escape; between single quotes every character stands for itself. Tripled quotes
open a text of several lines, whose first line end is left out and which may end
in one or two quotes of its own.

`TextStyle.ofText` chooses the style a text is written in: as few escapes as
possible, and of the styles without escapes the shortest.
-/

namespace TripleRules.Toml

def isBlank (c : Char) : Bool := c = ' ' || c = '\t'

/-- A character that a line may hold as it is: no control character but the tab. -/
def isPlain (c : Char) : Bool := c = '\t' || (0x20 ≤ c.toNat && c.toNat != 0x7F)

def atLineEnd : List Char → Bool
  | '\n' :: _ => true
  | '\r' :: '\n' :: _ => true
  | _ => false

def dropLineEnd : List Char → List Char
  | '\n' :: rest => rest
  | '\r' :: '\n' :: rest => rest
  | cs => cs

def push (c : Char) (r : Option (List Char × List Char)) : Option (List Char × List Char) :=
  r.map fun p => (c :: p.1, p.2)

/-- After the quotes that could end a text of several lines: up to two more belong to it. -/
def ending (quote : Char) (rest : List Char) : List Char × List Char :=
  let more := (rest.take 2).takeWhile (· = quote)
  (more, rest.drop more.length)

-- ---------------------------------------------------------------------------
-- Reading
-- ---------------------------------------------------------------------------

/-- A text between single quotes, from behind the opening ones, and what follows it. -/
def literal (multi : Bool) : List Char → Option (List Char × List Char)
  | [] => none
  | c :: rest =>
    if c = '\'' then
      if multi then match rest with
        | '\'' :: '\'' :: after => some (ending '\'' after)
        | _ => push c (literal multi rest)
      else some ([], rest)
    else if c = '\n' && multi then push c (literal multi rest)
    -- of a line end in two characters only the line feed belongs to the text
    else if c = '\r' && multi && atLineEnd (c :: rest) then literal multi rest
    else if isPlain c then push c (literal multi rest)
    else none

inductive EscapeMode where
  | plain
  | escape
  /-- In a code point, with that many digits still to come. -/
  | code (missing value : Nat)
  /-- After an escaped line end, until something is neither a blank nor a line end. -/
  | trim
  deriving DecidableEq

def escaped? : Char → Option Char
  | 'b' => some '\x08'
  | 't' => some '\t'
  | 'n' => some '\n'
  | 'f' => some '\x0c'
  | 'r' => some '\r'
  | '"' => some '"'
  | '\\' => some '\\'
  | _ => none

/-- A text between double quotes, from behind the opening ones, and what follows it. -/
def basic (multi : Bool) : EscapeMode → List Char → Option (List Char × List Char)
  | _, [] => none
  | .escape, c :: rest =>
    if c = 'u' then basic multi (.code 4 0) rest
    else if c = 'U' then basic multi (.code 8 0) rest
    -- blanks may stand between the backslash and the line end
    else if multi && atLineEnd ((c :: rest).dropWhile isBlank) then basic multi .trim rest
    else match escaped? c with
      | some d => push d (basic multi .plain rest)
      | none => none
  | .code missing value, c :: rest =>
    match Text.hexDigit? c with
    | none => none
    | some d =>
      if 1 < missing then basic multi (.code (missing - 1) (value * 16 + d)) rest
      else match Text.char? (value * 16 + d) with
        | some e => push e (basic multi .plain rest)
        | none => none
  | mode, c :: rest =>
    if mode = .trim && (isBlank c || c = '\n') then basic multi .trim rest
    else if c = '"' then
      if multi then match rest with
        | '"' :: '"' :: after => some (ending '"' after)
        | _ => push c (basic multi .plain rest)
      else some ([], rest)
    else if c = '\\' then basic multi .escape rest
    else if c = '\n' && multi then push c (basic multi .plain rest)
    -- of a line end in two characters only the line feed belongs to the text
    else if c = '\r' && multi && atLineEnd (c :: rest) then basic multi mode rest
    else if isPlain c then push c (basic multi .plain rest)
    else none

def text? : List Char → Option (List Char × List Char)
  | '"' :: '"' :: '"' :: rest => basic true .plain (dropLineEnd rest)
  | '"' :: rest => basic false .plain rest
  | '\'' :: '\'' :: '\'' :: rest => literal true (dropLineEnd rest)
  | '\'' :: rest => literal false rest
  | _ => none

-- ---------------------------------------------------------------------------
-- Writing
-- ---------------------------------------------------------------------------

inductive TextStyle where
  | basic | literal | multiBasic | multiLiteral
  deriving DecidableEq, Repr

def needsEscape (c : Char) : Bool := !isPlain c && c != '\n'

def longestRun (quote : Char) (s : List Char) : Nat :=
  (s.foldl (fun (now, most) c =>
    if c = quote then (now + 1, max most (now + 1)) else (0, most)) (0, 0)).2

/-- The style for a text: the first that fits, and else one with escapes. -/
def TextStyle.ofText (s : List Char) : TextStyle :=
  let escapes := s.any needsEscape
  let lines := s.contains '\n'
  if !escapes && !s.contains '\\' && !s.contains '"' && !lines then .basic
  else if !escapes && !s.contains '\'' && !lines then .literal
  else if !escapes && !s.contains '\\' && longestRun '"' s ≤ 2 then .multiBasic
  else if !escapes && longestRun '\'' s ≤ 2 then .multiLiteral
  else if lines then .multiBasic
  else .basic

def escapeChar (multi : Bool) (c : Char) : List Char :=
  match c with
  | '\x08' => ['\\', 'b']
  | '\t' => ['\\', 't']
  | '\n' => if multi then ['\n'] else ['\\', 'n']
  | '\x0c' => ['\\', 'f']
  | '\r' => ['\\', 'r']
  | '\\' => ['\\', '\\']
  | c =>
    if isPlain c then [c]
    else
      ['\\', 'u', '0', '0', (Nat.digitChar (c.toNat / 16)).toUpper,
        (Nat.digitChar (c.toNat % 16)).toUpper]

/-- The characters between double quotes; `run` counts the quotes just before. A quote
is escaped where it could end the text. -/
def escapeAll (multi : Bool) : Nat → List Char → List Char
  | _, [] => []
  | run, c :: rest =>
    if c = '"' then
      if multi && run < 2 then c :: escapeAll multi (run + 1) rest
      else '\\' :: c :: escapeAll multi 0 rest
    else escapeChar multi c ++ escapeAll multi 0 rest

def TextStyle.write (s : List Char) : TextStyle → List Char
  | .basic => '"' :: escapeAll false 0 s ++ ['"']
  | .literal => '\'' :: s ++ ['\'']
  | .multiBasic => '"' :: '"' :: '"' :: '\n' :: escapeAll true 0 s ++ ['"', '"', '"']
  | .multiLiteral => '\'' :: '\'' :: '\'' :: '\n' :: s ++ ['\'', '\'', '\'']

def writeText (s : String) : List Char := (TextStyle.ofText s.toList).write s.toList

-- ---------------------------------------------------------------------------
-- Keys
-- ---------------------------------------------------------------------------

def isBare (c : Char) : Bool := c.isAlphanum || c = '_' || c = '-'

def keyPart? (cs : List Char) : Option (List Char × List Char) :=
  match cs with
  | '"' :: rest => basic false .plain rest
  | '\'' :: rest => literal false rest
  | cs =>
    let name := cs.takeWhile isBare
    if name.isEmpty then none else some (name, cs.dropWhile isBare)

/-- One part of a key as it is written: without quotes if possible. -/
def writeKeyPart (key : String) : List Char :=
  let s := key.toList
  let escapes := !s.all isPlain
  if !s.isEmpty && s.all isBare then s
  else if !escapes && !s.contains '\\' && !s.contains '"' then TextStyle.basic.write s
  else if !escapes && !s.contains '\'' then TextStyle.literal.write s
  else TextStyle.basic.write s

end TripleRules.Toml
