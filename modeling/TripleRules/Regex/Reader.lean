import TripleRules.Number.Integer
import TripleRules.Regex.Basic
import TripleRules.Regex.CharSet
import TripleRules.Text.Hex

/-!
# Reading expressions

The text of an expression is read once from left to right; open groups are kept
on a stack. Look-around and back-references do not exist here, so a text that
uses them is refused like any other malformed text. Expressions nested deeper
than `maxDepth`, or whose automaton would exceed `maxWeight`, are refused too.
-/

namespace TripleRules.Regex

structure Flags where
  caseless : Bool := false
  multiLine : Bool := false
  dotAll : Bool := false
  /-- Blanks and comments in the expression mean nothing. -/
  extended : Bool := false
  crlf : Bool := false
  /-- Classes and case follow all characters, not ASCII alone. -/
  unicode : Bool := true

def maxDepth : Nat := 250

/-- The most memory, in bytes, that an automaton may take. -/
def maxWeight : Nat := 10 * 1024 * 1024

-- ---------------------------------------------------------------------------
-- Characters of the expression
-- ---------------------------------------------------------------------------

/-- Without leading blanks and comments; `inComment` says that a comment has begun. -/
private def skipFrom : Bool → List Char → List Char
  | true, c :: rest => skipFrom (c != '\n') rest
  | false, c :: rest =>
    if Text.isBlank c then skipFrom false rest
    else if c == '#' then skipFrom true rest
    else c :: rest
  | _, [] => []

def Flags.skip (f : Flags) (cs : List Char) : List Char :=
  if f.extended then skipFrom false cs else cs

/-- Characters with a meaning of their own, which a backslash removes. -/
private def isMeta (c : Char) : Bool :=
  "\\.+*?()|[]\x7b\x7d^$#&-~".toList.contains c

private def isEscapable (c : Char) : Bool :=
  isMeta c || (c.toNat < 128 && !c.isAlphanum && c != '<' && c != '>')

-- ---------------------------------------------------------------------------
-- Escapes
-- ---------------------------------------------------------------------------

private inductive Primitive where
  /-- `asByte` marks the two-digit form, which can also mean a byte. -/
  | char (c : Char) (asByte : Bool)
  | set (s : CharSet)
  | assertion (a : Assertion)

private def fixedHex (f : Flags) : Nat → Nat → List Char → Option (Nat × List Char)
  | 0, value, cs => some (value, cs)
  | count + 1, value, c :: rest => do
    fixedHex f count (16 * value + (← Text.hexDigit? c)) (f.skip rest)
  | _ + 1, _, [] => none

/-- Hexadecimal digits up to a closing brace; `some` value once there is a digit. -/
private def bracedHex (f : Flags) : Nat → Option Nat → List Char → Option (Nat × List Char)
  | 0, _, _ => none
  | fuel + 1, value, cs => match f.skip cs with
    | '\x7d' :: rest => value.map fun n => (n, f.skip rest)
    | c :: rest => do bracedHex f fuel (some (16 * value.getD 0 + (← Text.hexDigit? c))) rest
    | [] => none

private def hexEscape (f : Flags) (digits : Nat) (cs : List Char) : Option (Primitive × List Char) :=
  match f.skip cs with
  | '\x7b' :: rest => do
    let (n, rest) ← bracedHex f (rest.length + 1) none rest
    return (.char (← Text.char? n) false, rest)
  | cs => do
    let (n, rest) ← fixedHex f digits 0 cs
    return (.char (← Text.char? n) (digits == 2), rest)

/-- Characters up to a closing brace, blanks that mean nothing left out. -/
private def bracedText (f : Flags) : Nat → List Char → Option (List Char × List Char)
  | 0, _ => none
  | fuel + 1, cs => match f.skip cs with
    | '\x7d' :: rest => some ([], rest)
    | c :: rest => do
      let (text, rest) ← bracedText f fuel rest
      return (c :: text, rest)
    | [] => none

private def cutAt? (separator : List Char) : List Char → Option (List Char × List Char)
  | [] => none
  | c :: rest => match separator.isPrefixOf? (c :: rest) with
    | some after => some ([], after)
    | none => (cutAt? separator rest).map fun (before, after) => (c :: before, after)

/-- The class of a property query, `name`, `name=value`, `name:value` or `name!=value`,
and whether the query asks for the complement. -/
private def query? (text : List Char) : Option (CharSet × Bool) :=
  let valued (negated : Bool) (parts : List Char × List Char) : Option (CharSet × Bool) :=
    (CharSet.propertyValue? (String.ofList parts.1) (String.ofList parts.2)).map (·, negated)
  match cutAt? ['!', '='] text, cutAt? [':'] text, cutAt? ['='] text with
  | some parts, _, _ => valued true parts
  | none, some parts, _ => valued false parts
  | none, none, some parts => valued false parts
  | none, none, none => (CharSet.property? (String.ofList text)).map (·, false)

private def propertyEscape (f : Flags) (negated : Bool) (cs : List Char) :
    Option (Primitive × List Char) := do
  let (text, rest) ← match f.skip cs with
    | '\x7b' :: rest => bracedText f (rest.length + 1) rest
    | '\\' :: _ => none
    | c :: rest => some ([c], f.skip rest)
    | [] => none
  let (set, complemented) ← query? text
  let set := if f.caseless then set.caseless true else set
  if f.unicode then
    return (.set (if negated != complemented then set.complement else set), rest)
  else none

/-- One of the classes of digits, blanks and word characters. Without Unicode the
complement of one would contain parts of characters, and is refused. -/
private def classEscape (f : Flags) (c : Char) : Option Primitive :=
  let set := match c.toLower with
    | 'd' => CharSet.digit f.unicode
    | 's' => CharSet.blank f.unicode
    | _ => CharSet.word f.unicode
  if c.isLower then some (.set set)
  else if f.unicode then some (.set set.complement)
  else none

/-- The rest of a word boundary, after its letter: a name in braces changes its kind.
Braces that hold no name belong to a repetition and are left alone. -/
private def wordBoundary (f : Flags) (cs : List Char) : Option (Primitive × List Char) :=
  let ascii := !f.unicode
  let isNameChar (c : Char) : Bool := c.isAlpha || c == '-'
  match cs with
  | '\x7b' :: inner => match f.skip inner with
    | [] => none
    | c :: rest =>
      if isNameChar c then do
        let (name, rest) ← bracedText f (rest.length + 2) (c :: rest)
        match String.ofList name with
        | "start" => return (.assertion (.wordStart ascii), rest)
        | "end" => return (.assertion (.wordEnd ascii), rest)
        | "start-half" => return (.assertion (.wordStartHalf ascii), rest)
        | "end-half" => return (.assertion (.wordEndHalf ascii), rest)
        | _ => none
      else some (.assertion (.wordBoundary ascii), cs)
  | _ => some (.assertion (.wordBoundary ascii), cs)

private def escape (f : Flags) (cs : List Char) : Option (Primitive × List Char) :=
  let ascii := !f.unicode
  match cs with
  | [] => none
  | 'x' :: rest => hexEscape f 2 rest
  | 'u' :: rest => hexEscape f 4 rest
  | 'U' :: rest => hexEscape f 8 rest
  | 'p' :: rest => propertyEscape f false rest
  | 'P' :: rest => propertyEscape f true rest
  | 'b' :: rest => wordBoundary f rest
  | 'a' :: rest => some (.char '\x07' false, rest)
  | 'f' :: rest => some (.char '\x0c' false, rest)
  | 't' :: rest => some (.char '\t' false, rest)
  | 'n' :: rest => some (.char '\n' false, rest)
  | 'r' :: rest => some (.char '\r' false, rest)
  | 'v' :: rest => some (.char '\x0b' false, rest)
  | 'A' :: rest => some (.assertion .textStart, rest)
  | 'z' :: rest => some (.assertion .textEnd, rest)
  | 'B' :: rest => some (.assertion (.notWordBoundary ascii), rest)
  | '<' :: rest => some (.assertion (.wordStart ascii), rest)
  | '>' :: rest => some (.assertion (.wordEnd ascii), rest)
  | c :: rest =>
    if "dswDSW".toList.contains c then (classEscape f c).map fun p => (p, rest)
    else if isEscapable c then some (.char c false, rest)
    else none

-- ---------------------------------------------------------------------------
-- Bracketed classes
-- ---------------------------------------------------------------------------

private structure ClassPart where
  set : CharSet
  depth : Nat

private inductive ClassOp where
  | inter | diff | symmDiff

/-- What is suspended while a bracket or the right side of an operator is read. -/
private inductive ClassFrame where
  | bracket (outer : List ClassPart) (negated : Bool)
  | op (op : ClassOp) (left : ClassPart)

private def ClassPart.ofItems : List ClassPart → ClassPart
  | [] => ⟨.none, 0⟩
  | [item] => item
  | items => ⟨items.foldr (fun item acc => acc.union item.set) .none,
      1 + (items.map ClassPart.depth).foldl max 0⟩

private def Flags.fold (f : Flags) (s : CharSet) : CharSet :=
  if f.caseless then s.caseless f.unicode else s

private def closeOp (f : Flags) (right : ClassPart) : List ClassFrame → ClassPart × List ClassFrame
  | .op op left :: stack =>
    let l := f.fold left.set
    let r := f.fold right.set
    let set := match op with
      | .inter => l.inter r
      | .diff => l.diff r
      | .symmDiff => l.symmDiff r
    (⟨set, 1 + max left.depth right.depth⟩, stack)
  | stack => (right, stack)

/-- A class named between colons, after its first bracket. -/
private def asciiClass? (f : Flags) (cs : List Char) : Option (Option CharSet × List Char) :=
  let named (negated : Bool) (cs : List Char) : Option (Option CharSet × List Char) := do
    let (name, rest) ← cutAt? [':'] cs
    let set ← CharSet.asciiNamed? (String.ofList name)
    match rest with
    | ']' :: rest =>
      let set := f.fold set
      let set := if negated then set.complement else set
      return (if !f.unicode && set.exceedsAscii then none else some set, rest)
    | _ => none
  match cs with
  | ':' :: '^' :: rest => named true rest
  | ':' :: rest => named false rest
  | _ => none

/-- The hyphens, or the closing bracket, that a class may begin with literally. -/
private def leadingItems (f : Flags) : Nat → List ClassPart → List Char →
    Option (List ClassPart × List Char)
  | 0, _, _ => none
  | fuel + 1, items, cs => match f.skip cs with
    | '-' :: rest => leadingItems f fuel (⟨.single '-', 0⟩ :: items) rest
    | ']' :: rest =>
      if items.isEmpty then
        match f.skip rest with
        | [] => none
        | rest => some ([⟨.single ']', 0⟩], rest)
      else some (items, ']' :: rest)
    | [] => none
    | cs => some (items, cs)

/-- The beginning of a class after its bracket: whether it is negated, and its literal first items. -/
private def openClass (f : Flags) (cs : List Char) :
    Option (Bool × List ClassPart × List Char) := do
  let (negated, cs) := match f.skip cs with
    | '^' :: rest => (true, rest)
    | cs => (false, cs)
  let (items, cs) ← leadingItems f (cs.length + 1) [] cs
  return (negated, items, cs)

private def classItem (f : Flags) : List Char → Option (Primitive × List Char)
  | '\\' :: rest => escape f rest
  | c :: rest => some (.char c false, rest)
  | [] => none

/-- The character of an item. Without Unicode only ASCII characters have a place in a class. -/
private def Primitive.char? (f : Flags) : Primitive → Option Char
  | .char c _ => if f.unicode || c.toNat < 128 then some c else none
  | _ => none

private def Primitive.itemSet? (f : Flags) : Primitive → Option CharSet
  | .set s => some s
  | p => (p.char? f).map CharSet.single

private def classRange (f : Flags) (cs : List Char) : Option (CharSet × List Char) := do
  let (first, cs) ← classItem f cs
  let alone (rest : List Char) : Option (CharSet × List Char) := do
    return (← first.itemSet? f, rest)
  match f.skip cs with
  | [] => none
  | '-' :: rest => match f.skip rest with
    | [] => none
    | ']' :: _ => alone ('-' :: rest)
    | '-' :: _ => alone ('-' :: rest)
    | rest => do
      let (last, rest) ← classItem f rest
      let lo ← first.char? f
      let hi ← last.char? f
      if lo ≤ hi then return (.range lo hi, rest) else none
  | rest => alone rest

private def classBody (f : Flags) :
    Nat → List ClassFrame → List ClassPart → List Char → Option (ClassPart × List Char)
  | 0, _, _, _ => none
  | fuel + 1, stack, items, cs => match f.skip cs with
    | [] => none
    | '[' :: rest => match asciiClass? f rest with
      | some (some set, rest) => classBody f fuel stack (⟨set, 0⟩ :: items) rest
      | some (none, _) => none
      | none => do
        let (negated, inner, rest) ← openClass f rest
        classBody f fuel (.bracket items negated :: stack) inner rest
    | ']' :: rest =>
      let (part, stack) := closeOp f (.ofItems items) stack
      match stack with
      | .bracket outer negated :: stack =>
        let set := f.fold part.set
        let set := if negated then set.complement else set
        if !f.unicode && set.exceedsAscii then none
        else
          let part : ClassPart := ⟨set, 1 + part.depth⟩
          if stack.isEmpty then some (part, rest) else classBody f fuel stack (part :: outer) rest
      | _ => none
    | '&' :: '&' :: rest => operator fuel stack items .inter rest
    | '-' :: '-' :: rest => operator fuel stack items .diff rest
    | '~' :: '~' :: rest => operator fuel stack items .symmDiff rest
    | cs => do
      let (set, rest) ← classRange f cs
      classBody f fuel stack (⟨set, 0⟩ :: items) rest
where
  /-- Suspend the left side of an operator; operators associate to the left. -/
  operator (fuel : Nat) (stack : List ClassFrame) (items : List ClassPart) (op : ClassOp)
      (rest : List Char) : Option (ClassPart × List Char) :=
    let (left, stack) := closeOp f (.ofItems items) stack
    classBody f fuel (.op op left :: stack) [] rest

-- ---------------------------------------------------------------------------
-- Groups, repetitions and whole expressions
-- ---------------------------------------------------------------------------

/-- A part of an expression, with its nesting and the memory it takes. Flag groups
are parts too, but nothing that could be repeated. -/
private structure Piece where
  node : Node
  depth : Nat
  weight : Nat
  repeatable : Bool

private structure Frame where
  flags : Flags
  pieces : List Piece
  branches : List Piece

private structure State where
  flags : Flags
  pieces : List Piece
  branches : List Piece
  stack : List Frame
  sets : Array (Char → Bool)
  names : List (List Char)

private def deepest (pieces : List Piece) : Nat := (pieces.map Piece.depth).foldl max 0

private def totalWeight (pieces : List Piece) : Nat := Number.total (pieces.map Piece.weight)

private def Piece.ofSequence : List Piece → Piece
  | [] => ⟨.empty, 0, 32, false⟩
  | [piece] => piece
  | pieces => ⟨pieces.foldl (fun acc piece => piece.node.andThen acc) .empty,
      1 + deepest pieces, totalWeight pieces, true⟩

private def State.group (s : State) : Piece :=
  match Piece.ofSequence s.pieces :: s.branches with
  | [piece] => piece
  | branches => ⟨branches.tail.foldl (fun acc piece => .alt piece.node acc)
        (Piece.ofSequence s.pieces).node,
      1 + deepest branches, totalWeight branches + 40 * branches.length, true⟩

private def State.push (s : State) (piece : Piece) : State :=
  { s with pieces := piece :: s.pieces }

private def State.pushSet (s : State) (set : CharSet) (depth : Nat) : State :=
  { s with sets := s.sets.push set.contains }.push ⟨.set s.sets.size, depth, set.weight, true⟩

private def State.pushAssertion (s : State) (a : Assertion) : State :=
  s.push ⟨.assertion a, 0, 32, true⟩

private def State.pushPrimitive (s : State) : Primitive → Option State
  | .assertion a => some (s.pushAssertion a)
  | .set set => some (s.pushSet set 0)
  | .char c asByte =>
    if !s.flags.unicode && asByte && 127 < c.toNat then none
    else some (s.pushSet (s.flags.fold (.single c)) 0)

private def State.repeatLast (s : State) (min : Nat) (max : Option Nat) : Option State :=
  match s.pieces with
  | piece :: rest =>
    if piece.repeatable then
      let copies := match max with
        | some n => n * piece.weight + (n - min) * 40
        | none => (if min = 0 then 1 else min) * piece.weight
      some { s with pieces :=
        ⟨.repeat piece.node min max, 1 + piece.depth, 40 + copies, true⟩ :: rest }
    else none
  | [] => none

/-- Without the mark of a reluctant repetition, which changes no search. -/
private def dropReluctant : List Char → List Char
  | '?' :: rest => rest
  | cs => cs

/-- A decimal number with blanks around it, below two to the thirty-second. -/
private def repeatCount (f : Flags) (cs : List Char) : Option (Option Nat × List Char) :=
  let rec digits : Nat → Option Nat → List Char → Option Nat × List Char
    | 0, value, cs => (value, cs)
    | fuel + 1, value, cs => match cs with
      | c :: rest =>
        if c.isDigit then digits fuel (some (10 * value.getD 0 + (c.toNat - 48))) (f.skip rest)
        else (value, cs)
      | [] => (value, [])
  let (value, rest) := digits cs.length none (cs.dropWhile Text.isBlank)
  if value.any (0x100000000 ≤ ·) then none
  else some (value, f.skip (rest.dropWhile Text.isBlank))

private def repeatBounds (f : Flags) (cs : List Char) : Option (Nat × Option Nat × List Char) := do
  let (least, rest) ← repeatCount f (f.skip cs)
  match rest with
  | '\x7d' :: rest => return (← least, least, rest)
  | ',' :: rest => match f.skip rest with
    | '\x7d' :: rest => return (← least, none, rest)
    | rest => do
      let (most, rest) ← repeatCount f rest
      match rest with
      | '\x7d' :: rest =>
        if (← least) ≤ (← most) then return (← least, most, rest) else none
      | _ => none
  | _ => none

/-- Switch one flag. The letter that swaps greed changes no search. -/
private def Flags.set? (f : Flags) (letter : Char) (value : Bool) : Option Flags :=
  match letter with
  | 'i' => some { f with caseless := value }
  | 'm' => some { f with multiLine := value }
  | 's' => some { f with dotAll := value }
  | 'x' => some { f with extended := value }
  | 'R' => some { f with crlf := value }
  | 'u' => some { f with unicode := value }
  | 'U' => some f
  | _ => none

/-- The letters of a flag group up to the colon or parenthesis that ends them. Each
letter is used once, and a hyphen, at most one, must be followed by a letter. -/
private def flagGroup (f : Flags) (seen : List Char) (afterHyphen : Bool) :
    List Char → Option (Flags × Bool × Bool × List Char)
  | ':' :: rest => if afterHyphen then none else some (f, true, seen.isEmpty, rest)
  | ')' :: rest => if afterHyphen then none else some (f, false, seen.isEmpty, rest)
  | c :: rest =>
    if seen.contains c then none
    else if c = '-' then flagGroup f (c :: seen) true rest
    else do flagGroup (← f.set? c (!seen.contains '-')) (c :: seen) false rest
  | [] => none

private def groupName (cs : List Char) : Option (List Char × List Char) := do
  let isLetter (c : Char) : Bool := Text.Property.alphabetic.contains c
  let isNumber (c : Char) : Bool := [.nd, .nl, .no].contains (Text.Category.of c)
  let isStart (c : Char) : Bool := c == '_' || isLetter c
  let isInner (c : Char) : Bool :=
    isStart c || isNumber c || c == '.' || c == '[' || c == ']'
  let (name, rest) ← cutAt? ['>'] cs
  match name with
  | [] => none
  | c :: more => if isStart c && more.all isInner then some (name, rest) else none

private def State.enter (s : State) (inner : Flags) : State :=
  { s with
    flags := inner
    pieces := []
    branches := []
    stack := ⟨s.flags, s.pieces, s.branches⟩ :: s.stack }

private def State.openGroup (s : State) (cs : List Char) : Option (State × List Char) :=
  let named (rest : List Char) : Option (State × List Char) := do
    let (name, rest) ← groupName rest
    if s.names.contains name then none
    else return ({ s with names := name :: s.names }.enter s.flags, rest)
  match s.flags.skip cs with
  | '?' :: '=' :: _ | '?' :: '!' :: _ | '?' :: '<' :: '=' :: _ | '?' :: '<' :: '!' :: _ => none
  | '?' :: 'P' :: '<' :: rest => named rest
  | '?' :: '<' :: rest => named rest
  | '?' :: rest => do
    let (flags, isGroup, noFlags, rest) ← flagGroup s.flags [] false rest
    if isGroup then return (s.enter flags, rest)
    else if noFlags then none
    else return ({ s with flags }.push ⟨.empty, 0, 32, false⟩, rest)
  | rest => some (s.enter s.flags, rest)

private def State.closeGroup (s : State) : Option State :=
  match s.stack with
  | frame :: stack =>
    let inner := s.group
    some { s with
      flags := frame.flags
      pieces := ⟨inner.node, 1 + inner.depth, 64 + inner.weight, true⟩ :: frame.pieces
      branches := frame.branches
      stack }
  | [] => none

/-- The class of the full stop. Without Unicode it would match parts of characters. -/
private def dot? (f : Flags) : Option CharSet :=
  if f.unicode then
    some (.spread 6 fun c => f.dotAll || !(c == '\n' || (f.crlf && c == '\r')))
  else none

private def readFrom : Nat → State → List Char → Option State
  | 0, _, _ => none
  | fuel + 1, s, cs =>
    let f := s.flags
    match f.skip cs with
    | [] => if s.stack.isEmpty then some s else none
    | '(' :: rest => do
      let (s, rest) ← s.openGroup rest
      readFrom fuel s rest
    | ')' :: rest => do readFrom fuel (← s.closeGroup) rest
    | '|' :: rest =>
      readFrom fuel { s with pieces := [], branches := .ofSequence s.pieces :: s.branches } rest
    | '[' :: rest => do
      let (negated, items, rest) ← openClass f rest
      let (part, rest) ← classBody f (rest.length + 1) [.bracket [] negated] items rest
      readFrom fuel (s.pushSet part.set part.depth) rest
    | '?' :: rest => do readFrom fuel (← s.repeatLast 0 (some 1)) (dropReluctant rest)
    | '*' :: rest => do readFrom fuel (← s.repeatLast 0 none) (dropReluctant rest)
    | '+' :: rest => do readFrom fuel (← s.repeatLast 1 none) (dropReluctant rest)
    | '\x7b' :: rest => do
      let (min, max, rest) ← repeatBounds f rest
      readFrom fuel (← s.repeatLast min max) (dropReluctant (f.skip rest))
    | '\\' :: rest => do
      let (p, rest) ← escape f rest
      readFrom fuel (← s.pushPrimitive p) rest
    | '.' :: rest => do readFrom fuel (s.pushSet (← dot? f) 0) rest
    | '^' :: rest =>
      readFrom fuel (s.pushAssertion (if f.multiLine then .lineStart f.crlf else .textStart)) rest
    | '$' :: rest =>
      readFrom fuel (s.pushAssertion (if f.multiLine then .lineEnd f.crlf else .textEnd)) rest
    | c :: rest => do readFrom fuel (← s.pushPrimitive (.char c false)) rest

/-- The program of an expression; `none` if its text is malformed or it is too large. -/
def Program.ofText? (flags : Flags) (text : String) : Option Program := do
  let s ← readFrom (text.length + 1) ⟨flags, [], [], [], #[], []⟩ text.toList
  let whole := s.group
  if whole.depth ≤ maxDepth ∧ whole.weight ≤ maxWeight then
    return ⟨s.sets, Text.Property.isWord, whole.node⟩
  else none

/-- What compiles patterns. A compiled pattern tells whether it matches somewhere in a text. The
functions work with any of these; the standard one, whose limit on sizes is an estimate, is there
to be run. -/
structure Engine where
  compile? : Flags → String → Option (String → Bool)

def Engine.standard : Engine where
  compile? flags pattern := (Program.ofText? flags pattern).map Program.isMatch

end TripleRules.Regex
