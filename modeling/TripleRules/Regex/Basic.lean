/-!
# Regular expressions

An expression is matched by advancing it over the text one character at a time:
`advance` gives what may still be matched after a character. Assertions look at
the characters on both sides of a position, so every question is asked in a
`Context`. A search keeps the list of expressions that remain from all starting
points so far, and needs no backtracking.
-/

namespace TripleRules.Regex

inductive Assertion where
  | textStart | textEnd
  /-- Line ends are line feeds or, with `crlf`, carriage returns and pairs of the two. -/
  | lineStart (crlf : Bool)
  | lineEnd (crlf : Bool)
  /-- Words are made of letters, marks, digits and connectors, or of their ASCII kin. -/
  | wordBoundary (ascii : Bool)
  | notWordBoundary (ascii : Bool)
  | wordStart (ascii : Bool)
  | wordEnd (ascii : Bool)
  | wordStartHalf (ascii : Bool)
  | wordEndHalf (ascii : Bool)
  deriving DecidableEq, Repr

/-- An expression. A `set` is one character of the set with that number in a `Program`. -/
inductive Node where
  | empty
  | set (id : Nat)
  | assertion (a : Assertion)
  | seq (first second : Node)
  | alt (left right : Node)
  /-- At least `min` times, and at most `max` times if that is given. -/
  | repeat (body : Node) (min : Nat) (max : Option Nat)
  deriving DecidableEq, Repr

/-- The characters on the two sides of a position; none at an end of the text. -/
structure Context where
  before : Option Char
  after : Option Char

structure Program where
  sets : Array (Char → Bool)
  isWord : Char → Bool
  body : Node

def isAsciiWord (c : Char) : Bool := c.isAlphanum || c == '_'

def Assertion.holds (isWord : Char → Bool) (ctx : Context) (a : Assertion) : Bool :=
  let word (ascii : Bool) (c : Option Char) : Bool := c.any (if ascii then isAsciiWord else isWord)
  match a with
  | .textStart => ctx.before.isNone
  | .textEnd => ctx.after.isNone
  | .lineStart false => ctx.before.all (· == '\n')
  | .lineEnd false => ctx.after.all (· == '\n')
  | .lineStart true =>
    ctx.before.all fun c => c == '\n' || (c == '\r' && ctx.after != some '\n')
  | .lineEnd true =>
    ctx.after.all fun c => c == '\r' || (c == '\n' && ctx.before != some '\r')
  | .wordBoundary ascii => word ascii ctx.before != word ascii ctx.after
  | .notWordBoundary ascii => word ascii ctx.before == word ascii ctx.after
  | .wordStart ascii => !word ascii ctx.before && word ascii ctx.after
  | .wordEnd ascii => word ascii ctx.before && !word ascii ctx.after
  | .wordStartHalf ascii => !word ascii ctx.before
  | .wordEndHalf ascii => !word ascii ctx.after

namespace Node

/-- Whether the empty text at a position is a match. -/
def canBeEmpty (isWord : Char → Bool) (ctx : Context) : Node → Bool
  | .empty => true
  | .set _ => false
  | .assertion a => a.holds isWord ctx
  | .seq first second => first.canBeEmpty isWord ctx && second.canBeEmpty isWord ctx
  | .alt left right => left.canBeEmpty isWord ctx || right.canBeEmpty isWord ctx
  | .repeat body min _ => min = 0 || body.canBeEmpty isWord ctx

def andThen (first second : Node) : Node :=
  match first, second with
  | .empty, second => second
  | first, .empty => first
  | first, second => .seq first second

/-- The rest of a repetition after one time: where the body can be empty, all the
times that are still missing can be empty as well. -/
def again (body : Node) (min : Nat) (max : Option Nat) : Node :=
  match max with
  | some 0 => .empty
  | max => .repeat body min max

/-- What may remain to be matched after a character that follows a position. -/
def advance (p : Program) (ctx : Context) (c : Char) : Node → List Node
  | .empty => []
  | .set id => if (p.sets[id]?).any (· c) then [.empty] else []
  | .assertion _ => []
  | .seq first second =>
    (first.advance p ctx c).map (·.andThen second) ++
      if first.canBeEmpty p.isWord ctx then second.advance p ctx c else []
  | .alt left right => left.advance p ctx c ++ right.advance p ctx c
  | .repeat body min max =>
    if max = some 0 then []
    else
      -- times that are empty can all come before the one that takes the character
      let least := if body.canBeEmpty p.isWord ctx then 0 else min - 1
      (body.advance p ctx c).map (·.andThen (body.again least (max.map (· - 1))))

end Node

namespace Program

/-- Whether some stretch of the text from here on completes a match: `pending` holds
what is still to be matched for the starting points passed so far. -/
private def searchFrom (p : Program) (before : Option Char) (pending : List Node) :
    List Char → Bool
  | [] => (p.body :: pending).any (·.canBeEmpty p.isWord ⟨before, none⟩)
  | c :: rest =>
    let ctx : Context := ⟨before, some c⟩
    let live := p.body :: pending
    live.any (·.canBeEmpty p.isWord ctx) ||
      p.searchFrom (some c) (live.flatMap (·.advance p ctx c)).eraseDups rest

def isMatch (p : Program) (text : String) : Bool :=
  p.searchFrom none [] text.toList

end Program

end TripleRules.Regex
