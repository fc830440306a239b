import TripleRules.Literal

/-!
# Terms

A term names a node of a graph: an identifier, a literal or a blank node. In
patterns and templates a variable may stand in its place; all other terms are
concrete.
-/

namespace TripleRules

/-- An identifier, kept as its text and not validated. -/
structure Iri where
  text : String
  deriving DecidableEq, Repr

namespace Iri

private def afterLast? (c : Char) (cs : List Char) : Option (List Char) :=
  if cs.contains c then some (cs.reverse.takeWhile (· ≠ c)).reverse else none

/-- The text after the last `#`, or else after the last `/`, or else all of it. -/
def localName (i : Iri) : String :=
  let cs := i.text.toList
  match afterLast? '#' cs, afterLast? '/' cs with
  | some name, _ => String.ofList name
  | none, some name => String.ofList name
  | none, none => i.text

def display (i : Iri) : String := "<" ++ i.text ++ ">"

end Iri

/-- A placeholder whose scope is one rule. -/
structure Variable where
  name : String
  deriving DecidableEq, Repr

namespace Variable

/-- The variable of a name; one leading question mark is not part of the name. -/
def ofName (name : String) : Variable :=
  match name.toList with
  | '?' :: rest => ⟨String.ofList rest⟩
  | _ => ⟨name⟩

def display (v : Variable) : String := "?" ++ v.name

end Variable

/-- A node of a graph, or a variable in the place of one. -/
inductive Term where
  | iri (identifier : Iri)
  | literal (value : Literal)
  | blank (label : String)
  | variable (v : Variable)
  deriving DecidableEq, Repr

namespace Term

def ofIri (text : String) : Term := .iri ⟨text⟩

def ofText (value : String) : Term := .literal (.plain value)

def ofInt (value : Int) : Term := .literal (.integer value)

def ofFloat (value : Float) : Term := .literal (.decimal value)

def ofBool (value : Bool) : Term := .literal (.boolean value)

def ofVariable (name : String) : Term := .variable (.ofName name)

def freshLabel (n : Nat) : String := "b" ++ toString n

/-- The blank node with a label of its own for every number. -/
def fresh (n : Nat) : Term := .blank (freshLabel n)

def toVariable? : Term → Option Variable
  | .variable v => some v
  | _ => none

def literal? : Term → Option Literal
  | .literal l => some l
  | _ => none

def isVariable (t : Term) : Bool := t.toVariable?.isSome

def isConcrete (t : Term) : Bool := !t.isVariable

/-- The term as a condition on a look-up: a variable asks for nothing. -/
def slot (t : Term) : Option Term := if t.isVariable then none else some t

def display : Term → String
  | .iri i => i.display
  | .literal l => l.display
  | .blank label => "_:" ++ label
  | .variable v => v.display

end Term

end TripleRules
