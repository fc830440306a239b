import TripleRules.Number.Decimal
import TripleRules.Text.Blank
import TripleRules.Text.Case
import TripleRules.Vocabulary

/-!
# Literals

A literal is a text with a datatype. It is compared as it is written: `"1"` and
`"01"` differ even as integers. `integer?`, `float?` and `boolean?` read the
value that a datatype gives to the text.
-/

namespace TripleRules

inductive Datatype where
  | plain
  | language (tag : String)
  | typed (identifier : String)
  deriving DecidableEq, Repr

structure Literal where
  value : String
  datatype : Datatype
  deriving DecidableEq, Repr

namespace Literal

def plain (value : String) : Literal := ⟨value, .plain⟩

def typed (value identifier : String) : Literal := ⟨value, .typed identifier⟩

/-- A text in a language. Tags are kept in lower case, so case does not tell languages apart. -/
def inLanguage (value tag : String) : Literal := ⟨value, .language (Text.lower tag)⟩

def ofSchema (value localName : String) : Literal :=
  typed value (Vocabulary.expand Vocabulary.xsd localName)

def integer (value : Int) : Literal := ofSchema (toString value) "integer"

def boolean (value : Bool) : Literal := ofSchema (if value then "true" else "false") "boolean"

/-- A floating-point value. A finite one is always written with a point. -/
def decimal (value : Float) : Literal :=
  let text := Number.decimalText value
  ofSchema (if Number.isFinite value && !text.toList.contains '.' then text ++ ".0" else text)
    "decimal"

def isPlain (l : Literal) : Bool := l.datatype = .plain

def language? (l : Literal) : Option String :=
  match l.datatype with
  | .language tag => some tag
  | _ => none

def datatype? (l : Literal) : Option String :=
  match l.datatype with
  | .typed identifier => some identifier
  | _ => none

def schemaType? (l : Literal) : Option String :=
  l.datatype?.bind (Vocabulary.localName? Vocabulary.xsd)

/-- Schema datatypes whose texts are read as integers. -/
def integerTypes : List String := [
  "integer", "long", "int", "short", "byte",
  "nonNegativeInteger", "positiveInteger", "nonPositiveInteger", "negativeInteger",
  "unsignedLong", "unsignedInt", "unsignedShort", "unsignedByte"]

def fractionTypes : List String := ["decimal", "double", "float"]

def isIntegerTyped (l : Literal) : Bool :=
  l.schemaType?.any integerTypes.contains

def isNumeric (l : Literal) : Bool :=
  l.schemaType?.any fun t => integerTypes.contains t || fractionTypes.contains t

/-- Whether this is a simple string: plain, or of the schema's string type. -/
def isString (l : Literal) : Bool :=
  l.isPlain || l.schemaType? = some "string"

/-- Whether this is text for the string functions: a simple string, or text in a language. -/
def isText (l : Literal) : Bool :=
  l.isString || l.language?.isSome

/-- The value of an integer literal, white space around the numeral aside. -/
def integer? (l : Literal) : Option Int :=
  if l.isIntegerTyped then Number.integer? (Text.trim l.value) else none

def float? (l : Literal) : Option Float :=
  if l.isNumeric then Number.decimal? (Text.trim l.value) else none

/-- The value of a truth literal. No white space is allowed around it. -/
def boolean? (l : Literal) : Option Bool :=
  if l.schemaType? = some "boolean" then
    if l.value = "true" ∨ l.value = "1" then some true
    else if l.value = "false" ∨ l.value = "0" then some false
    else none
  else none

def display (l : Literal) : String :=
  "\"" ++ l.value ++ "\"" ++ match l.datatype with
    | .plain => ""
    | .language tag => "@" ++ tag
    | .typed identifier => "^^<" ++ identifier ++ ">"

end Literal

end TripleRules
