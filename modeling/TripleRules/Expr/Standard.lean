import TripleRules.Expr.Function
import TripleRules.Regex.Reader

/-!
# The standard functions

Functions on text, tests of the kind of a term, and a function on numbers. Text
is a simple string or a string in a language; results in upper and lower case
stay in the language of their argument.
-/

namespace TripleRules.Function

def unary (name : String) (f : Term → Except EvalError Term) : Function where
  arity := .exactly 1
  apply
    | [t] => f t
    | args => .error (.wrongArity name (.exactly 1) args.length)

def binary (name : String) (f : Term → Term → Except EvalError Term) : Function where
  arity := .exactly 2
  apply
    | [s, t] => f s t
    | args => .error (.wrongArity name (.exactly 2) args.length)

def textArgument (name : String) (t : Term) : Except EvalError Literal :=
  match t with
  | .literal l => if l.isText then .ok l else .error (.unsuitable name t)
  | t => .error (.unsuitable name t)

/-- A new text in the language of another, if that one has a language. -/
def inSameLanguage (l : Literal) (value : String) : Term :=
  match l.language? with
  | some tag => .literal (.inLanguage value tag)
  | none => .ofText value

private def occursIn (needle : List Char) : List Char → Bool
  | [] => needle.isEmpty
  | c :: rest => needle.isPrefixOf (c :: rest) || occursIn needle rest

def str : Function := unary "str" fun t => match t with
  | .iri i => .ok (.ofText i.text)
  | .literal l => .ok (.ofText l.value)
  | t => .error (.unsuitable "str" t)

def strlen : Function := unary "strlen" fun t => do
  return .ofInt (← textArgument "strlen" t).value.length

def concat : Function where
  arity := .atLeast 1
  apply args := do
    return .ofText (String.join (← args.mapM fun t => return (← textArgument "concat" t).value))

def ucase : Function := unary "ucase" fun t => do
  let l ← textArgument "ucase" t
  return inSameLanguage l (Text.upper l.value)

def lcase : Function := unary "lcase" fun t => do
  let l ← textArgument "lcase" t
  return inSameLanguage l (Text.lower l.value)

def contains : Function := binary "contains" fun s t => do
  let text ← textArgument "contains" s
  let needle ← textArgument "contains" t
  return .ofBool (occursIn needle.value.toList text.value.toList)

def strstarts : Function := binary "strstarts" fun s t => do
  let text ← textArgument "strstarts" s
  let start ← textArgument "strstarts" t
  return .ofBool (start.value.toList.isPrefixOf text.value.toList)

def addFlag (flags : Regex.Flags) (letter : Char) : Except EvalError Regex.Flags :=
  match letter with
  | 'i' => .ok { flags with caseless := true }
  | 'm' => .ok { flags with multiLine := true }
  | 's' => .ok { flags with dotAll := true }
  | 'x' => .ok { flags with extended := true }
  | letter => .error (.unknownFlag letter)

/-- Whether a regular expression, the second argument, matches somewhere in the
first. A third argument lists flags. -/
def regex (engine : Regex.Engine) : Function where
  arity := .between 2 3
  apply
    | text :: pattern :: flags => do
      let text ← textArgument "regex" text
      let pattern ← textArgument "regex" pattern
      let letters ← match flags with
        | [] => pure []
        | flags :: _ => (textArgument "regex" flags).map (·.value.toList)
      let flags ← letters.foldlM addFlag {}
      match engine.compile? flags pattern.value with
      | some isMatch => return .ofBool (isMatch text.value)
      | none => .error .malformedPattern
    | args => .error (.wrongArity "regex" (.between 2 3) args.length)

def isIri : Function := unary "isIRI" fun t => .ok (.ofBool (t matches .iri _))

def isLiteral : Function := unary "isLiteral" fun t => .ok (.ofBool (t matches .literal _))

def isBlank : Function := unary "isBlank" fun t => .ok (.ofBool (t matches .blank _))

def localname : Function := unary "localname" fun t => match t with
  | .iri i => .ok (.ofText i.localName)
  | t => .error (.unsuitable "localname" t)

/-- The identifier of a simple string; an identifier is itself. -/
def iri : Function := unary "iri" fun t => match t with
  | .iri i => .ok (.iri i)
  | .literal l =>
    if l.isString then
      if l.value = "" then .error .emptyIri else .ok (.ofIri l.value)
    else .error (.unsuitable "iri" t)
  | t => .error (.unsuitable "iri" t)

def abs : Function := unary "abs" fun t => match Numeric.ofTerm? t with
  | some n => n.abs.map Numeric.toTerm
  | none => .error (.unsuitable "abs" t)

end Function

/-- The registry of the standard functions, where patterns are compiled by some engine. -/
def FunctionRegistry.standardWith (engine : Regex.Engine) : FunctionRegistry :=
  let functions : List (String × Function) := [
    ("str", .str), ("strlen", .strlen), ("concat", .concat), ("ucase", .ucase),
    ("lcase", .lcase), ("contains", .contains), ("strstarts", .strstarts), ("regex", .regex engine),
    ("isIRI", .isIri), ("isLiteral", .isLiteral), ("isBlank", .isBlank),
    ("localname", .localname), ("iri", .iri), ("abs", .abs)]
  functions.foldl (fun r e => r.register e.1 e.2) .empty

def FunctionRegistry.standard : FunctionRegistry := standardWith .standard

end TripleRules
