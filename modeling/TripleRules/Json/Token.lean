import TripleRules.Text.Hex

/-!
# Tokens of JSON

The scanner reads one character at a time. Punctuation stands by itself, a text
runs from quote to quote, and everything else between blanks and punctuation is
one word. Which words are literals or numerals is settled here too, so that a
token is always a meaningful one.
-/

namespace TripleRules.Json

inductive Unit16 where
  | char (c : Char)
  | code (n : Nat)

/-- The characters of a text. Escapes spell characters in sixteen bits, so one beyond
these is a high and a low half in turn; a half by itself is no character. -/
def characters? : List Unit16 → Option (List Char)
  | [] => some []
  | .char c :: rest => (characters? rest).map (c :: ·)
  | .code high :: rest =>
    if high < 0xD800 ∨ 0xDFFF < high then (characters? rest).map (Char.ofNat high :: ·)
    else if high ≤ 0xDBFF then match rest with
      | .code low :: rest =>
        if 0xDC00 ≤ low ∧ low ≤ 0xDFFF then
          (characters? rest).map
            (Char.ofNat (0x10000 + (high - 0xD800) * 0x400 + (low - 0xDC00)) :: ·)
        else none
      | _ => none
    else none

inductive Token where
  | null
  | bool (b : Bool)
  | number (numeral : String)
  | text (s : Option String)
  | comma | colon
  | openArray | closeArray | openObject | closeObject

private def digits? (cs : List Char) : Option (List Char) :=
  if (cs.takeWhile Char.isDigit).isEmpty then none else some (cs.dropWhile Char.isDigit)

/-- What follows the whole part of a numeral, which begins with zero only if it is zero. -/
private def afterWhole? : List Char → Option (List Char)
  | '0' :: rest => some rest
  | cs => digits? cs

private def afterFraction? : List Char → Option (List Char)
  | '.' :: rest => digits? rest
  | cs => some cs

private def isExponent : List Char → Bool
  | [] => true
  | c :: rest =>
    let rest := match rest with
      | '+' :: rest => rest
      | '-' :: rest => rest
      | rest => rest
    (c = 'e' || c = 'E') && digits? rest matches some []

def isNumeral (word : List Char) : Bool :=
  let unsigned := match word with
    | '-' :: rest => rest
    | cs => cs
  match afterWhole? unsigned >>= afterFraction? with
  | some rest => isExponent rest
  | none => false

def Token.ofWord? (word : List Char) : Option Token :=
  match String.ofList word with
  | "null" => some .null
  | "true" => some (.bool true)
  | "false" => some (.bool false)
  | numeral => if isNumeral word then some (.number numeral) else none

def Token.ofMark? : Char → Option Token
  | ',' => some .comma
  | ':' => some .colon
  | '[' => some .openArray
  | ']' => some .closeArray
  | '\x7b' => some .openObject
  | '\x7d' => some .closeObject
  | _ => none

def isBlank (c : Char) : Bool := c = ' ' || c = '\t' || c = '\n' || c = '\r'

def escaped? : Char → Option Char
  | '"' => some '"'
  | '\\' => some '\\'
  | '/' => some '/'
  | 'b' => some '\x08'
  | 'f' => some '\x0c'
  | 'n' => some '\n'
  | 'r' => some '\r'
  | 't' => some '\t'
  | _ => none

/-- Where the scanner stands. Characters read so far are listed last first. -/
inductive Scan where
  | between
  | word (read : List Char)
  | text (read : List Unit16)
  | escape (read : List Unit16)
  /-- After `\u`, with that many digits still to come. -/
  | code (read : List Unit16) (missing value : Nat)

structure Scanner where
  mode : Scan := .between
  done : List Token := []

namespace Scanner

def endWord (s : Scanner) : Option Scanner :=
  match s.mode with
  | .word read => do return ⟨.between, (← Token.ofWord? read.reverse) :: s.done⟩
  | _ => some s

def outside (s : Scanner) (c : Char) : Option Scanner := do
  if isBlank c then s.endWord
  else if c = '"' then do
    return { ← s.endWord with mode := .text [] }
  else match Token.ofMark? c with
    | some mark => do
      let s ← s.endWord
      return { s with done := mark :: s.done }
    | none => match s.mode with
      | .word read => return { s with mode := .word (c :: read) }
      | _ => return { s with mode := .word [c] }

/-- Read a character. A text must not hold control characters as they are. -/
def next (s : Scanner) (c : Char) : Option Scanner :=
  match s.mode with
  | .between | .word _ => s.outside c
  | .text read =>
    if c = '"' then
      some ⟨.between, .text ((characters? read.reverse).map String.ofList) :: s.done⟩
    else if c = '\\' then some { s with mode := .escape read }
    -- a control character needs an escape
    else if c.toNat < 0x20 then none
    else some { s with mode := .text (.char c :: read) }
  | .escape read =>
    if c = 'u' then some { s with mode := .code read 4 0 }
    else (escaped? c).map fun e => { s with mode := .text (.char e :: read) }
  | .code read missing value => do
    let value := value * 16 + (← Text.hexDigit? c)
    if missing ≤ 1 then return { s with mode := .text (.code value :: read) }
    else return { s with mode := .code read (missing - 1) value }

def finish (s : Scanner) : Option (List Token) :=
  match s.mode with
  | .between | .word _ => s.endWord.map fun s => s.done.reverse
  | _ => none

end Scanner

def Token.scan (cs : List Char) : Option (List Token) :=
  cs.foldlM Scanner.next {} >>= Scanner.finish

end TripleRules.Json
