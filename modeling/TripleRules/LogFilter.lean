import TripleRules.Config.Level
import TripleRules.Diagnostic.Basic
import TripleRules.Number.Decimal
import TripleRules.Number.Integer
import TripleRules.Text.Property

/-!
# Log filters

A filter lists directives: how severe an event has to be, for one target, one
kind of span, or everything. A text of directives with commas between them is
accepted as a whole or not at all; where it is not, the configured level decides.

Directives are kept with the most specific ones first, and a later directive
replaces an earlier one for the same events.
-/

namespace TripleRules

inductive Severity where
  | off | error | warn | info | debug | trace
  deriving DecidableEq, Repr

namespace Severity

def all : List Severity := [.off, .error, .warn, .info, .debug, .trace]

def name : Severity → String
  | .off => "off"
  | .error => "error"
  | .warn => "warn"
  | .info => "info"
  | .debug => "debug"
  | .trace => "trace"

def ofText? (s : String) : Option Severity :=
  match Number.count? s with
  | some n => all[n]?
  | none => all.find? (·.name = s.toLower)

end Severity

structure FieldPattern where
  name : String
  value : Option String
  deriving DecidableEq, Repr

namespace FieldPattern

/-- A value as it is shown: numbers in their plainest form. -/
def normalValue (s : String) : String :=
  match Number.count? s with
  | some n => toString n
  | none => match Number.integer? s.toList with
    | some i => toString i
    | none => match Number.decimal? s.toList with
      | some x => Number.decimalText x
      | none => s

def ofText (s : String) : FieldPattern :=
  match s.splitOn "=" with
  | name :: value :: _ => ⟨name, some (normalValue value)⟩
  | _ => ⟨s, none⟩

def display (f : FieldPattern) : String := f.name ++ (f.value.map ("=" ++ ·)).getD ""

def compare (a b : FieldPattern) : Ordering :=
  (Ord.compare a.value.isSome b.value.isSome).then
    ((Ord.compare a.name b.name).then (Ord.compare a.value b.value))

end FieldPattern

/-- Which events a severity is meant for. Without a target or span it is for all. -/
structure Directive where
  target : Option String := none
  span : Option String := none
  fields : List FieldPattern := []
  severity : Severity := .trace
  deriving DecidableEq, Repr

namespace Directive

private def slice (cs : List Char) (first last : Nat) : String :=
  String.ofList ((cs.drop first).take (last - first))

/-- A directive with the severity that follows a position; nothing there lets everything pass. -/
private def withSeverity? (d : Directive) (whole : List Char) (first : Nat) : Option Directive :=
  match String.ofList (whole.drop first) with
  | "" => some d
  | name => (Severity.ofText? name).map fun s => { d with severity := s }

private def afterSpan? (d : Directive) (whole read : List Char) (first : Nat) : Option Directive :=
  match read.drop first with
  | [] => some d
  | '=' :: _ => d.withSeverity? whole (first + 1)
  | _ => none

private def withSpan? (d : Directive) (whole read : List Char) (first : Nat) : Option Directive :=
  let last := first + (read.drop first).findIdx fun c => c = ']' || c = '\x7b'
  let name := slice whole first last
  match read.drop last with
  | ']' :: _ => afterSpan? { d with span := some name } whole read (last + 1)
  | '\x7b' :: fields =>
    let close := last + 1 + fields.findIdx (· = '\x7d')
    let field := slice whole (last + 1) close
    match read.drop close with
    | '\x7d' :: ']' :: _ =>
      if field = "" then none
      else
        afterSpan? { d with
          span := if name = "" then none else some name
          fields := [.ofText field] } whole read (close + 2)
    | _ => none
  | _ => none

private def beginsName (c : Char) : Bool :=
  c = '-' || c = ':' || c = '_' || Text.Property.alphabetic.contains c ||
    [.nd, .nl, .no].contains (Text.Category.of c)

/-- A severity, or a target with a span and a severity, each of which may be missing. White
space around counts for the positions of the parts and not for their text. -/
def ofText? (s : String) : Option Directive :=
  let whole := s.toList
  let read := Text.trim s
  match read with
  | [] => none
  | '[' :: _ => withSpan? {} whole read 1
  | c :: _ =>
    if beginsName c then
      let last := read.findIdx fun c => c = '=' || c = '['
      let target : Directive := { target := some (slice whole 0 last) }
      match read.drop last with
      | '=' :: _ => target.withSeverity? whole (last + 1)
      | '[' :: _ => target.withSpan? whole read (last + 1)
      -- neither mark: the whole is a severity or else a target
      | _ => match Severity.ofText? s with
        | some severity => some { severity }
        | none => some { target := some s }
    else none

def display (d : Directive) : String :=
  let fields :=
    if d.fields.isEmpty then ""
    else "\x7b" ++ ",".intercalate (d.fields.map FieldPattern.display) ++ "\x7d"
  let span :=
    if d.span.isNone && d.fields.isEmpty then "" else "[" ++ d.span.getD "" ++ fields ++ "]"
  if d.target.isNone && span = "" then d.severity.name
  else d.target.getD "" ++ span ++ "=" ++ d.severity.name

private def compareFields : List FieldPattern → List FieldPattern → Ordering
  | [], [] => .eq
  | [], _ => .lt
  | _, [] => .gt
  | a :: as, b :: bs => (a.compare b).then (compareFields as bs)

/-- How specific directives are: the length of the target, the presence of a span, the
number of fields, and then their text. -/
def compare (a b : Directive) : Ordering :=
  (Ord.compare (a.target.map String.utf8ByteSize) (b.target.map String.utf8ByteSize)).then <|
  (Ord.compare a.span.isSome b.span.isSome).then <|
  (Ord.compare a.fields.length b.fields.length).then <|
  (Ord.compare a.target b.target).then <|
  (Ord.compare a.span b.span).then (compareFields a.fields b.fields)

def insert (d : Directive) : List Directive → List Directive
  | [] => [d]
  | e :: rest => match d.compare e with
    | .gt => d :: e :: rest
    | .eq => d :: rest
    | .lt => e :: insert d rest

def isDynamic (d : Directive) : Bool := d.span.isSome || !d.fields.isEmpty

/-- The part of a directive that holds outside of spans, if there is one. -/
def static? (d : Directive) : Option Directive :=
  if d.span.isNone && d.fields.all (·.value.isNone) then some d else none

end Directive

structure LogFilter where
  statics : List Directive
  dynamics : List Directive
  deriving DecidableEq, Repr

namespace LogFilter

/-- The filter of some directives; of none, only errors pass. -/
def ofDirectives (ds : List Directive) : LogFilter :=
  let dynamic := ds.filter Directive.isDynamic
  let static := ds.filter (!·.isDynamic) ++ dynamic.filterMap Directive.static?
  let sorted (ds : List Directive) := ds.foldl (fun sorted d => d.insert sorted) []
  if ds.isEmpty then ⟨[{ severity := .error }], []⟩ else ⟨sorted static, sorted dynamic⟩

/-- The filter of a text of directives; empty ones between commas count for nothing. -/
def ofText? (s : String) : Option LogFilter :=
  (((s.splitOn ",").filter (· ≠ "")).mapM Directive.ofText?).map ofDirectives

def ofLevel (l : LogLevel) : LogFilter :=
  ofDirectives [{ target := some "strata", severity := (Severity.ofText? l.filter).getD .error }]

/-- The filter in force: the given one if it can be read, and else that of the level. -/
def resolve (given : Option String) (l : LogLevel) : LogFilter :=
  (given >>= ofText?).getD (ofLevel l)

def display (f : LogFilter) : String :=
  ",".intercalate ((f.statics ++ f.dynamics).map Directive.display)

def alreadyInstalled : Diagnostic :=
  .new .configError
    "cannot install log subscriber: a global default trace dispatcher has already been set"

end LogFilter

end TripleRules
