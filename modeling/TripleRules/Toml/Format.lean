import TripleRules.Toml.Reader
import TripleRules.Toml.Section

/-!
# Formats of documents

A document of settings is made of tables of single values, and of tables of such tables. How a
document becomes a text, and what values a text stands for, is up to a format. The standard one is
TOML with a section for each table of single values.
-/

namespace TripleRules.Toml

inductive Part where
  | fields (entries : List (String × Scalar))
  | tables (entries : List (String × List (String × Scalar)))
  deriving DecidableEq, Repr

abbrev Document := List (String × Part)

namespace Part

def toValue : Part → Value
  | .fields entries => .table (entries.map fun e => (e.1, e.2.toValue))
  | .tables entries =>
    .table (entries.map fun t => (t.1, .table (t.2.map fun e => (e.1, e.2.toValue))))

def sections (name : String) : Part → List Section
  | .fields entries => [⟨⟨[], name⟩, entries⟩]
  -- without a table in it the part still has its own header
  | .tables [] => [⟨⟨[], name⟩, []⟩]
  | .tables entries => entries.map fun t => ⟨⟨[name], t.1⟩, t.2⟩

end Part

namespace Document

def toValue (d : Document) : Value := .table (d.map fun p => (p.1, p.2.toValue))

def sections (d : Document) : List Section := d.flatMap fun p => p.2.sections p.1

end Document

/-- A reader of values and a writer of documents. Either may refuse what it is given. -/
structure Format where
  read? : String → Option Value
  write? : Document → Option String

def Format.standard : Format where
  read? := Value.ofText?
  write? d := (Section.writeAll? d.sections).map String.ofList

end TripleRules.Toml
