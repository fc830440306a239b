import TripleRules.Text.Case
import TripleRules.Text.Script

/-!
# Sets of characters in expressions

Classes are given by their members. Each also carries a weight, an estimate of
the memory that an automaton for it takes, by which oversized expressions are
refused.
-/

namespace TripleRules.Regex

/-- The members of a class and its weight. -/
structure CharSet where
  contains : Char → Bool
  weight : Nat

namespace CharSet

def ascii (contains : Char → Bool) : CharSet := ⟨contains, 40⟩

def spread (ranges : Nat) (contains : Char → Bool) : CharSet := ⟨contains, 64 * ranges⟩

def none : CharSet := ascii fun _ => false

def single (c : Char) : CharSet := ⟨(· == c), 32 * c.utf8Size⟩

def range (first last : Char) : CharSet :=
  ⟨fun c => first ≤ c && c ≤ last, if last.toNat < 128 then 40 else 300⟩

def complement (s : CharSet) : CharSet := ⟨fun c => !s.contains c, s.weight + 300⟩

def union (s t : CharSet) : CharSet := ⟨fun c => s.contains c || t.contains c, s.weight + t.weight⟩

def inter (s t : CharSet) : CharSet := ⟨fun c => s.contains c && t.contains c, max s.weight t.weight⟩

def diff (s t : CharSet) : CharSet :=
  ⟨fun c => s.contains c && !t.contains c, s.weight + t.weight⟩

def symmDiff (s t : CharSet) : CharSet :=
  ⟨fun c => s.contains c != t.contains c, s.weight + t.weight⟩

/-- Everything that differs from a member in case alone. -/
def caseless (unicode : Bool) (s : CharSet) : CharSet :=
  let variants (c : Char) : List Char :=
    if unicode then c :: Text.caseVariants c else [c, c.toLower, c.toUpper]
  ⟨fun c => (variants c).any s.contains, 2 * s.weight⟩

/-- Whether some byte beyond ASCII, read as a character, is a member. -/
def exceedsAscii (s : CharSet) : Bool :=
  (List.range 128).any fun n => s.contains (Char.ofNat (128 + n))

def digit (unicode : Bool) : CharSet :=
  if unicode then spread 71 fun c => Text.Category.of c = .nd else ascii Char.isDigit

def blank (unicode : Bool) : CharSet :=
  if unicode then spread 10 Text.isBlank
  else ascii fun c => c == ' ' || (9 ≤ c.toNat && c.toNat ≤ 13)

def word (unicode : Bool) : CharSet :=
  if unicode then spread 770 Text.Property.isWord
  else ascii fun c => c.isAlphanum || c == '_'

def asciiNamed? (name : String) : Option CharSet :=
  let punct (c : Char) : Bool := 33 ≤ c.toNat && c.toNat ≤ 126 && !c.isAlphanum
  (match name with
  | "alnum" => some Char.isAlphanum
  | "alpha" => some Char.isAlpha
  | "ascii" => some fun c => c.toNat < 128
  | "blank" => some fun c => c == ' ' || c == '\t'
  | "cntrl" => some fun c => c.toNat < 32 || c.toNat == 127
  | "digit" => some Char.isDigit
  | "graph" => some fun c => 33 ≤ c.toNat && c.toNat ≤ 126
  | "lower" => some Char.isLower
  | "print" => some fun c => 32 ≤ c.toNat && c.toNat ≤ 126
  | "punct" => some punct
  | "space" => some fun c => c == ' ' || (9 ≤ c.toNat && c.toNat ≤ 13)
  | "upper" => some Char.isUpper
  | "word" => some fun c => c.isAlphanum || c == '_'
  | "xdigit" => some fun c => c.isDigit || ('a' ≤ c && c ≤ 'f') || ('A' ≤ c && c ≤ 'F')
  | _ => Option.none).map ascii

-- ---------------------------------------------------------------------------
-- Property queries
-- ---------------------------------------------------------------------------

/-- A name as queries compare it: without case, spaces, underscores and hyphens, and
without `is` at its very beginning. -/
def looseName (name : String) : String :=
  let (cs, shortened) := match name.toList with
    | i :: s :: rest =>
      if i.toLower = 'i' ∧ s.toLower = 's' then (rest, true) else (i :: s :: rest, false)
    | cs => (cs, false)
  let plain := (cs.filter fun c => c.toNat < 128 && c != ' ' && c != '_' && c != '-').map Char.toLower
  -- `isc` is the name of a property, not another spelling of the category `c`
  if shortened ∧ plain = ['c'] then "isc" else String.ofList plain

private def categoryGroups : List (List String × List Text.Category) := [
  (["lc", "casedletter"], [.lu, .ll, .lt]),
  (["l", "letter"], [.lu, .ll, .lt, .lm, .lo]),
  (["m", "mark", "combiningmark"], [.mn, .mc, .me]),
  (["n", "number"], [.nd, .nl, .no]),
  (["p", "punctuation", "punct"], [.pc, .pd, .ps, .pe, .pi, .pf, .po]),
  (["s", "symbol"], [.sm, .sc, .sk, .so]),
  (["z", "separator"], [.zs, .zl, .zp]),
  (["c", "other"], [.cc, .cf, .cs, .co, .cn]),
  (["nd", "decimalnumber", "digit"], [.nd]),
  (["cc", "control", "cntrl"], [.cc])]

/-- A general category by loose name, with the three sets that are not categories. -/
private def category? (name : String) : Option CharSet :=
  let ofCategories (categories : List Text.Category) : CharSet :=
    spread (200 * categories.length) fun c => categories.contains (Text.Category.of c)
  if name = "any" then some (spread 1 fun _ => true)
  else if name = "ascii" then some (ascii fun c => c.toNat < 128)
  else if name = "assigned" then some (spread 700 fun c => Text.Category.of c ≠ .cn)
  else match categoryGroups.find? (·.1.contains name) with
    | some (_, categories) => some (ofCategories categories)
    | Option.none =>
      (Text.Category.names.find? fun entry =>
          looseName entry.2.1 = name || looseName entry.2.2 = name).map
        fun entry => ofCategories [entry.1]

private def script? (name : String) : Option CharSet :=
  (Text.Script.names.find? fun entry => entry.2.any fun n => looseName n = name).map
    fun entry => spread 40 fun c => Text.Script.of c = entry.1

/-- The names of properties that have values, which no query may use alone. -/
private def valuedNames : List String := [
  "generalcategory", "gc", "script", "scriptextensions", "scx", "age", "casefolding",
  "simplecasefolding", "scf", "lowercasemapping", "uppercasemapping", "uc", "name", "na",
  "block", "blk", "graphemeclusterbreak", "gcb", "wordbreak", "wb", "sentencebreak", "sb"]

def property? (name : String) : Option CharSet :=
  let name := looseName name
  match Text.Property.named.find? (·.1.contains name) with
  | some (_, contains) => some (spread 600 contains)
  | Option.none =>
    if valuedNames.contains name then Option.none
    else (category? name).orElse fun _ => script? name

/-- The class of a query with a property and its value. Extended scripts are read as scripts. -/
def propertyValue? (property value : String) : Option CharSet :=
  let property := looseName property
  if property = "generalcategory" ∨ property = "gc" then category? (looseName value)
  else if ["script", "sc", "scriptextensions", "scx"].contains property then
    script? (looseName value)
  else Option.none

end CharSet

end TripleRules.Regex
