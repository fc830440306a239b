/-!
# Vocabularies

A vocabulary is known by the text that its identifiers begin with; what follows
is the local name.
-/

namespace TripleRules.Vocabulary

def rdf : String := "http://www.w3.org/1999/02/22-rdf-syntax-ns#"

def rdfs : String := "http://www.w3.org/2000/01/rdf-schema#"

def xsd : String := "http://www.w3.org/2001/XMLSchema#"

def expand (vocabulary localName : String) : String :=
  vocabulary ++ localName

/-- What follows the beginning that identifies the vocabulary, if it does begin so. -/
def localName? (vocabulary identifier : String) : Option String :=
  (vocabulary.toList.isPrefixOf? identifier.toList).map String.ofList

def contains (vocabulary identifier : String) : Bool :=
  (localName? vocabulary identifier).isSome

end TripleRules.Vocabulary
