import EndpointDocs.OrderedMap
import EndpointDocs.Text.LowerCase

/-!
The glossary: terms of the domain and their definitions. A word is a term only in its exact
spelling; a definition is found in the exact spelling first, and then without regard to case,
where the term added last counts.
-/
namespace EndpointDocs

/-- Terms with their definitions, and for each lower-case form the term added last. -/
structure Glossary where
  terms : OrderedMap String String
  folded : OrderedMap String String
  deriving DecidableEq, Repr

namespace Glossary

def empty : Glossary :=
  ⟨OrderedMap.empty, OrderedMap.empty⟩

/-- Adds a term; a later definition replaces an earlier one. -/
def add (glossary : Glossary) (term definition : String) : Glossary :=
  ⟨glossary.terms.put term definition, glossary.folded.put (Text.lower term) term⟩

/-- Adds pairs of a term and its definition in order. -/
def addAll (glossary : Glossary) (pairs : List (String × String)) : Glossary :=
  pairs.foldl (fun glossary pair => glossary.add pair.1 pair.2) glossary

/-- Whether a word is a term, in its exact spelling. -/
def isTerm (glossary : Glossary) (word : String) : Bool :=
  glossary.terms.has word

def size (glossary : Glossary) : Nat :=
  glossary.terms.size

/-- The definition of a term, or the empty text. -/
def define (glossary : Glossary) (term : String) : String :=
  match glossary.terms.get? term with
  | some definition => definition
  | none =>
    match glossary.folded.get? (Text.lower term) with
    | some spelling => (glossary.terms.get? spelling).getD ""
    | none => ""

end Glossary

end EndpointDocs
