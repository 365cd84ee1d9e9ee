import EndpointDocs.Proofs.Directive.Groups
import EndpointDocs.Proofs.Glossary.History
import EndpointDocs.Proofs.Payload.Chain
import EndpointDocs.Proofs.Url.Outline

/-!
Adding the same entries again. A glossary that was filled before and is filled once more from the
same sources says the same about every word, though its maps were written twice; and glossaries that
say the same about every word give the same records.
-/
namespace EndpointDocs

namespace Glossary

/-- Glossaries that say the same about every word. -/
structure Agrees (first second : Glossary) : Prop where
  define : ∀ term, first.define term = second.define term
  isTerm : ∀ word, first.isTerm word = second.isTerm word

/-- Only what is found in the two maps counts, not their order. -/
theorem agrees_of_get? {first second : Glossary}
    (terms : ∀ term, first.terms.get? term = second.terms.get? term)
    (folded : ∀ form, first.folded.get? form = second.folded.get? form) :
    first.Agrees second where
  define := by
    intro term
    simp only [Glossary.define, terms, folded]
  isTerm := by
    intro word
    simp only [Glossary.isTerm, OrderedMap.has, terms]

/-- Additions made a second time change nothing: where they say anything about a word, they said it
last the first time too. -/
theorem addAll_again_agrees (glossary : Glossary) (history : List (String × String)) :
    ((glossary.addAll history).addAll history).Agrees (glossary.addAll history) := by
  apply agrees_of_get?
  · intro term
    simp only [get?_terms_addAll, ← Option.or_assoc, Option.or_self]
  · intro form
    simp only [get?_folded_addAll, ← Option.or_assoc, Option.or_self]

/-- What a source adds depends on its bytes alone, if it has any. -/
theorem additionsFrom_eq_of_read {old new : Tree} {path : Path}
    (same : (new.read path).toOption = (old.read path).toOption) :
    additionsFrom new path = additionsFrom old path := by
  have ofBytes (tree : Tree) : additionsFrom tree path =
      (tree.read path).toOption.elim [] fun bytes => (readSource bytes).1 := by
    unfold additionsFrom
    cases tree.read path <;> rfl
  rw [ofBytes, ofBytes, same]

theorem additionsFromAll_eq_of_read {old new : Tree} {paths : List Path}
    (same : ∀ path ∈ paths, (new.read path).toOption = (old.read path).toOption) :
    additionsFromAll new paths = additionsFromAll old paths := by
  apply List.flatMap_congr
  intro path taken
  exact additionsFrom_eq_of_read (same path ((List.takeWhile_sublist _).subset taken))

/-- Loading sources again on top of what they gave leaves a glossary that says the same. -/
theorem loadAll_again_agrees (glossary : Glossary) {old new : Tree} {paths : List Path}
    (same : ∀ path ∈ paths, (new.read path).toOption = (old.read path).toOption) :
    ((glossary.loadAll old paths).1.loadAll new paths).1.Agrees
      (glossary.loadAll old paths).1 := by
  rw [loadAll_eq_addAll, loadAll_eq_addAll, additionsFromAll_eq_of_read same]
  exact glossary.addAll_again_agrees _

variable {first second : Glossary}

theorem Agrees.highlight (agrees : first.Agrees second) : first.highlight = second.highlight := by
  have same : first.isTerm = second.isTerm := funext agrees.isTerm
  funext text
  rw [Glossary.highlight, Glossary.highlight, same]

/-- Glossaries that agree explain the parts of a URL alike. -/
theorem Agrees.parse (agrees : first.Agrees second) :
    DocumentedUrl.parse first = DocumentedUrl.parse second := by
  have same : first.define = second.define := funext agrees.define
  have explained : UrlPart.explain first = UrlPart.explain second := by
    funext part
    cases part with
    | placeholder name => simp only [UrlPart.explain, same]
    | member term => rfl
  funext text
  have parts :
      (DocumentedUrl.parse first text).parts = (DocumentedUrl.parse second text).parts := by
    rw [DocumentedUrl.parts_parse, DocumentedUrl.parts_parse, explained]
    rfl
  exact congrArg (DocumentedUrl.mk _) parts

/-- Glossaries that agree define the fields of a table alike. -/
theorem Agrees.tableFor (agrees : first.Agrees second) (registry : Registry) :
    registry.tableFor first = registry.tableFor second := by
  have same : first.define = second.define := funext agrees.define
  have row (qualifier : String) (depth : Int) : FieldChain.row registry first qualifier depth =
      FieldChain.row registry second qualifier depth := by
    funext chain
    simp only [FieldChain.row, FieldRow.ofField, FieldRow.definitionOf, same]
  funext text
  unfold Registry.tableFor
  cases registry.reference text with
  | string => rfl
  | none => rfl
  | registered name =>
    cases registered : registry.has name with
    | false =>
      have missing : registry.fields? name = none := Option.not_isSome_iff_eq_none.1 (by
        rw [Bool.not_eq_true]
        exact registered)
      simp only [Registry.table?, missing, Option.map_none]
    | true => simp only [registry.table?_eq_map_chains _ _ _ _ _ registered, row]

end Glossary

/-- A block has the same record with glossaries that say the same. -/
theorem Record.ofLines_eq_of_agrees {first second : Glossary} (agrees : first.Agrees second)
    (registry : Registry) (marker : Wide) (lines : List String) (source : Option Path) :
    ofLines first registry marker lines source = ofLines second registry marker lines source := by
  rw [ofLines_eq_ofTexts, ofLines_eq_ofTexts]
  simp only [ofTexts, agrees.highlight, agrees.parse, agrees.tableFor]

end EndpointDocs
