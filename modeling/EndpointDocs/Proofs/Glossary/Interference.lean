import EndpointDocs.Proofs.Directive.Groups
import EndpointDocs.Proofs.Glossary.Marked
import EndpointDocs.Proofs.Payload.Chain
import EndpointDocs.Proofs.Url.Outline

/-!
What a glossary can change in a record: the definitions of placeholders and of fields, and the spans
in the description. Two records of one block, made with any two glossaries, agree on all the rest.
-/
namespace EndpointDocs

/-- The description without the tags of glossary spans. -/
def Html.withoutSpans (html : Html) : List Char :=
  Text.delete Glossary.spanEnd.toList (Text.delete Glossary.spanStart.toList html.source.toList)

def FieldRow.withoutDefinition (row : FieldRow) : FieldRow :=
  { row with definition := "" }

/-- The URLs have the same text and the same terms in the same order, and the members of request
objects are the same with their values. -/
structure DocumentedUrl.AgreeBeyondGlossary (first second : DocumentedUrl) : Prop where
  url : first.url = second.url
  terms : first.parts.map UrlTerm.term = second.parts.map UrlTerm.term
  members : ∀ (position : Nat) (term : UrlTerm),
    (outline first.url.toList)[position]? = some (.member term) →
      first.parts[position]? = some term ∧ second.parts[position]? = some term

/-- The records differ at most in definitions and in the spans of the description. -/
structure Record.AgreeBeyondGlossary (first second : Record) : Prop where
  title : first.title = second.title
  slug : first.slug = second.slug
  filename : first.filename = second.filename
  synopsis : first.synopsis = second.synopsis
  methods : first.methods = second.methods
  inputExample : first.inputExample = second.inputExample
  responseExample : first.responseExample = second.responseExample
  source : first.source = second.source
  urls : List.Forall₂ DocumentedUrl.AgreeBeyondGlossary first.urls second.urls
  input : first.input.map FieldRow.withoutDefinition = second.input.map FieldRow.withoutDefinition
  response : first.response.map FieldRow.withoutDefinition =
    second.response.map FieldRow.withoutDefinition
  description : first.description.withoutSpans = second.description.withoutSpans

/-- Two glossaries give a URL the same parts, differently explained. -/
theorem DocumentedUrl.parse_agree (first second : Glossary) (text : String) :
    (parse first text).AgreeBeyondGlossary (parse second text) where
  url := rfl
  terms := by
    rw [parts_parse, parts_parse, List.map_map, List.map_map]
    have sameTerm : UrlTerm.term ∘ UrlPart.explain first = UrlTerm.term ∘ UrlPart.explain second :=
      funext (UrlPart.term_explain first second)
    rw [sameTerm]
    rfl
  members := by
    intro position term listed
    have explained : ∀ glossary, (parse glossary text).parts[position]? = some term := by
      intro glossary
      have listed : (outline (parse glossary text).url.toList)[position]? = some (.member term) :=
        listed
      rw [parts_parse, List.getElem?_map, listed]
      rfl
    exact ⟨explained first, explained second⟩

/-- A field table depends on the glossary in its definitions only. -/
theorem Registry.tableFor_agree (registry : Registry) (first second : Glossary) (text : String) :
    (registry.tableFor first text).map FieldRow.withoutDefinition =
      (registry.tableFor second text).map FieldRow.withoutDefinition := by
  unfold tableFor
  cases registry.reference text with
  | string => rfl
  | none => rfl
  | registered name =>
    cases registered : registry.has name with
    | false =>
      have missing : registry.fields? name = none := Option.not_isSome_iff_eq_none.1 (by
        rw [Bool.not_eq_true]
        exact registered)
      simp [table?, missing]
    | true =>
      simp only [table?_eq_map_chains _ _ _ _ _ _ registered, Option.getD_some, List.map_map]
      rfl

/-- Joined paragraphs are marked versions of the joined bare ones: which paragraphs are left out at
the start does not depend on the glossary. -/
theorem Record.marked_joinParagraphs (glossary : Glossary) (texts : List String) :
    Glossary.Marked (joinParagraphs (texts.map glossary.highlight)).source.toList
      (joinParagraphs (texts.map Glossary.empty.highlight)).source.toList := by
  simp only [joinParagraphs, List.map_map]
  apply Glossary.Marked.intercalate
  induction texts with
  | nil => simp
  | cons text rest ih =>
    have marked := glossary.marked_highlight text
    have sameEmpty : (glossary.highlight text).source.isEmpty =
        (Glossary.empty.highlight text).source.isEmpty := by
      rw [Bool.eq_iff_iff]
      simpa using marked.eq_nil_iff
    simp only [List.map_cons, Function.comp_apply, List.dropWhile_cons, sameEmpty]
    split
    · exact ih
    · refine List.Forall₂.cons marked ?_
      rw [List.forall₂_map_left_iff, List.forall₂_map_right_iff, List.forall₂_same]
      exact fun other _ => glossary.marked_highlight other

theorem Record.withoutSpans_joinParagraphs (first second : Glossary) (texts : List String) :
    (joinParagraphs (texts.map first.highlight)).withoutSpans =
      (joinParagraphs (texts.map second.highlight)).withoutSpans := by
  rw [Html.withoutSpans, (marked_joinParagraphs first texts).delete_spans, Html.withoutSpans,
    (marked_joinParagraphs second texts).delete_spans]

/-- The glossary does not interfere with a block's record beyond definitions and spans. With any
glossary the block is refused, because there is no marker to look for, or with any glossary it has
a record. -/
theorem Record.glossary_noninterference (first second : Glossary) (registry : Registry)
    (marker : Wide) (lines : List String) (source : Option Path) :
    (marker = [] ∧ lines ≠ [] ∧
      ofLinesChecked first registry marker lines source = .error .emptyMarker ∧
      ofLinesChecked second registry marker lines source = .error .emptyMarker) ∨
    ∃ one other,
      ofLinesChecked first registry marker lines source = .ok one ∧
      ofLinesChecked second registry marker lines source = .ok other ∧
      one.AgreeBeyondGlossary other := by
  by_cases refused : (marker.isEmpty && !lines.isEmpty) = true
  · have causes : marker = [] ∧ lines ≠ [] := by simpa using refused
    exact .inl ⟨causes.1, causes.2, by simp [ofLinesChecked, refused],
      by simp [ofLinesChecked, refused]⟩
  · refine .inr ⟨_, _, if_neg refused, if_neg refused, ?_⟩
    rw [ofLines_eq_ofTexts, ofLines_eq_ofTexts]
    have tables : ∀ last : Option String,
        (last.elim [] (registry.tableFor first)).map FieldRow.withoutDefinition =
          (last.elim [] (registry.tableFor second)).map FieldRow.withoutDefinition := by
      intro last
      cases last with
      | none => rfl
      | some text => exact registry.tableFor_agree first second text
    refine ⟨rfl, rfl, rfl, rfl, rfl, rfl, rfl, rfl, ?_, tables _, tables _,
      withoutSpans_joinParagraphs first second _⟩
    simp only [ofTexts]
    rw [List.forall₂_map_left_iff, List.forall₂_map_right_iff, List.forall₂_same]
    exact fun text _ => DocumentedUrl.parse_agree first second text

end EndpointDocs
