import EndpointDocs.Proofs.Directive.Groups
import EndpointDocs.Proofs.Html.Escape
import EndpointDocs.Proofs.Page.Index
import EndpointDocs.Proofs.Payload.Chain

/-!
No text acts as markup. What is left of a page when all but its brackets and quotes is deleted is
decided by the shape of what it shows: how many URLs, parts and rows there are, which texts are
empty, and the fragments that are HTML already. The texts themselves leave nothing.
-/
namespace EndpointDocs

/-- A row whose label is its path behind the indentation of its depth. -/
def FieldRow.IsLabelled (row : FieldRow) : Prop :=
  row.label = FieldRow.indentation row.depth ++ Html.escape row.path

namespace Record

/-- A record all of whose rows have labels of their own paths. -/
def IsLabelled (record : Record) : Prop :=
  ∀ row ∈ record.input ++ record.response, row.IsLabelled

/-- Records that show the same things, whatever their texts say. -/
structure SameShape (first second : Record) : Prop where
  synopsis : first.synopsis.isEmpty = second.synopsis.isEmpty
  methods : first.methods = second.methods
  /-- As many URLs, each with as many parts. -/
  urls : first.urls.map (·.parts.length) = second.urls.map (·.parts.length)
  description : first.description = second.description
  /-- As many rows, at the same depths. -/
  input : first.input.map (·.depth) = second.input.map (·.depth)
  response : first.response.map (·.depth) = second.response.map (·.depth)
  inputExample : CodeBlock.renderExample first.inputExample =
    CodeBlock.renderExample second.inputExample
  responseExample : CodeBlock.renderExample first.responseExample =
    CodeBlock.renderExample second.responseExample

end Record

namespace Registry

/-- The rows of every table are labelled with their paths. -/
theorem isLabelled_of_mem_tableFor {registry : Registry} {glossary : Glossary} {text : String}
    {row : FieldRow} (listed : row ∈ registry.tableFor glossary text) : row.IsLabelled := by
  unfold tableFor at listed
  split at listed
  · rename_i name _
    cases found : registry.fields? name with
    | none =>
      rw [table?, found] at listed
      cases listed
    | some fields =>
      have registered : registry.has name = true := Option.isSome_iff_exists.2 ⟨fields, found⟩
      rw [registry.table?_eq_map_chains glossary name "" 1 [] registered] at listed
      obtain ⟨chain, _, rfl⟩ := List.mem_map.1 listed
      rfl
  · rw [List.mem_singleton.1 listed]
    rfl
  · cases listed

end Registry

/-- The records of blocks have labels of their own paths. -/
theorem Record.isLabelled_ofLines (glossary : Glossary) (registry : Registry) (marker : Wide)
    (lines : List String) (source : Option Path) :
    (Record.ofLines glossary registry marker lines source).IsLabelled := by
  have table (texts : List String) :
      ∀ row ∈ texts.getLast?.elim [] (registry.tableFor glossary), row.IsLabelled := by
    cases texts.getLast? with
    | none => simp
    | some text => exact fun row listed => Registry.isLabelled_of_mem_tableFor listed
  rw [Record.ofLines_eq_ofTexts]
  intro row listed
  exact (List.mem_append.1 listed).elim (table _ row) (table _ row)

namespace Page

/-- The brackets and quotes of a text. -/
def markup (text : Wide) : List Char :=
  text.filterMap fun point => point.char?.filter Html.isMarkup

theorem markup_append (first second : Wide) :
    markup (first ++ second) = markup first ++ markup second :=
  List.filterMap_append

theorem markup_ofString (text : String) : markup text = text.toList.filter Html.isMarkup := by
  rw [markup, Wide.ofString, List.filterMap_map, ← List.filterMap_eq_filter]
  rfl

theorem markup_join (texts : List String) :
    markup (String.join texts) = texts.flatMap fun (text : String) => markup text := by
  induction texts with
  | nil => rfl
  | cons text rest ih =>
    rw [String.join_cons, Wide.ofString_append, markup_append, ih, List.flatMap_cons]

/-- Escaped text has no brackets and no quotes. -/
theorem markup_escape (text : String) : markup (Html.escape text).source = [] := by
  rw [markup_ofString, Html.filter_isMarkup_escape]

theorem markup_escapeWide (text : Wide) : markup (Html.escapeWide text) = [] := by
  induction text with
  | nil => rfl
  | cons point text ih =>
    rw [Html.escapeWide, List.flatMap_cons, ← Html.escapeWide, markup_append, ih, List.append_nil]
    cases point with
    | half index => rfl
    | char c =>
      have entity := markup_ofString (String.ofList (Html.textEntity c))
      rwa [Wide.ofString, String.toList_ofList, Html.filter_isMarkup_textEntity] at entity

theorem markup_finish (body : Wide) : markup (finish body) = markup body := by
  unfold finish
  split
  · rfl
  · rw [markup_append]
    exact List.append_nil _

def outline (pieces : List Piece) : List Char :=
  pieces.flatMap fun piece => markup piece.source

theorem markup_source (pieces : List Piece) : markup (source pieces) = outline pieces := by
  rw [source, markup_join, List.flatMap_map, outline]

section Outline

variable (rest : List Piece)

@[simp]
theorem outline_nil : outline [] = [] :=
  rfl

@[simp]
theorem outline_append (first second : List Piece) :
    outline (first ++ second) = outline first ++ outline second :=
  List.flatMap_append

@[simp]
theorem outline_fixed (text : String) :
    outline (.fixed text :: rest) = markup text ++ outline rest :=
  rfl

/-- A text that is shown leaves nothing. -/
@[simp]
theorem outline_shown (text : String) : outline (.shown text :: rest) = outline rest := by
  have nothing : markup (Piece.shown text).source = [] := markup_escape text
  rw [outline, List.flatMap_cons, nothing, List.nil_append, outline]

@[simp]
theorem outline_html (fragment : Html) :
    outline (.html fragment :: rest) = markup fragment.source ++ outline rest :=
  rfl

end Outline

/-- Items that agree in `key`, one by one, are outlined alike if `key` decides the outline of
one. -/
theorem outline_flatMap_congr {α κ : Type} {pieces : α → List Piece} {key : α → κ}
    {items others : List α} (same : items.map key = others.map key)
    (decided : ∀ item ∈ items, ∀ other ∈ others, key item = key other →
      outline (pieces item) = outline (pieces other)) :
    outline (items.flatMap pieces) = outline (others.flatMap pieces) := by
  induction items generalizing others with
  | nil =>
    rw [List.map_nil, List.nil_eq, List.map_eq_nil_iff] at same
    rw [same]
  | cons item items ih =>
    cases others with
    | nil => cases same
    | cons other others =>
      rw [List.map_cons, List.map_cons, List.cons.injEq] at same
      have first := decided item List.mem_cons_self other List.mem_cons_self same.1
      have later := ih same.2 fun item listed other otherListed =>
        decided item (List.mem_cons_of_mem _ listed) other (List.mem_cons_of_mem _ otherListed)
      rw [List.flatMap_cons, List.flatMap_cons, outline_append, outline_append, first, later]

theorem isEmpty_eq_of_map_eq {α κ : Type} {key : α → κ} {items others : List α}
    (same : items.map key = others.map key) : items.isEmpty = others.isEmpty := by
  simpa using congrArg List.isEmpty same

theorem outline_urlPartPieces {parts others : List UrlTerm} (same : parts.length = others.length) :
    outline (urlPartPieces parts) = outline (urlPartPieces others) := by
  have sameUnits : parts.map (fun _ => ()) = others.map (fun _ => ()) := by
    rw [List.map_const', List.map_const', same]
  unfold urlPartPieces
  rw [isEmpty_eq_of_map_eq sameUnits]
  split
  · rfl
  · rw [outline_append, outline_append, outline_append, outline_append,
      outline_flatMap_congr sameUnits fun part _ other _ _ => by simp]

theorem outline_urlPieces {url other : DocumentedUrl}
    (same : url.parts.length = other.parts.length) :
    outline (urlPieces url) = outline (urlPieces other) := by
  simp [urlPieces, outline_urlPartPieces same]

theorem outline_synopsisPieces {synopsis other : String} (same : synopsis.isEmpty = other.isEmpty) :
    outline (synopsisPieces synopsis) = outline (synopsisPieces other) := by
  unfold synopsisPieces
  rw [same]
  split <;> simp

/-- The label of a row leaves nothing: an indentation has no tags, and a path is escaped. -/
theorem markup_label {row : FieldRow} (labelled : row.IsLabelled) :
    markup row.label.source = [] := by
  have unit : markup FieldRow.indentUnit = [] := by decide
  have indentation : markup (FieldRow.indentation row.depth).source = [] := by
    simp [FieldRow.indentation, markup_join, unit]
  rw [labelled]
  change markup (Wide.ofString
    ((FieldRow.indentation row.depth).source ++ (Html.escape row.path).source)) = []
  rw [Wide.ofString_append, markup_append, indentation, markup_escape, List.nil_append]

/-- Tables whose rows have the same depths have the same brackets and quotes. -/
theorem outline_tablePieces {rows others : List FieldRow}
    (same : rows.map (·.depth) = others.map (·.depth)) (labelled : ∀ row ∈ rows, row.IsLabelled)
    (othersLabelled : ∀ row ∈ others, row.IsLabelled) :
    outline (tablePieces rows) = outline (tablePieces others) := by
  unfold tablePieces
  rw [isEmpty_eq_of_map_eq same]
  split
  · rfl
  · have body : outline (rows.flatMap rowPieces) = outline (others.flatMap rowPieces) :=
      outline_flatMap_congr same fun row listed other otherListed _ => by
        simp [rowPieces, markup_label (labelled row listed),
          markup_label (othersLabelled other otherListed)]
    rw [outline_append, outline_append, outline_append, outline_append, body]

theorem outline_payloadPieces (heading className : String) {rows others : List FieldRow}
    (payload : Html) (same : rows.map (·.depth) = others.map (·.depth))
    (labelled : ∀ row ∈ rows, row.IsLabelled) (othersLabelled : ∀ row ∈ others, row.IsLabelled) :
    outline (payloadPieces heading className rows payload) =
      outline (payloadPieces heading className others payload) := by
  unfold payloadPieces
  rw [isEmpty_eq_of_map_eq same]
  split
  · rfl
  · simp only [outline_append, outline_tablePieces same labelled othersLabelled]

/-- Records of one shape have reference pages with the same brackets and quotes. -/
theorem outline_referencePieces {first second : Record} (shape : first.SameShape second)
    (labelled : first.IsLabelled) (secondLabelled : second.IsLabelled) (stylesheet : String)
    (now : Moment) (inputExample responseExample : Html) :
    outline (referencePieces first inputExample responseExample stylesheet now) =
      outline (referencePieces second inputExample responseExample stylesheet now) := by
  have urls : outline (first.urls.flatMap urlPieces) = outline (second.urls.flatMap urlPieces) :=
    outline_flatMap_congr shape.urls fun url _ other _ same => outline_urlPieces same
  have input := outline_payloadPieces "Input" "ws-input" inputExample shape.input
    (fun row listed => labelled row (List.mem_append_left _ listed))
    (fun row listed => secondLabelled row (List.mem_append_left _ listed))
  have response := outline_payloadPieces "Response" "ws-response" responseExample shape.response
    (fun row listed => labelled row (List.mem_append_right _ listed))
    (fun row listed => secondLabelled row (List.mem_append_right _ listed))
  simp only [referencePieces, outline_append, outline_fixed, outline_shown, outline_html,
    outline_synopsisPieces shape.synopsis, shape.methods, urls, shape.description, input, response]

theorem outline_entryPieces {record other : Record}
    (same : record.filename.isEmpty = other.filename.isEmpty) :
    outline (entryPieces record) = outline (entryPieces other) := by
  unfold entryPieces titlePieces
  rw [same]
  split <;> simp

theorem markup_indexOpening (version other : Wide) (now : Moment) :
    markup (indexOpening version now) = markup (indexOpening other now) := by
  simp only [indexOpening, markup_append, markup_escapeWide]

theorem markup_index {records others : List Record}
    (same : records.map (·.filename.isEmpty) = others.map (·.filename.isEmpty))
    (version other : Wide) (now : Moment) :
    markup (index ⟨records, version, now⟩) = markup (index ⟨others, other, now⟩) := by
  have rows : outline (records.flatMap entryPieces) = outline (others.flatMap entryPieces) :=
    outline_flatMap_congr same fun record _ other _ => outline_entryPieces
  simp only [index, markup_append, markup_source, outline_append, rows,
    markup_indexOpening version other]

/-- No text can bring markup into a page. Reference pages of records of one shape, with one
stylesheet at one moment, have the same brackets and quotes in the same order, whatever the titles,
slugs, synopses, URLs, terms, definitions, types and paths are; the rows must be labelled with their
paths, as those of every block are. So have index pages at one moment for lists of records of one
length, if the same ones have a page; their methods and versions may differ too. -/
theorem markup_determined_by_shape :
    (∀ (glossary : Glossary) (registry : Registry) (marker : Wide) (lines : List String)
        (source : Option Path),
      (Record.ofLines glossary registry marker lines source).IsLabelled) ∧
    (∀ first second : Record, first.SameShape second → first.IsLabelled → second.IsLabelled →
      ∀ (stylesheet : String) (now : Moment),
        markup (finish (source (referencePieces first
            (CodeBlock.renderExample first.inputExample)
            (CodeBlock.renderExample first.responseExample) stylesheet now))) =
          markup (finish (source (referencePieces second
            (CodeBlock.renderExample second.inputExample)
            (CodeBlock.renderExample second.responseExample) stylesheet now)))) ∧
    ∀ firsts seconds : List Record,
      firsts.map (·.filename.isEmpty) = seconds.map (·.filename.isEmpty) →
      ∀ (version other : Wide) (now : Moment),
        markup (finish (index ⟨firsts, version, now⟩)) =
          markup (finish (index ⟨seconds, other, now⟩)) := by
  refine ⟨Record.isLabelled_ofLines, ?_, ?_⟩
  · intro first second shape labelled secondLabelled stylesheet now
    rw [markup_finish, markup_finish, markup_source, markup_source, shape.inputExample,
      shape.responseExample]
    exact outline_referencePieces shape labelled secondLabelled stylesheet now _ _
  · intro firsts seconds same version other now
    rw [markup_finish, markup_finish]
    exact markup_index same version other now

def rowNamed (path dataType definition : String) : FieldRow where
  label := FieldRow.indentation 1 ++ Html.escape path
  dataType := dataType
  definition := definition
  optional := false
  path := path
  depth := 1

def plainRecord : Record where
  title := "Ping"
  slug := "ping"
  filename := "ping.html"
  urls := [⟨"/v1/:ID", [⟨"ID", "a number"⟩]⟩]
  synopsis := "Answers"
  methods := ["GET"]
  description := ⟨"for <span class=\"glossary\">BID</span>"⟩
  response := [rowNamed "status" "str" "outcome"]

/-- A record of the same shape, all of whose texts try to be markup. -/
def hostileRecord : Record where
  title := "</title><script>alert('x')</script>"
  slug := "\" onload=\"x"
  filename := "'><img src=x>.html"
  urls := [⟨"<a href='x'>", [⟨"<b>", "\"&\"></td>"⟩]⟩]
  synopsis := "<!--"
  methods := ["GET"]
  description := ⟨"for <span class=\"glossary\">BID</span>"⟩
  response := [rowNamed "<i>" "list[\"'\"]" "</table>"]

theorem markup_hostileRecord :
    plainRecord.SameShape hostileRecord ∧
      (referenceIn .standard plainRecord plainStylesheet ⟨2024, 1, 2, 3, 4, 5, 0⟩).map markup =
        (referenceIn .standard hostileRecord plainStylesheet ⟨2024, 1, 2, 3, 4, 5, 0⟩).map markup ∧
      (indexIn .standard [plainRecord] "1.0" ⟨2024, 1, 2, 3, 4, 5, 0⟩).map markup =
        (indexIn .standard [hostileRecord] "<2>" ⟨2024, 1, 2, 3, 4, 5, 0⟩).map markup := by
  have sameExample : plainRecord.inputExample = hostileRecord.inputExample := rfl
  have sameResponse : plainRecord.responseExample = hostileRecord.responseExample := rfl
  have shape : plainRecord.SameShape hostileRecord :=
    ⟨by decide, rfl, rfl, rfl, rfl, rfl, congrArg _ sameExample, congrArg _ sameResponse⟩
  have labelled : plainRecord.IsLabelled ∧ hostileRecord.IsLabelled := by
    constructor <;> intro row listed <;> cases List.mem_singleton.1 listed <;> rfl
  obtain ⟨_, referencePages, indexPages⟩ := markup_determined_by_shape
  refine ⟨shape, ?_, ?_⟩
  · exact congrArg Except.ok (referencePages _ _ shape labelled.1 labelled.2 _ _)
  · have sorted (record : Record) : Record.sortByTitle [record] = [record] :=
      List.mergeSort_singleton record
    unfold indexIn IndexData.ofContents
    rw [sorted, sorted]
    exact congrArg Except.ok (indexPages _ _ (by decide) _ _ _)

end Page

end EndpointDocs
