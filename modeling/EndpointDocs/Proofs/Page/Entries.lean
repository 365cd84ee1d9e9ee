import EndpointDocs.Proofs.Html.Escape
import EndpointDocs.Proofs.Page.Index

/-!
An index page says all that its rows show. Fixed text begins with markup after each text that is
shown, and escaped text has none: so two pages of one form are equal only piece by piece, and a row
that is linked is never equal to one that is not.
-/
namespace EndpointDocs

/-- What the row of a record shows. -/
structure IndexEntry where
  slug : String
  filename : String
  title : String
  methods : String
  synopsis : String
  deriving DecidableEq, Repr

/-- What a record shows in an index; its methods stand in one text. -/
def Record.entry (record : Record) : IndexEntry :=
  ⟨record.slug, record.filename, record.title, ", ".intercalate record.methods, record.synopsis⟩

namespace Page

/-- Two lists of pieces have the same fixed texts, and after each text that is shown the next fixed
text begins with markup. -/
inductive SameForm : List Piece → List Piece → Prop
  | nil : SameForm [] []
  | fixed (text : String) {pieces others : List Piece} (next : SameForm pieces others) :
      SameForm (.fixed text :: pieces) (.fixed text :: others)
  | shown (text other : String) {mark : String} {pieces others : List Piece}
      (markup : mark.toList.head?.any Html.isMarkup = true) (next : SameForm pieces others) :
      SameForm (.shown text :: .fixed mark :: pieces) (.shown other :: .fixed mark :: others)

/-- Pages of one form are equal only piece by piece, whatever follows them. -/
theorem SameForm.eq_of_source {pieces others : List Piece} (same : SameForm pieces others)
    {rest rest' : List Char}
    (equal : (source pieces).toList ++ rest = (source others).toList ++ rest') :
    pieces = others ∧ rest = rest' := by
  induction same with
  | nil => exact ⟨rfl, equal⟩
  | fixed text next ih =>
    simp only [source_cons, String.toList_append, List.append_assoc] at equal
    obtain ⟨rfl, rfl⟩ := ih (List.append_cancel_left equal)
    exact ⟨rfl, rfl⟩
  | @shown text other mark pieces others markup next ih =>
    simp only [source_cons, Piece.source, String.toList_append, List.append_assoc] at equal
    have cut := Html.escape_append_inj (Html.any_head?_append markup _)
      (Html.any_head?_append markup _) equal
    obtain ⟨rfl, rfl⟩ := ih (List.append_cancel_left cut.2)
    exact ⟨by rw [cut.1], rfl⟩

theorem sameForm_rowStart (record other : Record) : SameForm (rowStart record) (rowStart other) :=
  .fixed _ (.shown _ _ (by decide +kernel) .nil)

theorem titlePieces_of_linked {record : Record} (linked : record.filename ≠ "") :
    titlePieces record = [.fixed "<a href=\"", .shown record.filename, .fixed "\">",
      .shown record.title, .fixed "</a>"] := by
  rw [titlePieces, if_neg (by simpa using linked)]

theorem titlePieces_of_unlinked {record : Record} (unlinked : record.filename = "") :
    titlePieces record = [.shown record.title] := by
  rw [titlePieces, if_pos (by simpa using unlinked)]

/-- Rows that are both linked, or both not, have one form from the title on. -/
theorem sameForm_title {record other : Record}
    (linked : record.filename = "" ↔ other.filename = "") :
    SameForm (titlePieces record ++ rowEnd record) (titlePieces other ++ rowEnd other) := by
  have cells : SameForm (rowEnd record).tail (rowEnd other).tail :=
    .shown _ _ (by decide +kernel) (.shown _ _ (by decide +kernel) .nil)
  by_cases unlinked : record.filename = ""
  · rw [titlePieces_of_unlinked unlinked, titlePieces_of_unlinked (linked.1 unlinked)]
    exact .shown _ _ (by decide +kernel) cells
  · rw [titlePieces_of_linked unlinked, titlePieces_of_linked (mt linked.2 unlinked)]
    exact .fixed _ (.shown _ _ (by decide +kernel) (.shown _ _ (by decide +kernel)
      (.fixed _ cells)))

/-- A link is no title without one: a title that is escaped begins no tag, and the cell is closed by
a tag of another name. -/
theorem linked_ne_unlinked {record other : Record} (linked : record.filename ≠ "")
    (unlinked : other.filename = "") (rest rest' : List Char) :
    (source (titlePieces record ++ rowEnd record)).toList ++ rest ≠
      (source (titlePieces other ++ rowEnd other)).toList ++ rest' := by
  rw [titlePieces_of_linked linked, titlePieces_of_unlinked unlinked]
  intro equal
  simp only [rowEnd, List.cons_append, List.nil_append, source_cons, Piece.source,
    String.toList_append, List.append_assoc] at equal
  have nothing : (Html.escape "").source.toList = [] := by decide
  have link : "<a href=\"".toList.head?.any Html.isMarkup = true := by decide
  have closing : "</td>\n        <td class=\"methods\">".toList.head?.any Html.isMarkup = true := by
    decide +kernel
  rw [← List.nil_append ("<a href=\"".toList ++ _), ← nothing] at equal
  have tags := (Html.escape_append_inj (Html.any_head?_append link _)
    (Html.any_head?_append closing _) equal).2
  have initials := congrArg (List.take 2) tags
  rw [List.take_append_of_le_length (by decide +kernel),
    List.take_append_of_le_length (by decide +kernel)] at initials
  exact absurd initials (by decide +kernel)

/-- Rows are equal, whatever follows them, only if they show the same. -/
theorem indexRow_append_inj {record other : Record} {rest rest' : List Char}
    (equal : (indexRow record).toList ++ rest = (indexRow other).toList ++ rest') :
    record.entry = other.entry ∧ rest = rest' := by
  rw [toList_indexRow, toList_indexRow] at equal
  obtain ⟨start, equal⟩ := (sameForm_rowStart record other).eq_of_source equal
  have linked : record.filename = "" ↔ other.filename = "" := by
    constructor
    · intro unlinked
      exact Decidable.of_not_not fun isLinked =>
        linked_ne_unlinked isLinked unlinked _ _ equal.symm
    · intro unlinked
      exact Decidable.of_not_not fun isLinked => linked_ne_unlinked isLinked unlinked _ _ equal
  obtain ⟨title, rfl⟩ := (sameForm_title linked).eq_of_source equal
  refine ⟨?_, rfl⟩
  have slug : record.slug = other.slug := by simpa [rowStart] using start
  by_cases unlinked : record.filename = ""
  · rw [titlePieces_of_unlinked unlinked, titlePieces_of_unlinked (linked.1 unlinked)] at title
    simp only [rowEnd, List.cons_append, List.nil_append, List.cons.injEq, Piece.shown.injEq,
      true_and, and_true] at title
    rw [Record.entry, Record.entry, slug, unlinked, linked.1 unlinked, title.1, title.2.1,
      title.2.2]
  · rw [titlePieces_of_linked unlinked, titlePieces_of_linked (mt linked.2 unlinked)] at title
    simp only [rowEnd, List.cons_append, List.nil_append, List.cons.injEq, Piece.shown.injEq,
      true_and, and_true] at title
    rw [Record.entry, Record.entry, slug, title.1, title.2.1, title.2.2.1, title.2.2.2]

theorem indexRow_ne_empty (record : Record) : (indexRow record).toList ≠ [] := by
  have margin : "      <tr id=\"".toList ≠ [] := by decide
  rw [indexRow, entryPieces, List.append_assoc, List.cons_append, source_cons, String.toList_append]
  exact List.append_ne_nil_of_left_ne_nil margin _

/-- Rows that follow one another are equal only if they show the same, one after another. -/
theorem map_entry_of_join {records others : List Record}
    (equal : (String.join (records.map indexRow)).toList =
      (String.join (others.map indexRow)).toList) :
    records.map Record.entry = others.map Record.entry := by
  induction records generalizing others with
  | nil =>
    cases others with
    | nil => rfl
    | cons other others =>
      rw [List.map_cons, String.join_cons, String.toList_append] at equal
      exact absurd (List.append_eq_nil_iff.1 equal.symm).1 (indexRow_ne_empty other)
  | cons record records ih =>
    cases others with
    | nil =>
      rw [List.map_cons, String.join_cons, String.toList_append] at equal
      exact absurd (List.append_eq_nil_iff.1 equal).1 (indexRow_ne_empty record)
    | cons other others =>
      simp only [List.map_cons, String.join_cons, String.toList_append] at equal
      obtain ⟨entry, rest⟩ := indexRow_append_inj equal
      rw [List.map_cons, List.map_cons, entry, ih rest]

/-- Records that show the same have the same row. -/
theorem indexRow_congr {record other : Record} (same : record.entry = other.entry) :
    indexRow record = indexRow other := by
  simp only [Record.entry, IndexEntry.mk.injEq] at same
  simp only [indexRow, entryPieces, titlePieces, same]

theorem map_indexRow_congr {records others : List Record}
    (same : records.map Record.entry = others.map Record.entry) :
    records.map indexRow = others.map indexRow := by
  induction records generalizing others with
  | nil => rw [List.map_eq_nil_iff.1 same.symm]
  | cons record records ih =>
    cases others with
    | nil => cases same
    | cons other others =>
      rw [List.map_cons, List.map_cons, List.cons.injEq] at same
      rw [List.map_cons, List.map_cons, indexRow_congr same.1, ih same.2]

/-- Two index pages of one version and time are equal exactly if their rows, in the order of titles,
show the same. -/
theorem indexIn_eq_iff_entries (contents others : List Record) (version : Wide) (now : Moment) :
    indexIn .standard contents version now = indexIn .standard others version now ↔
      (Record.sortByTitle contents).map Record.entry =
        (Record.sortByTitle others).map Record.entry := by
  rw [indexIn_standard, indexIn_standard]
  constructor
  · intro equal
    have rows := List.append_cancel_left (List.append_cancel_right (Except.ok.inj equal))
    exact map_entry_of_join (congrArg String.toList (Wide.ofString_injective rows))
  · intro same
    rw [map_indexRow_congr same]

end Page

end EndpointDocs
