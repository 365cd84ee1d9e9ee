import EndpointDocs.Page.Layout
import EndpointDocs.Proofs.Files.Frame
import EndpointDocs.Proofs.Text.CodePoint

/-!
Written pages and the order of an index. A page that was written is read back from its path, and a
refused one leaves every file as it was, unless it cannot be encoded: then its own file is emptied.
The rows of an index are its records by title, where records of one title keep their order.
-/
namespace EndpointDocs

namespace Record

/-- The rows of an index are the records, no more and no less. -/
theorem sortByTitle_perm (records : List Record) : (sortByTitle records).Perm records :=
  List.mergeSort_perm records _

theorem titleLe_trans (a b c : Record) (first : decide (a.title ≤ b.title) = true)
    (second : decide (b.title ≤ c.title) = true) : decide (a.title ≤ c.title) = true :=
  decide_eq_true (String.le_trans (of_decide_eq_true first) (of_decide_eq_true second))

theorem titleLe_total (a b : Record) :
    (decide (a.title ≤ b.title) || decide (b.title ≤ a.title)) = true := by
  rcases String.le_total a.title b.title with le | ge
  · simp [le]
  · simp [ge]

theorem sortByTitle_pairwise (records : List Record) :
    (sortByTitle records).Pairwise fun a b => a.title ≤ b.title := by
  have sorted := List.pairwise_mergeSort titleLe_trans titleLe_total records
  exact sorted.imp of_decide_eq_true

/-- Records of one title keep their order: they are a sorted sublist, which sorting keeps, and there
are no others of that title. -/
theorem filter_sortByTitle (records : List Record) (title : String) :
    (sortByTitle records).filter (·.title = title) = records.filter (·.title = title) := by
  have equalTitles : (records.filter (·.title = title)).Pairwise
      fun a b => decide (a.title ≤ b.title) = true := by
    apply List.pairwise_of_forall_mem_list
    intro a aListed b bListed
    have aTitle : a.title = title := by simpa using (List.mem_filter.1 aListed).2
    have bTitle : b.title = title := by simpa using (List.mem_filter.1 bListed).2
    rw [aTitle, bTitle]
    exact decide_eq_true (String.le_refl title)
  have kept : (records.filter (·.title = title)).Sublist (sortByTitle records) :=
    List.sublist_mergeSort titleLe_trans titleLe_total equalTitles List.filter_sublist
  have inside : (records.filter (·.title = title)).Sublist
      ((sortByTitle records).filter (·.title = title)) := by
    have filtered := kept.filter (fun record => decide (record.title = title))
    simpa only [List.filter_filter, Bool.and_self] using filtered
  have sameLength := ((sortByTitle_perm records).filter (·.title = title)).length_eq
  exact (inside.eq_of_length sameLength.symm).symm

end Record

namespace Page

theorem source_cons (piece : Piece) (pieces : List Piece) :
    source (piece :: pieces) = piece.source ++ source pieces := by
  simp [source, String.join_cons]

theorem source_append (first second : List Piece) :
    source (first ++ second) = source first ++ source second := by
  simp [source, String.join_append]

theorem source_flatMap {α : Type} (items : List α) (pieces : α → List Piece) :
    source (items.flatMap pieces) = String.join (items.map fun item => source (pieces item)) := by
  induction items with
  | nil => rfl
  | cons item rest ih => rw [List.flatMap_cons, source_append, ih, List.map_cons, String.join_cons]

def indexRow (record : Record) : String :=
  source (entryPieces record)

/-- A page that ends with a tag gets a line feed. -/
theorem finish_of_tag {body : Wide} (before : Wide) {text : String}
    (ends : body = before ++ Wide.ofString (text ++ ">")) : finish body = body ++ "\n" := by
  have last : body.getLast? = some (.char '>') := by
    rw [ends, Wide.ofString_append, ← List.append_assoc]
    exact List.getLast?_concat
  rw [finish, last, if_neg (by simp)]

/-- What is finished stays a text. -/
theorem exists_finish_eq (body : String) : ∃ text : String, finish body = text := by
  unfold finish
  split
  · exact ⟨body, rfl⟩
  · exact ⟨body ++ "\n", (Wide.ofString_append _ _).symm⟩

/-- The index page is one row after another between what is the same in every index. -/
theorem indexIn_standard (contents : List Record) (version : Wide) (now : Moment) :
    indexIn .standard contents version now =
      .ok (indexOpening version now ++
        Wide.ofString (String.join ((Record.sortByTitle contents).map indexRow)) ++
        Wide.ofString (source indexClosing ++ "\n")) := by
  have closing : source indexClosing = "    </tbody>\n  </table>\n</body>\n</html" ++ ">" := rfl
  have body : index ⟨Record.sortByTitle contents, version, now⟩ = indexOpening version now ++
      Wide.ofString (String.join ((Record.sortByTitle contents).map indexRow)) ++
        Wide.ofString (source indexClosing) := by
    rw [index, source_append, source_flatMap, Wide.ofString_append, List.append_assoc]
    rfl
  rw [indexIn, Layout.render, IndexData.ofContents, finish_of_tag _ (by rw [body, closing]), body,
    Wide.ofString_append, List.append_assoc]

/-- What stands before the rows of an index whose version is a text. -/
def openingPieces (version : String) (now : Moment) : List Piece :=
  beforeVersion ++ .shown version :: afterVersion now

theorem escapeWide_ofString (text : String) :
    Html.escapeWide text = Wide.ofString (Html.escape text).source := by
  rw [Html.escapeWide, Wide.ofString, Wide.ofString, Html.escape, String.toList_ofList,
    List.flatMap_map, List.map_flatMap]

theorem indexOpening_ofString (version : String) (now : Moment) :
    indexOpening version now = Wide.ofString (source (openingPieces version now)) := by
  rw [indexOpening, openingPieces, source_append, source_cons, escapeWide_ofString,
    Wide.ofString_append, Wide.ofString_append, List.append_assoc]
  rfl

/-- The text of the index page of a version that is a text. -/
def indexText (contents : List Record) (version : String) (now : Moment) : String :=
  source (openingPieces version now) ++
    String.join ((Record.sortByTitle contents).map indexRow) ++ (source indexClosing ++ "\n")

theorem indexIn_standard_ofString (contents : List Record) (version : String) (now : Moment) :
    indexIn .standard contents version now =
      .ok (Wide.ofString (indexText contents version now)) := by
  rw [indexIn_standard, indexOpening_ofString, indexText, ← Wide.ofString_append,
    ← Wide.ofString_append]

theorem half_mem_escapeWide_iff {index : Fin 0x800} {text : Wide} :
    .half index ∈ Html.escapeWide text ↔ .half index ∈ text := by
  induction text with
  | nil => rfl
  | cons point text ih =>
    rw [Html.escapeWide, List.flatMap_cons, ← Html.escapeWide, List.mem_append, List.mem_cons, ih]
    cases point with
    | char c => simp
    | half other => simp

/-- A reference page of the pages' own layout is a text. -/
theorem referenceIn_standard (record : Record) (stylesheet : CodeBlock.Stylesheet) (now : Moment) :
    referenceIn .standard record stylesheet now =
      .ok (Wide.ofString (reference (.ofRecord record stylesheet now) ++ "\n")) := by
  obtain ⟨pieces, shape⟩ : ∃ pieces, reference (.ofRecord record stylesheet now) =
      source (pieces ++ [.fixed "</footer>\n</body>\n</html>"]) :=
    ⟨_, congrArg source (List.append_assoc _ [_, _] [_]).symm⟩
  have last : source [.fixed "</footer>\n</body>\n</html>"] = "</footer>\n</body>\n</html" ++ ">" :=
    rfl
  rw [referenceIn, Layout.render, finish_of_tag (Wide.ofString (source pieces)),
    Wide.ofString_append]
  rw [shape, source_append, last, Wide.ofString_append]

def rowStart (record : Record) : List Piece :=
  [.fixed "      <tr id=\"", .shown record.slug, .fixed "\">\n        <td class=\"title\">"]

def rowEnd (record : Record) : List Piece :=
  [.fixed "</td>\n        <td class=\"methods\">", .shown (", ".intercalate record.methods),
    .fixed "</td>\n        <td class=\"synopsis\">", .shown record.synopsis,
    .fixed "</td>\n      </tr>\n"]

theorem toList_indexRow (record : Record) (rest : List Char) :
    (indexRow record).toList ++ rest = (source (rowStart record)).toList ++
      ((source (titlePieces record ++ rowEnd record)).toList ++ rest) := by
  have pieces : entryPieces record = rowStart record ++ (titlePieces record ++ rowEnd record) :=
    List.append_assoc _ _ _
  rw [indexRow, pieces, source_append, String.toList_append, List.append_assoc]

/-- The file at a path holds a page, which is a text then. -/
def Stored (tree : Tree) (path : Path) (page : Except TemplateError Wide) : Prop :=
  ∃ text : String, page = .ok (Wide.ofString text) ∧
    tree.read path = .ok (Text.Utf8.encode text.toList)

/-- A page comes out but is no text. -/
def Unencodable (page : Except TemplateError Wide) : Prop :=
  ∃ text fault, page = .ok text ∧ Text.Utf8.encodeWide text = .error fault

theorem not_unencodable_ofString (text : String) : ¬ Unencodable (.ok (Wide.ofString text)) := by
  rintro ⟨_, fault, ⟨rfl⟩, failed⟩
  rw [Text.Utf8.encodeWide_ofString] at failed
  cases failed

theorem not_unencodable_referenceIn (record : Record) (stylesheet : CodeBlock.Stylesheet)
    (now : Moment) : ¬ Unencodable (referenceIn .standard record stylesheet now) := by
  rw [referenceIn_standard]
  exact not_unencodable_ofString _

/-- An index of the pages' own layout cannot be encoded exactly if its version is no text. -/
theorem unencodable_indexIn_iff (contents : List Record) (version : Wide) (now : Moment) :
    Unencodable (indexIn .standard contents version now) ↔ ∃ index, .half index ∈ version := by
  constructor
  · rintro ⟨text, fault, isText, failed⟩
    by_contra none
    obtain ⟨plain, rfl⟩ := Wide.exists_of_no_half fun index listed => none ⟨index, listed⟩
    rw [indexIn_standard_ofString] at isText
    exact not_unencodable_ofString _ ⟨text, fault, isText, failed⟩
  · rintro ⟨index, listed⟩
    rw [indexIn_standard]
    obtain ⟨fault, failed⟩ := Text.Utf8.encodeWide_error_iff.2 ⟨index, List.mem_append_left _
      (List.mem_append_left _ (List.mem_append_left _ (List.mem_append_right _
        (half_mem_escapeWide_iff.2 listed))))⟩
    exact ⟨_, fault, rfl, failed⟩

/-- What was tried at the path of a page left the page there, or no byte because the page cannot be
encoded. -/
def Left (tree : Tree) (path : Path) (page : Except TemplateError Wide) (written : Option Path) :
    Prop :=
  match written with
  | some _ => Stored tree path page
  | none => Unencodable page ∧ tree.read path = .ok []

theorem Left.of_read_eq {tree other : Tree} {path path' : Path} {page : Except TemplateError Wide}
    {written : Option Path} (left : Left tree path page written)
    (same : other.read path' = tree.read path) : Left other path' page written := by
  cases written with
  | some _ =>
    obtain ⟨text, isText, read⟩ := left
    exact ⟨text, isText, same.trans read⟩
  | none => exact ⟨left.1, same.trans left.2⟩

/-- One file was written, where its path leads from then on, and its directory is there. -/
structure Wrote (tree new : Tree) (directory path : Path) : Prop where
  file : ∃ place, new.locate path = .ok place ∧ Tree.Frame (· = place) tree new
  directory : ∃ place, new.locate directory = .ok place ∧ new.isDirectoryAt place = true

theorem wrote_of_write {tree prepared new : Tree} {directory path : Path} {bytes : List UInt8}
    (made : tree.createDirectories directory = (none, prepared))
    (written : prepared.write path bytes = .ok new) :
    new.read path = .ok bytes ∧ Wrote tree new directory path := by
  obtain ⟨clean, place, located, there, frame⟩ := Tree.write_ok written
  have prepare := Tree.Frame.createDirectories (· = place) tree directory
  rw [made] at prepare
  obtain ⟨above, isAbove, isDirectory⟩ := Tree.createDirectories_ok made
  refine ⟨by simp [Tree.read, clean, located, there], ⟨place, located, prepare.trans frame⟩, above,
    frame.locate_ok isAbove, frame.isDirectoryAt isDirectory⟩

section Write

variable {tree new : Tree} {directory path : Path} {page : Except TemplateError Wide}

/-- A written page stands where its path leads from then on, and is all that was written. -/
theorem writeInto_ok {written : Path}
    (done : writeInto tree directory path page = (.ok written, new)) :
    written = path ∧ Stored new path page ∧ Wrote tree new directory path := by
  unfold writeInto at done
  split at done
  · cases done
  · rename_i made
    split at done
    · cases done
    · split at done
      · rename_i encoded
        split at done
        · cases done
        · rename_i wrote
          cases done
          obtain ⟨text, rfl, rfl⟩ := Text.Utf8.exists_of_encodeWide encoded
          obtain ⟨read, wrote⟩ := wrote_of_write made wrote
          exact ⟨rfl, ⟨text, rfl, read⟩, wrote⟩
      · split at done <;> cases done

/-- A page that could not be written leaves all files as they were, or, if it cannot be encoded, may
leave its own empty. -/
theorem writeInto_error {error : WriteError}
    (refused : writeInto tree directory path page = (.error error, new)) :
    (∀ written, Tree.Frame written tree new) ∨
      ∃ text fault, page = .ok text ∧ Text.Utf8.encodeWide text = .error fault ∧
        error = .file (.unencodable fault) ∧ new.read path = .ok [] ∧
        Wrote tree new directory path := by
  have prepare (written : Place → Prop) := Tree.Frame.createDirectories written tree directory
  unfold writeInto at refused
  split at refused
  · rename_i made
    cases refused
    exact .inl fun written => by simpa only [made] using prepare written
  · rename_i made
    simp only [made] at prepare
    split at refused
    · cases refused
      exact .inl prepare
    · rename_i text
      split at refused
      · split at refused
        · cases refused
          exact .inl prepare
        · cases refused
      -- The file is opened before the page is encoded, so the failure leaves it empty.
      · rename_i fault failed
        split at refused
        · cases refused
          exact .inl prepare
        · rename_i emptied
          cases refused
          exact .inr ⟨text, fault, rfl, failed, rfl, wrote_of_write made emptied⟩

end Write

/-- Writes a text to `path` after creating `directory`. -/
def writeText (tree : Tree) (directory path : Path) (text : String) :
    Except WriteError Path × Tree :=
  match tree.createDirectories directory with
  | (some error, tree) => (.error (.file error), tree)
  | (none, tree) =>
    match tree.write path (Text.Utf8.encode text.toList) with
    | .error error => (.error (.file error), tree)
    | .ok written => (.ok path, written)

/-- A page that is a text can always be encoded. -/
theorem writeInto_ofString (tree : Tree) (directory path : Path) (text : String) :
    writeInto tree directory path (.ok (Wide.ofString text)) =
      writeText tree directory path text := by
  simp only [writeInto, Text.Utf8.encodeWide_ofString]
  rfl

section WriteReference

variable {tree new : Tree} {layout : Layout ReferenceData} {directory : Path}
  {stylesheet : CodeBlock.Stylesheet} {now : Moment} {record : Record}

theorem writeReference_ok {path : Path}
    (done : writeReference tree layout directory stylesheet now record = (.ok path, new)) :
    path = referencePath directory record ∧ record.filename ≠ "" ∧
      Stored new path (referenceIn layout record stylesheet now) ∧
      Wrote tree new directory path := by
  unfold writeReference at done
  split at done
  · cases done
  · rename_i named
    split at done
    · cases done
    · rename_i wrote
      cases done
      obtain ⟨rfl, stored, wrote⟩ := writeInto_ok wrote
      exact ⟨rfl, by simpa using named, stored, wrote⟩

theorem writeReference_error {error : Error}
    (refused : writeReference tree layout directory stylesheet now record = (.error error, new)) :
    (∀ written, Tree.Frame written tree new) ∨
      record.filename ≠ "" ∧ Unencodable (referenceIn layout record stylesheet now) ∧
        new.read (referencePath directory record) = .ok [] ∧
        Wrote tree new directory (referencePath directory record) := by
  unfold writeReference at refused
  split at refused
  · cases refused
    exact .inl fun written => Tree.Frame.refl written tree
  · rename_i named
    split at refused
    · rename_i unwritten
      cases refused
      refine (writeInto_error unwritten).imp_right ?_
      rintro ⟨text, fault, isText, failed, _, read, wrote⟩
      exact ⟨by simpa using named, ⟨text, fault, isText, failed⟩, read, wrote⟩
    · cases refused

end WriteReference

def plainStylesheet : CodeBlock.Stylesheet where
  rules := ".nt \x7b color: #008000; font-weight: bold \x7d"
  noTag := by decide

end Page

end EndpointDocs
