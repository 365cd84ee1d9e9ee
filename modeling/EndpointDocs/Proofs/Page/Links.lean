import EndpointDocs.Proofs.Html.Escape
import EndpointDocs.Proofs.Page.Index
import EndpointDocs.Proofs.Page.Markup
import Mathlib.Data.List.Infix

/-!
The links of a page, read from its text. A link is what stands between its opening and the next
quote, with the escapes undone. An index has one link for each record with a title, in the order of
the titles; a reference page has one that leads back to the index.
-/
namespace EndpointDocs

namespace Page

/-- The attribute values of a page: what stands between an occurrence of `opening` and the next
quote. -/
def valuesAfter (opening : List Char) : List Char → List (List Char)
  | [] => []
  | c :: rest =>
    if opening.isPrefixOf (c :: rest) then
      ((c :: rest).drop opening.length).takeWhile (· ≠ '"') :: valuesAfter opening rest
    else valuesAfter opening rest

def linkOpening : List Char :=
  "<a href=\"".toList

/-- How the link that leads back to the index begins. -/
def breadcrumbOpening : List Char :=
  "<nav class=\"breadcrumbs\"><a href=\"".toList

theorem linkOpening_isTag : ['<', 'a'] <+: linkOpening := by
  decide

theorem breadcrumbOpening_isTag : ['<', 'n'] <+: breadcrumbOpening := by
  decide

def links (page : String) : List String :=
  (valuesAfter linkOpening page.toList).map fun value => String.ofList (Html.unescape value)

def breadcrumb? (page : String) : Option String :=
  (valuesAfter breadcrumbOpening page.toList).head?.map fun value =>
    String.ofList (Html.unescape value)

/-- An occurrence of the opening gives its value. -/
theorem valuesAfter_opening {opening value : List Char} (nonempty : opening ≠ [])
    (plain : '"' ∉ value) (rest : List Char) :
    valuesAfter opening (opening ++ (value ++ '"' :: rest)) =
      value :: valuesAfter opening (opening.tail ++ (value ++ '"' :: rest)) := by
  obtain ⟨first, tail, rfl⟩ := List.exists_cons_of_ne_nil nonempty
  have found : (first :: tail).isPrefixOf (first :: (tail ++ (value ++ '"' :: rest))) = true := by
    rw [List.isPrefixOf_iff_prefix, ← List.cons_append]
    exact List.prefix_append _ _
  have read : (value ++ '"' :: rest).takeWhile (· ≠ '"') = value := by
    rw [List.takeWhile_append_of_pos]
    · simp
    · intro c listed
      have other : c ≠ '"' := fun isQuote => plain (isQuote ▸ listed)
      simpa using other
  rw [List.cons_append, valuesAfter, if_pos found, ← List.cons_append, List.drop_left, read,
    List.tail_cons]

theorem valuesAfter_cons_of_absent {opening rest : List Char} {c : Char}
    (none : ¬ opening <+: c :: rest) :
    valuesAfter opening (c :: rest) = valuesAfter opening rest := by
  rw [valuesAfter, if_neg (by simpa using none)]

/-- A text in which no opening begins, whatever follows it. -/
def Clear (opening text : List Char) : Prop :=
  ∀ rest, valuesAfter opening (text ++ rest) = valuesAfter opening rest

/-- Whether no tag begins in a text with one of the initials. -/
def avoids (initials : List Char) : List Char → Bool
  | [] => true
  | '<' :: [] => false
  | '<' :: initial :: rest => !initials.contains initial && avoids initials (initial :: rest)
  | _ :: rest => avoids initials rest

namespace Clear

variable {opening initials : List Char} {initial : Char}

/-- Where no tag begins with the initial of an opening, the opening does not begin. -/
theorem of_avoids (tag : ['<', initial] <+: opening) (listed : initial ∈ initials)
    {text : List Char} (avoided : avoids initials text = true) : Clear opening text := by
  obtain ⟨tail, rfl⟩ := tag
  intro rest
  fun_induction avoids initials text with
  | case1 => rfl
  | case2 => cases avoided
  | case3 next text ih =>
    rw [Bool.and_eq_true] at avoided
    have other : initial ≠ next := by
      rintro rfl
      simp [listed] at avoided
    exact (valuesAfter_cons_of_absent (by simp [other])).trans (ih avoided.2)
  | case4 c text notLone notTag ih =>
    have noTag : '<' ≠ c := by
      rintro rfl
      cases text with
      | nil => exact notLone rfl rfl
      | cons next text => exact notTag next text rfl rfl
    exact (valuesAfter_cons_of_absent (by simp [noTag])).trans (ih avoided)

theorem append {first second : List Char} (firstClear : Clear opening first)
    (secondClear : Clear opening second) : Clear opening (first ++ second) := by
  intro rest
  rw [List.append_assoc, firstClear, secondClear]

end Clear

/-- Whether no tag begins in a piece with one of the initials; in a text that is shown, no tag ever
does. -/
def Piece.avoids (initials : List Char) : Piece → Bool
  | .fixed text => Page.avoids initials text.toList
  | .shown _ => true
  | .html fragment => Page.avoids initials fragment.source.toList

theorem avoids_of_not_mem {initials text : List Char} (noTag : '<' ∉ text) :
    avoids initials text = true := by
  fun_induction avoids initials text with
  | case1 => rfl
  | case2 => simp at noTag
  | case3 => simp at noTag
  | case4 c text _ _ ih => exact ih fun listed => noTag (List.mem_cons_of_mem c listed)

theorem Clear.source {opening initials : List Char} {initial : Char} {pieces : List Piece}
    (tag : ['<', initial] <+: opening) (listed : initial ∈ initials)
    (avoided : pieces.all (Piece.avoids initials) = true) :
    Clear opening (Page.source pieces).toList := by
  induction pieces with
  | nil => exact fun _ => rfl
  | cons piece pieces ih =>
    rw [List.all_cons, Bool.and_eq_true] at avoided
    rw [source_cons, String.toList_append]
    refine append (of_avoids tag listed ?_) (ih avoided.2)
    cases piece with
    | fixed text => exact avoided.1
    | shown text => exact avoids_of_not_mem (Html.not_mem_escape rfl text)
    | html fragment => exact avoided.1

/-- What stands before the rows of an index has no link. -/
theorem avoids_openingPieces (version : String) (now : Moment) :
    (openingPieces version now).all (Piece.avoids ['a', 'n']) = true := by
  simp only [openingPieces, beforeVersion, afterVersion, List.cons_append, List.nil_append,
    List.all_cons, Piece.avoids, List.all_nil]
  decide +kernel

/-- The title of a record has its link as the only one, and no link if the record has no page. -/
theorem valuesAfter_titlePieces (record : Record) (rest : List Char) :
    valuesAfter linkOpening ((source (titlePieces record)).toList ++ rest) =
      (if record.filename = "" then [] else [(Html.escape record.filename).source.toList]) ++
        valuesAfter linkOpening rest := by
  have tag := linkOpening_isTag
  have initial : 'a' ∈ ['a', 'n'] := by decide
  unfold titlePieces
  by_cases untitled : record.filename = ""
  · have shown : Clear linkOpening (source [.shown record.title]).toList :=
      .source tag initial rfl
    rw [if_pos (by simpa using untitled), if_pos untitled, shown, List.nil_append]
  · -- The opening is found once: in its own rest, the name of the page, the end of the tag and the
    -- title no other one begins.
    have value : Clear linkOpening (Html.escape record.filename).source.toList :=
      .of_avoids tag initial (avoids_of_not_mem (Html.not_mem_escape rfl _))
    have tail : Clear linkOpening linkOpening.tail := .of_avoids tag initial (by decide)
    have quote : Clear linkOpening ['"', '>'] := .of_avoids tag initial (by decide)
    have behind : Clear linkOpening ('"' :: '>' ::
        (source [.shown record.title, .fixed "</a>"]).toList) := by
      refine quote.append (.source tag initial ?_)
      simp only [List.all_cons, Piece.avoids, List.all_nil]
      decide
    have nonempty : linkOpening ≠ [] := by decide
    have opening : "<a href=\"".toList = linkOpening := rfl
    have closing : "\">".toList = ['"', '>'] := by decide
    have read := valuesAfter_opening nonempty (Html.not_mem_escape (c := '"') rfl record.filename)
      ('>' :: ((source [.shown record.title, .fixed "</a>"]).toList ++ rest))
    rw [tail, value] at read
    rw [if_neg (by simpa using untitled), if_neg untitled, source_cons, source_cons, source_cons]
    simp only [Piece.source, String.toList_append, opening, closing, List.append_assoc,
      List.cons_append, List.nil_append]
    exact read.trans (congrArg _ (behind rest))

/-- The row of a record has a link to its page, and no other link. -/
theorem valuesAfter_indexRow (record : Record) (rest : List Char) :
    valuesAfter linkOpening ((indexRow record).toList ++ rest) =
      (if record.filename = "" then [] else [(Html.escape record.filename).source.toList]) ++
        valuesAfter linkOpening rest := by
  have tag := linkOpening_isTag
  have initial : 'a' ∈ ['a', 'n'] := by decide
  have before : Clear linkOpening (source (rowStart record)).toList := by
    refine .source tag initial ?_
    simp only [rowStart, List.all_cons, Piece.avoids, List.all_nil]
    decide +kernel
  have behind : Clear linkOpening (source (rowEnd record)).toList := by
    refine .source tag initial ?_
    simp only [rowEnd, List.all_cons, Piece.avoids, List.all_nil]
    decide +kernel
  rw [toList_indexRow, before, source_append, String.toList_append, List.append_assoc,
    valuesAfter_titlePieces, behind]

/-- An index links to the pages of the records that name one, in the order of their rows. -/
theorem links_indexText (contents : List Record) (version : String) (now : Moment) :
    links (indexText contents version now) =
      ((Record.sortByTitle contents).filter (·.filename ≠ "")).map (·.filename) := by
  have rows (records : List Record) (rest : List Char) :
      valuesAfter linkOpening ((String.join (records.map indexRow)).toList ++ rest) =
        (records.filter (·.filename ≠ "")).map
            (fun record => (Html.escape record.filename).source.toList) ++
          valuesAfter linkOpening rest := by
    induction records with
    | nil => rfl
    | cons record records ih =>
      rw [List.map_cons, String.join_cons, String.toList_append, List.append_assoc,
        valuesAfter_indexRow, ih, ← List.append_assoc]
      by_cases untitled : record.filename = "" <;> simp [untitled]
  have opening : Clear linkOpening (source (openingPieces version now)).toList :=
    .source linkOpening_isTag (by decide) (avoids_openingPieces version now)
  have closing : valuesAfter linkOpening (source indexClosing ++ "\n").toList = [] := by decide
  rw [links, indexText, String.toList_append, String.toList_append, List.append_assoc,
    opening, rows, closing, List.append_nil, List.map_map]
  exact List.map_congr_left fun record _ => Html.unescape_escape record.filename

/-- What stands on a reference page before the link that leads back. -/
def beforeBreadcrumb (record : Record) (stylesheet : CodeBlock.Stylesheet) : List Piece :=
  [.fixed "<!DOCTYPE html>\n<html lang=\"en\">\n<head>\n  <meta charset=\"utf-8\">\n  <title>",
    .shown record.title,
    .fixed "</title>\n  <link rel=\"stylesheet\" href=\"doc.css\">\n  <style>\n",
    .html ⟨stylesheet.rules⟩,
    .fixed "\n  </style>\n</head>\n<body>\n"]

theorem clear_beforeBreadcrumb (record : Record) (stylesheet : CodeBlock.Stylesheet) :
    Clear breadcrumbOpening (source (beforeBreadcrumb record stylesheet)).toList := by
  refine .source breadcrumbOpening_isTag (List.mem_singleton_self _) ?_
  simp only [beforeBreadcrumb, List.all_cons, Piece.avoids, List.all_nil,
    avoids_of_not_mem stylesheet.noTag]
  decide +kernel

def breadcrumbLine : String :=
  "  <nav class=\"breadcrumbs\"><a href=\"docs.html\">All web services</a></nav>\n"

theorem toList_breadcrumbLine :
    breadcrumbLine.toList = [' ', ' '] ++ (breadcrumbOpening ++ ("docs.html".toList ++
      '"' :: ">All web services</a></nav>\n".toList)) := by
  decide +kernel

theorem exists_reference_eq (record : Record) (stylesheet : CodeBlock.Stylesheet) (now : Moment) :
    ∃ later, reference (.ofRecord record stylesheet now) =
      source (beforeBreadcrumb record stylesheet ++ .fixed breadcrumbLine :: later) :=
  ⟨_, rfl⟩

/-- Every reference page links back to the standard name of an index. -/
theorem breadcrumb?_reference (record : Record) (stylesheet : CodeBlock.Stylesheet) (now : Moment) :
    breadcrumb? (reference (.ofRecord record stylesheet now) ++ "\n") = some "docs.html" := by
  obtain ⟨later, shape⟩ := exists_reference_eq record stylesheet now
  have margin : Clear breadcrumbOpening [' ', ' '] :=
    .of_avoids breadcrumbOpening_isTag (List.mem_singleton_self _) (by decide)
  have nonempty : breadcrumbOpening ≠ [] := by decide
  rw [breadcrumb?, shape, source_append, source_cons]
  simp only [Piece.source, String.toList_append, toList_breadcrumbLine, List.append_assoc]
  rw [clear_beforeBreadcrumb, margin, List.cons_append,
    valuesAfter_opening nonempty (by decide), List.head?_cons, Option.map_some]
  exact congrArg some (by decide)

/-- An index page has no link that leads back. -/
theorem breadcrumb?_indexText (contents : List Record) (version : String) (now : Moment) :
    breadcrumb? (indexText contents version now) = none := by
  have row (record : Record) : Clear breadcrumbOpening (indexRow record).toList := by
    refine .source breadcrumbOpening_isTag (List.mem_singleton_self _) ?_
    unfold entryPieces titlePieces
    split <;> simp only [List.all_append, List.all_cons, Piece.avoids, List.all_nil] <;>
      decide +kernel
  have rows (records : List Record) :
      Clear breadcrumbOpening (String.join (records.map indexRow)).toList := by
    induction records with
    | nil => exact fun _ => rfl
    | cons record records ih =>
      rw [List.map_cons, String.join_cons, String.toList_append]
      exact (row record).append ih
  have opening : Clear breadcrumbOpening (source (openingPieces version now)).toList :=
    .source breadcrumbOpening_isTag (by decide) (avoids_openingPieces version now)
  have closing : valuesAfter breadcrumbOpening (source indexClosing ++ "\n").toList = [] := by
    decide
  rw [breadcrumb?, indexText, String.toList_append, String.toList_append,
    List.append_assoc, opening, rows, closing]
  rfl

section Stored

variable {tree : Tree} {path : Path} {now : Moment}

/-- A stored index is the text of an index, of a version that is a text. -/
theorem exists_of_stored_index {contents : List Record} {version : Wide}
    (stored : Stored tree path (indexIn .standard contents version now)) :
    ∃ plain : String, version = plain ∧
      tree.read path = .ok (Text.Utf8.encode (indexText contents plain now).toList) := by
  obtain ⟨text, isText, read⟩ := stored
  have encodable : ¬ Unencodable (indexIn .standard contents version now) := by
    rw [isText]
    exact not_unencodable_ofString text
  rw [unencodable_indexIn_iff] at encodable
  obtain ⟨plain, rfl⟩ := Wide.exists_of_no_half fun index listed => encodable ⟨index, listed⟩
  rw [indexIn_standard_ofString] at isText
  cases Wide.ofString_injective (Except.ok.inj isText)
  exact ⟨plain, rfl, read⟩

theorem read_of_stored_reference {record : Record} {stylesheet : CodeBlock.Stylesheet}
    (stored : Stored tree path (referenceIn .standard record stylesheet now)) :
    tree.read path = .ok (Text.Utf8.encode
      (reference (.ofRecord record stylesheet now) ++ "\n").toList) := by
  obtain ⟨text, isText, read⟩ := stored
  rw [referenceIn_standard] at isText
  cases Wide.ofString_injective (Except.ok.inj isText)
  exact read

end Stored

end Page

end EndpointDocs
