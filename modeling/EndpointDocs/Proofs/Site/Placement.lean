import EndpointDocs.Proofs.Site.Returns
import EndpointDocs.Proofs.Text.LowerCase

/-!
Where reference pages go. A page is written to the one place that its path leads to, and its name
comes from the title of its record: without a slash in the title the page lies in the output
directory, and no file elsewhere changes. With one, the path may leave that directory.
-/
namespace EndpointDocs

theorem Directive.slash_not_mem_slugOf {title : String} (noSlash : '/' ∉ title.toList) :
    '/' ∉ (slugOf title).toList := by
  intro listed
  rw [slugOf, String.toList_ofList] at listed
  rcases Text.slash_mem_of_mem_lowerFrom (List.mem_filter.1 listed).1 with none | inTitle
  · cases none
  · exact noSlash inTitle

namespace Path

def name (path : Path) : Wide :=
  path.names.getLast?.getD []

/-- An ending without the mark stays in one piece with what comes before it. -/
theorem splitOn_append {mark : CodePoint} (text : Wide) {suffix : Wide} (free : mark ∉ suffix) :
    ∃ pieces piece, (text ++ suffix).splitOn mark = pieces ++ [piece ++ suffix] := by
  induction text with
  | nil =>
    refine ⟨[], [], ?_⟩
    exact List.splitOnP_eq_singleton fun point listed => by
      rw [beq_eq_false_iff_ne]
      rintro rfl
      exact free listed
  | cons point rest ih =>
    obtain ⟨pieces, piece, split⟩ := ih
    rw [List.splitOn] at split
    rw [List.splitOn, List.cons_append, List.splitOnP_cons_eq_if_modifyHead, split]
    by_cases same : point = mark
    · exact ⟨[] :: pieces, piece, by simp [same]⟩
    · cases pieces with
      | nil => exact ⟨[], point :: piece, by simp [same]⟩
      | cons first others => exact ⟨(point :: first) :: others, piece, by simp [same]⟩

/-- What is read back from the name of a page ends in a name that ends as page names do. -/
theorem names_ofText_pageName (slug : String) :
    ∃ names piece, (ofText (Wide.ofString (slug ++ Directive.pageSuffix))).names =
        names ++ [piece ++ Wide.ofString Directive.pageSuffix] := by
  have suffixFree : .char '/' ∉ Wide.ofString Directive.pageSuffix := by decide
  obtain ⟨pieces, piece, cut⟩ := splitOn_append (Wide.ofString slug) suffixFree
  have suffixLong : 1 < (Wide.ofString Directive.pageSuffix).length := by decide
  have kept : [piece ++ Wide.ofString Directive.pageSuffix].filter
        (fun piece => !(piece.isEmpty || piece == [.char '.'])) =
      [piece ++ Wide.ofString Directive.pageSuffix] := by
    rw [List.filter_eq_self]
    intro last listed
    rw [List.mem_singleton.1 listed]
    have long : 1 < (piece ++ Wide.ofString Directive.pageSuffix).length := by
      rw [List.length_append]
      omega
    have notDot : piece ++ Wide.ofString Directive.pageSuffix ≠ [.char '.'] := by
      intro dot
      rw [dot] at long
      exact absurd long (by decide)
    have notEmpty : piece ++ Wide.ofString Directive.pageSuffix ≠ [] :=
      List.ne_nil_of_length_pos (by omega)
    simp [notDot, notEmpty]
  refine ⟨pieces.filter fun piece => !(piece.isEmpty || piece == [.char '.']), piece, ?_⟩
  simp only [ofText, Wide.ofString_append, cut, List.filter_append, kept]

theorem pageName_ne_up (piece : Wide) : piece ++ Wide.ofString Directive.pageSuffix ≠ ".." := by
  intro up
  have suffixLong : 2 < (Wide.ofString Directive.pageSuffix).length := by decide
  have sameLength := congrArg List.length up
  have short : (Wide.ofString "..").length = 2 := by decide
  rw [List.length_append, short] at sameLength
  omega

/-- A text without a slash is a path of one name, or of none if it is empty or a single dot. -/
theorem ofText_of_noSlash {text : Wide} (noSlash : .char '/' ∉ text) :
    ofText text = ⟨.here, if text = [] ∨ text = "." then [] else [text]⟩ := by
  have whole : text.splitOn (.char '/') = [text] :=
    List.splitOnP_eq_singleton fun point listed => by
      rw [beq_eq_false_iff_ne]
      rintro rfl
      exact noSlash listed
  have noLeading : text.takeWhile (· == .char '/') = [] := by
    cases text with
    | nil => rfl
    | cons point rest =>
      have notSlash : point ≠ .char '/' := by
        rintro rfl
        exact noSlash List.mem_cons_self
      simp [notSlash]
  have dot : Wide.ofString "." = [.char '.'] := by decide
  by_cases empty : text = [] ∨ text = "."
  · rcases empty with rfl | rfl
    · rfl
    · rw [dot] at whole noLeading
      simp [ofText, noLeading, whole, dot, anchorOf]
  · obtain ⟨notEmpty, notDot⟩ := not_or.1 empty
    rw [dot] at notDot
    simp [ofText, noLeading, whole, dot, anchorOf, notEmpty, notDot]

/-- A page name without a slash is a path of one name. -/
theorem ofText_pageName_of_noSlash {slug : String} (noSlash : '/' ∉ slug.toList) :
    ofText (Wide.ofString (slug ++ Directive.pageSuffix)) =
      ⟨.here, [Wide.ofString (slug ++ Directive.pageSuffix)]⟩ := by
  have suffixFree : '/' ∉ Directive.pageSuffix.toList := by decide
  rw [ofText_of_noSlash, if_neg]
  · have notDot : slug ++ Directive.pageSuffix ≠ "." := by
      intro dot
      have sameLength := congrArg (fun text => text.toList.length) dot
      simp [Directive.pageSuffix] at sameLength
    have notEmpty : slug ++ Directive.pageSuffix ≠ "" := by
      simp [Directive.pageSuffix]
    simp only [Wide.ofString_eq_nil_iff, Wide.ofString_inj, notEmpty, notDot, or_self,
      not_false_eq_true]
  · rw [Wide.char_mem_ofString, String.toList_append, List.mem_append]
    exact fun listed => listed.elim noSlash suffixFree

/-- A path is its directory followed by its last name. -/
theorem eq_of_parent {path directory : Path} {names : List Wide} {last : Wide}
    (ends : path.names = names ++ [last]) (isParent : path.parent = directory) :
    path = ⟨directory.anchor, directory.names ++ [last]⟩ ∧ path.name = last := by
  subst isParent
  obtain ⟨anchor, _⟩ := path
  dsimp only at ends
  subst ends
  simp [parent, name]

end Path

/-- The last title line gives the title and the names that come from it; without one they are
empty. -/
theorem Record.names_ofLines (glossary : Glossary) (registry : Registry) (marker : Wide)
    (lines : List String) (source : Option Path) :
    let record := ofLines glossary registry marker lines source
    record.title = (Directive.textsOf marker lines .title).getLast?.getD "" ∧
      record.slug = Directive.slugOf record.title ∧
      record.filename = (Directive.textsOf marker lines .title).getLast?.elim ""
        fun _ => Directive.slugOf record.title ++ Directive.pageSuffix := by
  dsimp only
  rw [ofLines_eq_ofTexts]
  unfold ofTexts
  cases (Directive.textsOf marker lines .title).getLast? with
  | none => exact ⟨rfl, rfl, rfl⟩
  | some title => exact ⟨rfl, rfl, rfl⟩

/-- A record is without a page name, or has the one that its title gives. -/
theorem Record.filename_ofLines (glossary : Glossary) (registry : Registry) (marker : Wide)
    (lines : List String) (source : Option Path) :
    (ofLines glossary registry marker lines source).filename = "" ∨
      (ofLines glossary registry marker lines source).filename =
        Directive.slugOf (ofLines glossary registry marker lines source).title ++
          Directive.pageSuffix := by
  obtain ⟨_, _, filename⟩ := names_ofLines glossary registry marker lines source
  rw [filename]
  cases (Directive.textsOf marker lines .title).getLast? with
  | none => exact .inl rfl
  | some title => exact .inr rfl

namespace Page

/-- The path of a titled record's page ends in a name that does not lead upwards; without a slash
in the title it is that name in the directory. -/
theorem referencePath_titled (directory : Path) {record : Record}
    (titled : record.filename = Directive.slugOf record.title ++ Directive.pageSuffix) :
    (∃ names name, (referencePath directory record).names = names ++ [name] ∧
        name ≠ Wide.ofString "..") ∧
      ('/' ∉ record.title.toList → (referencePath directory record).parent = directory) := by
  unfold referencePath
  rw [titled]
  constructor
  · obtain ⟨names, piece, read⟩ :=
      Path.names_ofText_pageName (Directive.slugOf record.title)
    unfold Path.join
    split
    · exact ⟨directory.names ++ names, _, by rw [read, List.append_assoc],
        Path.pageName_ne_up piece⟩
    · exact ⟨names, _, read, Path.pageName_ne_up piece⟩
  · intro noSlash
    rw [Path.ofText_pageName_of_noSlash (Directive.slash_not_mem_slugOf noSlash)]
    simp [Path.join, Path.parent]

end Page

namespace Site

/-- From one tree to another, one file has changed at most: the one where the page of a record goes.
Whenever its path names the output directory as the page's own, and it does if the title has no
slash, that file lies in the output directory. -/
structure PlacedAt (site : Site) (record : Record) (before after : Tree) : Prop where
  file : ∃ place, after.locate (site.pagePath record) = .ok place ∧
    Tree.Frame (· = place) before after
  parent : '/' ∉ record.title.toList →
    (site.pagePath record).parent = site.config.outputDirectory
  inside : (site.pagePath record).parent = site.config.outputDirectory →
    ∃ directory, after.locate site.config.outputDirectory = .ok directory ∧
      after.isDirectoryAt directory = true ∧
      Tree.Frame (· = directory ++ [(site.pagePath record).name]) before after

/-- Writing the page of a titled record changes the one file that its path names. -/
theorem placedAt_of_wrote {site : Site} {record : Record} {before after : Tree}
    (titled : record.filename = Directive.slugOf record.title ++ Directive.pageSuffix)
    (wrote : Page.Wrote before after site.config.outputDirectory (site.pagePath record)) :
    site.PlacedAt record before after := by
  obtain ⟨⟨names, name, ends, notUp⟩, inDirectory⟩ :=
    Page.referencePath_titled site.config.outputDirectory titled
  refine ⟨wrote.file, inDirectory, ?_⟩
  intro isParent
  obtain ⟨place, located, frame⟩ := wrote.file
  obtain ⟨directory, isThere, isDirectory⟩ := wrote.directory
  refine ⟨directory, isThere, isDirectory, ?_⟩
  obtain ⟨whole, isName⟩ := Path.eq_of_parent ends isParent
  change site.pagePath record = _ at whole
  change (site.pagePath record).name = _ at isName
  rw [whole] at located
  -- The last name does not lead upwards, so the place is one below the directory.
  rw [isName, ← Tree.locate_name notUp isThere located]
  exact frame

/-- A block is documented whatever its lines are. If a page comes back, its path is that of the
record, and the one file that may have changed is where the path leads. If none comes back, no file
has changed, unless a template made a page that cannot be encoded: then that one file may have. -/
theorem processBlock_page_in_outputDirectory (site : Site)
    (marker : site.config.sentinels.marker ≠ []) (work : Work) (lines : List String)
    (source : Option Path) :
    ∃ record page after, site.processBlock work lines source = (.ok (record, page), after) ∧
      (∀ path, page = some path →
        path = site.pagePath record ∧ site.PlacedAt record work.tree after.tree) ∧
      (page = none → Tree.Frame (fun _ => False) work.tree after.tree ∨
        Page.Unencodable (site.page record) ∧ site.PlacedAt record work.tree after.tree) ∧
      (site.pageLayout = .standard → ¬ Page.Unencodable (site.page record)) := by
  let record := Record.ofLines work.glossary site.registry site.config.sentinels.marker lines source
  have titled (named : record.filename ≠ "") :
      record.filename = Directive.slugOf record.title ++ Directive.pageSuffix :=
    (Record.filename_ofLines work.glossary site.registry site.config.sentinels.marker lines
      source).resolve_left named
  refine ⟨record, _, _, processBlock_of_marker marker work lines source, ?_⟩
  rw [← and_assoc]
  refine ⟨?_, fun standard => not_unencodable_page standard record⟩
  rcases addRecord_left (Prod.eta (site.addRecord work record)).symm with
    ⟨noPage, unchanged⟩ | ⟨isPath, named, left, wrote⟩
  · refine ⟨fun path isPage => ?_, fun _ => .inl (unchanged _)⟩
    cases noPage.symm.trans isPage
  · have placed := placedAt_of_wrote (titled named) wrote
    refine ⟨fun path isPage => ⟨isPath path isPage, placed⟩, fun noPage => .inr ⟨?_, placed⟩⟩
    rw [noPage] at left
    exact left.1

/-- Nothing is documented yet, in a tree without files. -/
def emptyWork : Work :=
  ⟨Glossary.empty, [], ⟨[], []⟩, []⟩

def dotsRecord : Record :=
  { title := "..", slug := "..", filename := "...html" }

/-- A title of two dots names a page like any other. -/
theorem processBlock_page_of_dots :
    ∃ record after, (plainSite {}).processBlock emptyWork ["# @title .."] none =
        (.ok (record, some ⟨.here, ["doc", "...html"]⟩), after) ∧
      Tree.Frame (· = [Wide.ofString "doc", "...html"]) emptyWork.tree after.tree := by
  obtain ⟨record, page, after, done, placed, _⟩ := processBlock_page_in_outputDirectory
    (plainSite {}) (by decide) emptyWork ["# @title .."] none
  have ran := processBlock_standard (plainSite {}) emptyWork ["# @title .."] none dotsRecord rfl
    (by decide) (by decide) (by decide) (by decide)
  cases done.symm.trans ran
  obtain ⟨_, placedAt⟩ := placed _ rfl
  obtain ⟨directory, located, _, frame⟩ := placedAt.inside (by decide)
  have isThere : ((plainSite {}).writtenPage emptyWork.tree dotsRecord).2.locate ⟨.here, ["doc"]⟩ =
      .ok ["doc"] := by decide
  cases located.symm.trans isThere
  exact ⟨_, _, done, frame⟩

def evilRecord : Record :=
  { title := "../Evil", slug := "../evil", filename := "../evil.html" }

/-- With a slash in its title, a page can leave the output directory. -/
theorem processBlock_page_above_outputDirectory :
    ∃ record path after, (plainSite {}).processBlock emptyWork ["# @title ../Evil"] none =
        (.ok (record, some path), after) ∧
      path.parent ≠ (plainSite {}).config.outputDirectory ∧
      after.tree.locate (plainSite {}).config.outputDirectory = .ok ["doc"] ∧
      emptyWork.tree.filesBelow [] = [] ∧
      after.tree.filesBelow [] = [[Wide.ofString "evil.html"]] := by
  have ran := processBlock_standard (plainSite {}) emptyWork ["# @title ../Evil"] none
    evilRecord rfl (by decide) (by decide) (by decide) (by decide)
  exact ⟨_, _, _, ran, by decide, by decide, by decide, by decide⟩

end Site

end EndpointDocs
