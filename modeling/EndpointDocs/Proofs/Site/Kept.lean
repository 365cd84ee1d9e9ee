import EndpointDocs.Proofs.Page.Links
import EndpointDocs.Proofs.Site.Course
import EndpointDocs.Proofs.Source.Ordered
import EndpointDocs.Proofs.Text.Utf8
import Mathlib.Data.List.Nodup

/-!
Which pages are lost in a run. A page that was written stays until something else is written to its
place. Records with different identifiers have their pages at different places if there is no slash
in their titles, so a page can be lost in two ways only: to the index, if that has the name of the
page, and to a page of a title with a slash.
-/
namespace EndpointDocs

namespace Tree

/-- A text without a slash that leads to a place below a directory is the name of that place. -/
theorem name_of_locate_join {tree : Tree} {directory : Path} {above : Place} {text name : Wide}
    (noSlash : .char '/' ∉ text) (isAbove : tree.locate directory = .ok above)
    (located : tree.locate (directory.join (Path.ofText text)) = .ok (above ++ [name])) :
    text = name := by
  rw [Path.ofText_of_noSlash noSlash] at located
  simp only [Path.join, if_true] at located
  split at located
  · rw [List.append_nil] at located
    have same := Except.ok.inj (isAbove.symm.trans located)
    exact absurd (congrArg List.length same) (by simp)
  · have place := locate_concat isAbove located
    split at place
    · exact absurd (congrArg List.length place) (by simp; omega)
    · simpa using place.symm

end Tree

/-- The page of a title without a slash stands in the output directory under its name. -/
theorem Page.place_of_titled {tree : Tree} {directory : Path} {above place : Place}
    {record : Record} (isAbove : tree.locate directory = .ok above)
    (noSlash : '/' ∉ record.title.toList)
    (titled : record.filename = Directive.slugOf record.title ++ Directive.pageSuffix)
    (located : tree.locate (referencePath directory record) = .ok place) :
    place = above ++ [Wide.ofString record.filename] := by
  have path : referencePath directory record =
      ⟨directory.anchor, directory.names ++ [Wide.ofString record.filename]⟩ := by
    unfold referencePath
    rw [titled, Path.ofText_pageName_of_noSlash (Directive.slash_not_mem_slugOf noSlash)]
    rfl
  have notUp : Wide.ofString record.filename ≠ ".." := by
    rw [titled, Wide.ofString_append]
    exact Path.pageName_ne_up _
  rw [path] at located
  exact Tree.locate_name notUp isAbove located

/-- No file holds both a reference page and an index: the one leads back to the other. -/
theorem Page.not_stored_index {tree : Tree} {path : Path} {record : Record}
    {stylesheet : CodeBlock.Stylesheet} {contents : List Record} {version : Wide}
    {now later : Moment}
    (stored : Stored tree path (indexIn .standard contents version later)) :
    ¬ Stored tree path (referenceIn .standard record stylesheet now) := by
  intro both
  obtain ⟨plain, _, isIndex⟩ := exists_of_stored_index stored
  have sameBytes := Except.ok.inj (isIndex.symm.trans (read_of_stored_reference both))
  have sameText := congrArg Text.Utf8.decode sameBytes
  rw [Text.Utf8.decode_encode, Text.Utf8.decode_encode] at sameText
  have samePage := String.toList_injective (Except.ok.inj sameText)
  have leadsBack := breadcrumb?_reference record stylesheet now
  rw [← samePage, breadcrumb?_indexText] at leadsBack
  cases leadsBack

namespace Site

namespace Course

variable {site : Site} {work : Work} {root : Path} {results : List (Record × Option Path)}
  {index : Option Path}

/-- The place of a page, if there is no slash in its title. -/
theorem place_of_page (course : site.Course work root results index) {record : Record}
    {page : Option Path} {above place : Place} (listed : (record, page) ∈ results)
    (named : record.filename ≠ "") (noSlash : '/' ∉ record.title.toList)
    (isAbove : (site.run work root).2.tree.locate site.config.outputDirectory = .ok above)
    (located : (site.run work root).2.tree.locate (site.pagePath record) = .ok place) :
    place = above ++ [Wide.ofString record.filename] := by
  obtain ⟨slug, filename⟩ := course.named listed
  have titled := filename.resolve_left named
  rw [slug] at titled
  exact Page.place_of_titled isAbove noSlash titled located

/-- Pages at one place whose titles have no slash belong to records with one identifier. -/
theorem slug_eq_of_locate_eq (course : site.Course work root results index)
    {record other : Record} {path : Path} {page : Option Path}
    (listed : (record, some path) ∈ results) (otherListed : (other, page) ∈ results)
    (otherNamed : other.filename ≠ "") (noSlash : '/' ∉ record.title.toList)
    (otherNoSlash : '/' ∉ other.title.toList)
    (same : (site.run work root).2.tree.locate (site.pagePath other) =
      (site.run work root).2.tree.locate path) :
    other.slug = record.slug := by
  obtain ⟨place, located⟩ := course.page_located listed
  obtain ⟨rfl, named, above, isAbove, _⟩ := course.page_path listed
  have here := course.place_of_page listed named noSlash isAbove located
  have there :=
    course.place_of_page otherListed otherNamed otherNoSlash isAbove (same.trans located)
  have sameName : other.filename = record.filename := by
    simpa [Wide.ofString_inj] using there.symm.trans here
  have isName := (course.named listed).2.resolve_left named
  have isOtherName := (course.named otherListed).2.resolve_left otherNamed
  rw [isName, isOtherName] at sameName
  exact (String.append_left_inj _).1 sameName

end Course

/-- Whether a run returns or stops: if the records in its contents have different identifiers, then
at the end every path that a block gave holds the page of its own record, with two exceptions. It
holds what the index has left if that went to the same place, which is the index itself if the run
has returned; without slashes in the title and in the name of the index the two then have one name.
Or it holds what the page of another record has left; then one of the two titles has a slash. What
is left is the page, or an empty file where no path came back because the page cannot be encoded:
this is never so of a reference page in the standard layout, and of an index in the standard layout
only if its version is no text. -/
theorem run_keeps_pages (site : Site) (work : Work) (root : Path) :
    ∃ results index, site.Course work root results index ∧
      (((site.run work root).2.contents.map (·.slug)).Nodup →
        ∀ record path, (record, some path) ∈ results →
          Page.Stored (site.run work root).2.tree path (site.page record) ∨
            ((∀ written, (site.run work root).1 = .ok written →
                index = some site.config.indexPath) ∧
              (site.run work root).2.tree.locate site.config.indexPath =
                (site.run work root).2.tree.locate path ∧
              Page.Left (site.run work root).2.tree path
                (site.indexPage (site.run work root).2.contents) index ∧
              ('/' ∉ record.title.toList → .char '/' ∉ site.config.indexFilename →
                Wide.ofString record.filename = site.config.indexFilename)) ∨
            ∃ other page, (other, page) ∈ results ∧ other ≠ record ∧
              (site.run work root).2.tree.locate (site.pagePath other) =
                (site.run work root).2.tree.locate path ∧
              Page.Left (site.run work root).2.tree path (site.page other) page ∧
              ('/' ∈ record.title.toList ∨ '/' ∈ other.title.toList)) ∧
      (site.pageLayout = .standard → ∀ record, ¬ Page.Unencodable (site.page record)) ∧
      (site.indexLayout = .standard →
        (Page.Unencodable (site.indexPage (site.run work root).2.contents) ↔
          ∃ half, .half half ∈ site.config.version)) := by
  obtain ⟨results, index, course⟩ := site.exists_course work root
  refine ⟨results, index, course, ?_, not_unencodable_page, ?_⟩
  · intro distinct record path listed
    rcases course.read_page listed with
      ⟨isWritten, same, left⟩ | ⟨⟨other, page⟩, otherListed, named, same, left⟩
    · refine .inr (.inl ⟨isWritten, same, left, ?_⟩)
      intro noSlash plainIndex
      -- Both names are then read from the output directory, and lead to one place in it.
      obtain ⟨place, located⟩ := course.page_located listed
      obtain ⟨rfl, named, above, isAbove, _⟩ := course.page_path listed
      have placed := course.place_of_page listed named noSlash isAbove located
      rw [located, placed] at same
      exact (Tree.name_of_locate_join plainIndex isAbove same).symm
    · -- Different identifiers make the entry of a record its only one.
      rw [course.contents, List.map_map] at distinct
      by_cases own : other.slug = record.slug
      · cases List.inj_on_of_nodup_map distinct otherListed listed own
        exact .inl left
      · refine .inr (.inr ⟨other, page, otherListed, ?_, same, left, ?_⟩)
        · rintro rfl
          exact own rfl
        · by_contra neither
          rw [not_or] at neither
          exact own
            (course.slug_eq_of_locate_eq listed otherListed named neither.1 neither.2 same)
  · intro standard
    rw [indexPage, standard]
    exact Page.unencodable_indexIn_iff _ _ _

/-- A source with one block, whose page has the name of the index. -/
def docsTree : Tree where
  workingDirectory := []
  entries :=
    [(["src"], .directory),
      (["src", "a.py"], .file (Text.Utf8.encode
        "# wsdoc \x7b\n# @title Docs\n# wsdoc \x7d\n".toList))]

def docsRecord : Record where
  title := "Docs"
  slug := "docs"
  filename := "docs.html"
  source := some ⟨.here, ["src", "a.py"]⟩

def docsPath : Path :=
  ⟨.here, ["doc", "docs.html"]⟩

theorem sources_docsTree :
    Discovery.sources docsTree ({} : Config).extensions ({} : Config).exclude ⟨.here, ["src"]⟩ =
      .ok [⟨.here, ["src", "a.py"]⟩] :=
  Discovery.sources_of_sorted ["src"] [["a.py"]] (by decide) (by decide) (by decide) (by decide)
    (by decide)

def docsWork : Work :=
  ⟨Glossary.empty, [], docsTree, []⟩

theorem run_docsTree :
    ∃ after, (plainSite {}).run docsWork ⟨.here, ["src"]⟩ = (.ok [docsPath, docsPath], after) ∧
      after.contents = [docsRecord] := by
  have processed := processFiles_of_block (plainSite {}) docsWork ⟨.here, ["src", "a.py"]⟩
    ["# @title Docs"] docsRecord rfl (by decide) (by decide +kernel) (by decide) (by decide)
    (by decide) (by decide)
  exact ⟨_, run_of_processFiles (plainSite {}) docsWork rfl rfl rfl sources_docsTree processed
    (by decide), rfl⟩

/-- The only page of a run is lost to the index. -/
theorem run_loses_page_to_index :
    ∃ results index, (plainSite {}).Course docsWork ⟨.here, ["src"]⟩ results index ∧
      ((plainSite {}).run docsWork ⟨.here, ["src"]⟩).1 = .ok [docsPath, docsPath] ∧
      ((plainSite {}).run docsWork ⟨.here, ["src"]⟩).2.contents = [docsRecord] ∧
      (docsRecord, some docsPath) ∈ results ∧
      ¬ Page.Stored ((plainSite {}).run docsWork ⟨.here, ["src"]⟩).2.tree docsPath
        ((plainSite {}).page docsRecord) := by
  obtain ⟨results, index, course⟩ := (plainSite {}).exists_course docsWork ⟨.here, ["src"]⟩
  obtain ⟨after, ran, contents⟩ := run_docsTree
  obtain ⟨record, rfl, rfl⟩ :=
    course.eq_of_two_paths (congrArg Prod.fst ran) (by rw [ran, contents]; rfl)
  obtain rfl : record = docsRecord := by
    simpa [ran, contents] using course.contents.symm
  obtain ⟨_, stored⟩ := course.read_index rfl
  refine ⟨_, _, course, by rw [ran], by rw [ran, contents], List.mem_singleton_self _, ?_⟩
  exact Page.not_stored_index stored

end Site

end EndpointDocs
