import EndpointDocs.Proofs.Page.Links
import EndpointDocs.Proofs.Site.Course
import EndpointDocs.Proofs.Source.Ordered

/-!
Where the links of a site lead. The index links to the page of every record with a title, written or
not, from the output directory; a reference page links to the standard name of an index in its own
directory. So the links hold if the index lies in the output directory under its standard name, no
title has a slash, and every page was written.
-/
namespace EndpointDocs

/-- Where a link on a page leads: it is read from the directory of the page. -/
def Page.target (page : Path) (link : String) : Path :=
  page.parent.join (Path.ofText link)

/-- An index whose name has no slash lies in the output directory, unless it is the output directory
itself that is named. -/
theorem Config.indexPath_parent {config : Config} (noSlash : .char '/' ∉ config.indexFilename) :
    config.indexPath = config.outputDirectory ∨
      config.indexPath.parent = config.outputDirectory := by
  unfold indexPath
  rw [Path.ofText_of_noSlash noSlash]
  split
  · exact .inl (by simp [Path.join])
  · exact .inr (by simp [Path.join, Path.parent])

namespace Site.Course

variable {site : Site} {work : Work} {root : Path} {results : List (Record × Option Path)}
  {index : Option Path}

/-- Where a page and an index were written, the index is no name of the output directory. -/
theorem indexPath_parent (course : site.Course work root results index) {record : Record}
    {path indexPath : Path} (listed : (record, some path) ∈ results) (written : indexPath ∈ index)
    (noSlash : .char '/' ∉ site.config.indexFilename) :
    site.config.indexPath.parent = site.config.outputDirectory := by
  refine (Config.indexPath_parent noSlash).resolve_left ?_
  intro isDirectory
  obtain ⟨rfl, text, _, read⟩ := course.read_index written
  obtain ⟨place, located, isFile⟩ := Tree.located_of_read read
  obtain ⟨_, _, directory, isThere, there⟩ := course.page_path listed
  rw [isDirectory, isThere] at located
  cases located
  rw [Tree.isDirectoryAt, isFile] at there
  simp at there

/-- The page of a title without a slash lies in the output directory. -/
theorem page_parent (course : site.Course work root results index) {record : Record} {path : Path}
    (listed : (record, some path) ∈ results) (noSlash : '/' ∉ record.title.toList) :
    path.parent = site.config.outputDirectory := by
  obtain ⟨rfl, nonempty, _⟩ := course.page_path listed
  obtain ⟨slug, filename⟩ := course.named listed
  have titled := filename.resolve_left nonempty
  rw [slug] at titled
  exact (Page.referencePath_titled _ titled).2 noSlash

/-- The standard index links to the page of every record that has a title, by title. -/
theorem index_links (course : site.Course work root results index)
    (standard : site.indexLayout = .standard) {indexPath : Path} (written : indexPath ∈ index) :
    ∃ page : String,
      (site.run work root).2.tree.read indexPath = .ok (Text.Utf8.encode page.toList) ∧
      Page.links page = ((Record.sortByTitle (site.run work root).2.contents).filter
        (·.filename ≠ "")).map (·.filename) ∧
      ∀ record ∈ (site.run work root).2.contents, record.filename ≠ "" →
        record.filename ∈ Page.links page := by
  obtain ⟨_, stored⟩ := course.read_index written
  rw [indexPage, standard] at stored
  obtain ⟨version, _, read⟩ := Page.exists_of_stored_index stored
  have links := Page.links_indexText (site.run work root).2.contents version site.now
  refine ⟨_, read, links, ?_⟩
  intro record listed titled
  rw [links]
  refine List.mem_map_of_mem (List.mem_filter.2 ⟨?_, by simpa using titled⟩)
  exact (Record.sortByTitle_perm _).mem_iff.2 listed

/-- When a run has returned, a page that came back leads back to the standard name of an index,
unless the index was written over it. -/
theorem page_breadcrumb (course : site.Course work root results index)
    (standard : site.pageLayout = .standard) {written : List Path}
    (returned : (site.run work root).1 = .ok written) {record : Record} {path : Path}
    (listed : (record, some path) ∈ results) :
    (index = some site.config.indexPath ∧ (site.run work root).2.tree.locate
        site.config.indexPath = (site.run work root).2.tree.locate path) ∨
      ∃ page : String,
        (site.run work root).2.tree.read path = .ok (Text.Utf8.encode page.toList) ∧
        Page.breadcrumb? page = some "docs.html" := by
  rcases course.read_page listed with ⟨isWritten, same, _⟩ | ⟨⟨other, page⟩, _, leftAt⟩
  · exact .inl ⟨isWritten written returned, same⟩
  · have stored := leftAt.left.stored (not_unencodable_page standard other)
    rw [Site.page, standard] at stored
    exact .inr ⟨_, Page.read_of_stored_reference stored,
      Page.breadcrumb?_reference other site.stylesheet site.now⟩

end Site.Course

namespace Site

/-- The links after a run with the standard layouts that has returned. If the index was written, it
links to the page of every record that has a title, by title, whether the page was written or not;
read from the output directory, the link to a page that was written leads to it, and so it does from
the index if its name has no slash. A page that came back is gone if the index was written over it.
Otherwise the page at its path leads back to the standard name of an index, next to it: this is the
index, for a title without a slash, just if it has that name in the output directory. -/
theorem run_links (site : Site) (work after : Work) (root : Path) (written : List Path)
    (standardPage : site.pageLayout = .standard) (standardIndex : site.indexLayout = .standard)
    (returned : site.run work root = (.ok written, after)) :
    ∃ results index, site.Course work root results index ∧
      written = results.filterMap (·.2) ++ index.toList ∧
      after.contents = results.map (·.1) ∧
      (index = some site.config.indexPath →
        ∃ page : String,
          after.tree.read site.config.indexPath = .ok (Text.Utf8.encode page.toList) ∧
          Page.links page = ((Record.sortByTitle after.contents).filter
            (·.filename ≠ "")).map (·.filename) ∧
          ∀ record path, (record, some path) ∈ results →
            record.filename ∈ Page.links page ∧
            site.config.outputDirectory.join (Path.ofText record.filename) = path ∧
            (.char '/' ∉ site.config.indexFilename →
              Page.target site.config.indexPath record.filename = path)) ∧
      ∀ record path, (record, some path) ∈ results →
        (index = some site.config.indexPath ∧
          after.tree.locate site.config.indexPath = after.tree.locate path) ∨
        ∃ page : String,
          after.tree.read path = .ok (Text.Utf8.encode page.toList) ∧
          Page.breadcrumb? page = some "docs.html" ∧
          ('/' ∉ record.title.toList →
            (Page.target path "docs.html" = site.config.indexPath ↔
              site.config.indexPath =
                site.config.outputDirectory.join (Path.ofText "docs.html"))) := by
  obtain ⟨results, index, course⟩ := site.exists_course work root
  have ended : (site.run work root).2 = after := by rw [returned]
  have contents := course.contents
  rw [ended] at contents
  refine ⟨results, index, course, course.returned written (by rw [returned]), contents, ?_, ?_⟩
  · rintro rfl
    obtain ⟨page, read, links, linked⟩ := course.index_links standardIndex rfl
    rw [ended] at read links linked
    refine ⟨page, read, links, ?_⟩
    intro record path listed
    obtain ⟨rfl, titled, _⟩ := course.page_path listed
    have entered : record ∈ after.contents := contents ▸ List.mem_map_of_mem listed
    refine ⟨linked record entered titled, rfl, ?_⟩
    intro noSlash
    rw [Page.target, course.indexPath_parent listed rfl noSlash]
    rfl
  · intro record path listed
    have breadcrumb := course.page_breadcrumb standardPage (by rw [returned]) listed
    rw [ended] at breadcrumb
    refine breadcrumb.imp_right ?_
    rintro ⟨page, read, leadsBack⟩
    refine ⟨page, read, leadsBack, ?_⟩
    intro noSlash
    rw [Page.target, course.page_parent listed noSlash]
    exact eq_comm

/-- A source with one block, and a configuration that puts the index into a directory of its own. -/
def nestedTree : Tree where
  workingDirectory := []
  entries :=
    [(["wsdoc.yaml"], .file (Text.Utf8.encode "index_filename: sub/docs.html\n".toList)),
      (["src"], .directory),
      (["src", "a.py"], .file (Text.Utf8.encode
        "# wsdoc \x7b\n# @title Zoo\n# wsdoc \x7d\n".toList))]

def nestedWork : Work :=
  ⟨Glossary.empty, [], nestedTree, []⟩

def zooRecord : Record where
  title := "Zoo"
  slug := "zoo"
  filename := "zoo.html"
  source := some ⟨.here, ["src", "a.py"]⟩

def zooPage : Path :=
  ⟨.here, ["doc", "zoo.html"]⟩

def indexNamed (name : String) : Config :=
  { indexFilename := name }

theorem sources_nestedTree :
    Discovery.sources nestedTree ({} : Config).extensions ({} : Config).exclude ⟨.here, ["src"]⟩ =
      .ok [⟨.here, ["src", "a.py"]⟩] :=
  Discovery.sources_of_sorted ["src"] [["a.py"]] (by decide) (by decide) (by decide) (by decide)
    (by decide)

theorem run_nestedTree {name : String} (either : name = "docs.html" ∨ name = "sub/docs.html") :
    ∃ after, (plainSite (indexNamed name)).run nestedWork ⟨.here, ["src"]⟩ =
        (.ok [zooPage, (indexNamed name).indexPath], after) ∧
      after.contents = [zooRecord] ∧
      after.tree.locate (indexNamed name).indexPath ≠ after.tree.locate zooPage := by
  have scanned : Block.ofFile nestedTree (plainSite {}).config.sentinels
      ⟨.here, ["src", "a.py"]⟩ = .ok [["# @title Zoo"]] := by decide +kernel
  have isRecord : Record.ofLines Glossary.empty Registry.empty "#" ["# @title Zoo"]
      (some ⟨.here, ["src", "a.py"]⟩) = zooRecord := by decide
  have pageDone : ((plainSite (indexNamed name)).writtenPage nestedTree zooRecord).1 =
      .ok zooPage := by
    rcases either with rfl | rfl <;> decide
  have processed := processFiles_of_block (plainSite (indexNamed name)) nestedWork
    ⟨.here, ["src", "a.py"]⟩ ["# @title Zoo"] zooRecord rfl (List.cons_ne_nil _ _) scanned
    (by decide) (by decide) isRecord pageDone
  have indexDone : ((plainSite (indexNamed name)).writtenIndex "1.0"
      ((plainSite (indexNamed name)).writtenPage nestedTree zooRecord).2 [zooRecord]).1 =
        .ok (indexNamed name).indexPath := by
    rcases either with rfl | rfl <;> decide
  refine ⟨_, run_of_processFiles _ nestedWork rfl rfl rfl sources_nestedTree processed indexDone,
    rfl, ?_⟩
  rcases either with rfl | rfl <;> decide

theorem run_links_nestedTree :
    ∃ after, (plainSite (indexNamed "docs.html")).run nestedWork ⟨.here, ["src"]⟩ =
        (.ok [zooPage, (indexNamed "docs.html").indexPath], after) ∧
      (∃ page : String, after.tree.read (indexNamed "docs.html").indexPath =
          .ok (Text.Utf8.encode page.toList) ∧
        "zoo.html" ∈ Page.links page ∧
        Page.target (indexNamed "docs.html").indexPath "zoo.html" = zooPage) ∧
      ∃ page : String, after.tree.read zooPage = .ok (Text.Utf8.encode page.toList) ∧
        Page.breadcrumb? page = some "docs.html" ∧
        Page.target zooPage "docs.html" = (indexNamed "docs.html").indexPath := by
  obtain ⟨after, ran, entered, apart⟩ := run_nestedTree (.inl rfl)
  obtain ⟨results, index, course, _, contents, fromIndex, fromPage⟩ :=
    run_links (plainSite (indexNamed "docs.html")) nestedWork after ⟨.here, ["src"]⟩ _ rfl rfl ran
  obtain ⟨record, rfl, rfl⟩ :=
    course.eq_of_two_paths (congrArg Prod.fst ran) (by rw [ran, entered]; rfl)
  obtain rfl : record = zooRecord := by simpa using contents.symm.trans entered
  obtain ⟨index, readIndex, _, linked⟩ := fromIndex rfl
  obtain ⟨isLinked, _, leads⟩ := linked zooRecord zooPage (List.mem_singleton_self _)
  obtain ⟨page, read, breadcrumb, leadsBack⟩ :=
    (fromPage zooRecord zooPage (List.mem_singleton_self _)).resolve_left fun lost => apart lost.2
  exact ⟨after, ran, ⟨index, readIndex, isLinked, leads (by decide)⟩, page, read, breadcrumb,
    (leadsBack (by decide)).2 rfl⟩

/-- With its index in a directory of its own, a site links to no page from the index, and to no
index from its page. -/
theorem run_breaks_links :
    ∃ config, Config.load nestedTree (.only ⟨.root, ["home"]⟩) (some ⟨.here, ["wsdoc.yaml"]⟩) =
        .ok config ∧
      ∃ after, (plainSite config).run nestedWork ⟨.here, ["src"]⟩ =
          (.ok [zooPage, config.indexPath], after) ∧
        (∃ page : String, after.tree.read config.indexPath = .ok (Text.Utf8.encode page.toList) ∧
          "zoo.html" ∈ Page.links page ∧
          Page.target config.indexPath "zoo.html" ∉ [zooPage, config.indexPath]) ∧
        ∃ page : String, after.tree.read zooPage = .ok (Text.Utf8.encode page.toList) ∧
          Page.breadcrumb? page = some "docs.html" ∧
          Page.target zooPage "docs.html" ≠ config.indexPath := by
  have loaded : Config.load nestedTree (.only ⟨.root, ["home"]⟩) (some ⟨.here, ["wsdoc.yaml"]⟩) =
      .ok (indexNamed "sub/docs.html") := by decide +kernel
  obtain ⟨after, ran, entered, apart⟩ := run_nestedTree (.inr rfl)
  obtain ⟨results, index, course⟩ :=
    (plainSite (indexNamed "sub/docs.html")).exists_course nestedWork ⟨.here, ["src"]⟩
  obtain ⟨record, rfl, rfl⟩ :=
    course.eq_of_two_paths (congrArg Prod.fst ran) (by rw [ran, entered]; rfl)
  obtain ⟨index, readIndex, _, linked⟩ := course.index_links rfl rfl
  have back := course.page_breadcrumb rfl (congrArg Prod.fst ran) (List.mem_singleton_self _)
  rw [ran] at readIndex linked back
  obtain ⟨page, read, breadcrumb⟩ := back.resolve_left fun lost => apart lost.2
  refine ⟨_, loaded, after, ran, ⟨index, readIndex, ?_, by decide⟩, page, read, breadcrumb,
    by decide⟩
  exact linked zooRecord (by simp [entered]) (by decide)

end Site

end EndpointDocs
