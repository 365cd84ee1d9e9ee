import EndpointDocs.Proofs.Directive.Groups
import EndpointDocs.Proofs.Page.Index
import EndpointDocs.Proofs.Source.Located
import EndpointDocs.Proofs.Source.Ordered
import EndpointDocs.Site

/-!
What building a site does. Every block of every source that can be read gives a record, in order,
whether its page could be written or not; the pages that were written come back in the same order,
and the index after them. Pages go to the tree that sources are read from, so the sources must stand
apart from the pages: then each is read as it was at the start.
-/
namespace EndpointDocs.Site

/-- The records of a file: one for each block that is not empty, none if it cannot be read. -/
def recordsOfFile (site : Site) (glossary : Glossary) (tree : Tree) (path : Path) : List Record :=
  match Block.ofFile tree site.config.sentinels path with
  | .ok blocks =>
    (blocks.filter fun block => !block.isEmpty).map fun block =>
      Record.ofLines glossary site.registry site.config.sentinels.marker block (some path)
  | .error _ => []

def recordsOf (site : Site) (glossary : Glossary) (tree : Tree) (paths : List Path) :
    List Record :=
  paths.flatMap (site.recordsOfFile glossary tree)

theorem recordsOfFile_eq_of_read_eq (site : Site) (glossary : Glossary) {old new : Tree}
    {path : Path} (same : new.read path = old.read path) :
    site.recordsOfFile glossary new path = site.recordsOfFile glossary old path := by
  unfold recordsOfFile Block.ofFile
  rw [same]

def page (site : Site) (record : Record) : Except Page.TemplateError Wide :=
  Page.referenceIn site.pageLayout record site.stylesheet site.now

def pagePath (site : Site) (record : Record) : Path :=
  Page.referencePath site.config.outputDirectory record

def indexPage (site : Site) (contents : List Record) : Except Page.TemplateError Wide :=
  Page.indexIn site.indexLayout contents site.config.version site.now

def writePage (site : Site) (tree : Tree) (record : Record) : Except Page.Error Path × Tree :=
  Page.writeReference tree site.pageLayout site.config.outputDirectory site.stylesheet site.now
    record

theorem not_unencodable_page {site : Site} (standard : site.pageLayout = .standard)
    (record : Record) : ¬ Page.Unencodable (site.page record) := by
  rw [page, standard]
  exact Page.not_unencodable_referenceIn record site.stylesheet site.now

/-- Records are given their pages one after another, from the first tree to the last. The paths are
those of the pages that were written. -/
inductive PagesWritten (site : Site) : Tree → List Record → List Path → Tree → Prop where
  | nil (tree : Tree) : PagesWritten site tree [] [] tree
  | page {tree next last : Tree} {record : Record} {records : List Record} {pages : List Path}
      (done : site.writePage tree record = (.ok (site.pagePath record), next))
      (rest : PagesWritten site next records pages last) :
      PagesWritten site tree (record :: records) (site.pagePath record :: pages) last
  | noPage {tree next last : Tree} {record : Record} {records : List Record} {pages : List Path}
      {error : Page.Error} (refused : site.writePage tree record = (.error error, next))
      (rest : PagesWritten site next records pages last) :
      PagesWritten site tree (record :: records) pages last

/-- A place where one of the pages was written, or where one that cannot be encoded would go. -/
def Reached (site : Site) (records : List Record) (pages : List Path) (tree : Tree)
    (place : Place) : Prop :=
  (∃ page ∈ pages, tree.locate page = .ok place) ∨
    ∃ record ∈ records, Page.Unencodable (site.page record) ∧
      tree.locate (site.pagePath record) = .ok place

theorem Reached.later {site : Site} {records : List Record} {pages : List Path} {tree last : Tree}
    {written : Place → Prop} {place : Place} (reached : site.Reached records pages tree place)
    (frame : Tree.Frame written tree last) : site.Reached records pages last place := by
  rcases reached with ⟨page, listed, located⟩ | ⟨record, listed, unencodable, located⟩
  · exact .inl ⟨page, listed, frame.locate_ok located⟩
  · exact .inr ⟨record, listed, unencodable, frame.locate_ok located⟩

theorem Reached.mono {site : Site} {records more : List Record} {pages others : List Path}
    {tree : Tree} {place : Place} (reached : site.Reached records pages tree place)
    (recordsListed : records ⊆ more) (pagesListed : pages ⊆ others) :
    site.Reached more others tree place := by
  rcases reached with ⟨page, listed, located⟩ | ⟨record, listed, unencodable, located⟩
  · exact .inl ⟨page, pagesListed listed, located⟩
  · exact .inr ⟨record, recordsListed listed, unencodable, located⟩

namespace PagesWritten

variable {site : Site}

theorem append {tree middle last : Tree} {records more : List Record} {pages others : List Path}
    (first : PagesWritten site tree records pages middle)
    (second : PagesWritten site middle more others last) :
    PagesWritten site tree (records ++ more) (pages ++ others) last := by
  induction first with
  | nil => exact second
  | page done _ ih => exact .page done (ih second)
  | noPage refused _ ih => exact .noPage refused (ih second)

/-- Files are written only where the paths of the pages lead in the end. -/
theorem frame {tree last : Tree} {records : List Record} {pages : List Path}
    (written : PagesWritten site tree records pages last) :
    Tree.Frame (site.Reached records pages last) tree last := by
  induction written with
  | nil tree => exact Tree.Frame.refl _ tree
  | page done _ ih =>
    obtain ⟨_, _, _, ⟨place, located, wrote⟩, _⟩ := Page.writeReference_ok done
    refine (wrote.mono ?_).trans (ih.mono fun _ reached =>
      reached.mono (List.subset_cons_self _ _) (List.subset_cons_self _ _))
    -- The page is still found at its place when the later ones have been written.
    rintro _ rfl
    exact .inl ⟨_, List.mem_cons_self, ih.locate_ok located⟩
  | @noPage tree next last record records pages error refused _ ih =>
    have later : ∀ place, site.Reached records pages last place →
        site.Reached (record :: records) pages last place := fun _ reached =>
      reached.mono (List.subset_cons_self _ _) (List.Subset.refl _)
    rcases Page.writeReference_error refused with
      unchanged | ⟨_, unencodable, _, ⟨place, located, emptied⟩, _⟩
    · exact (unchanged _).trans (ih.mono later)
    · refine (emptied.mono ?_).trans (ih.mono later)
      rintro _ rfl
      exact .inr ⟨_, List.mem_cons_self, unencodable, ih.locate_ok located⟩

end PagesWritten

/-- From `work` to `after`, records were entered into the contents and given their pages. -/
structure Documented (site : Site) (work : Work) (records : List Record) (pages : List Path)
    (after : Work) : Prop where
  glossary : after.glossary = work.glossary
  contents : after.contents = work.contents ++ records
  written : site.PagesWritten work.tree records pages after.tree

namespace Documented

variable {site : Site}

theorem nil (work : Work) : Documented site work [] [] work :=
  ⟨rfl, (List.append_nil _).symm, .nil work.tree⟩

theorem append {work middle after : Work} {records more : List Record} {pages others : List Path}
    (first : Documented site work records pages middle)
    (second : Documented site middle more others after) :
    Documented site work (records ++ more) (pages ++ others) after where
  glossary := second.glossary.trans first.glossary
  contents := by rw [second.contents, first.contents, List.append_assoc]
  written := first.written.append second.written

end Documented

/-- The two ways in which a record is added, with all that is then known. -/
theorem addRecord_cases (site : Site) (work : Work) (record : Record) :
    (∃ tree, site.writePage work.tree record = (.ok (site.pagePath record), tree) ∧
        site.addRecord work record =
          (some (site.pagePath record),
            { work with tree, contents := work.contents ++ [record] })) ∨
      ∃ error tree entry, site.writePage work.tree record = (.error error, tree) ∧
        entry.level = .error ∧
        site.addRecord work record =
          (none, { work with
            tree, contents := work.contents ++ [record], log := work.log ++ [entry] }) := by
  unfold addRecord
  split
  · rename_i path tree wrote
    obtain ⟨rfl, _⟩ := Page.writeReference_ok wrote
    exact .inl ⟨tree, wrote, rfl⟩
  · rename_i error tree refused
    exact .inr ⟨error, tree, _, refused, rfl, rfl⟩

/-- Adding a record changes no file, or leaves its page, or no byte of it, where the page goes. -/
theorem addRecord_left {site : Site} {work next : Work} {record : Record} {page : Option Path}
    (added : site.addRecord work record = (page, next)) :
    (page = none ∧ ∀ written, Tree.Frame written work.tree next.tree) ∨
      (∀ path ∈ page, path = site.pagePath record) ∧ record.filename ≠ "" ∧
        Page.Left next.tree (site.pagePath record) (site.page record) page ∧
        Page.Wrote work.tree next.tree site.config.outputDirectory (site.pagePath record) := by
  rcases site.addRecord_cases work record with
    ⟨tree, wrote, isAdded⟩ | ⟨error, tree, entry, refused, _, isAdded⟩
  · cases added.symm.trans isAdded
    obtain ⟨_, named, stored, wrote⟩ := Page.writeReference_ok wrote
    exact .inr ⟨by simp, named, stored, wrote⟩
  · cases added.symm.trans isAdded
    refine (Page.writeReference_error refused).imp (fun unchanged => ⟨rfl, unchanged⟩) ?_
    rintro ⟨named, unencodable, emptied, wrote⟩
    exact ⟨by simp, named, ⟨unencodable, emptied⟩, wrote⟩

/-- A record that is added is entered, with its page or without. -/
theorem addRecord_documented (site : Site) (work : Work) (record : Record) :
    Documented site work [record] (site.addRecord work record).1.toList
      (site.addRecord work record).2 := by
  rcases site.addRecord_cases work record with
    ⟨tree, wrote, added⟩ | ⟨error, tree, entry, refused, _, added⟩
  · rw [added]
    exact ⟨rfl, rfl, .page wrote (.nil tree)⟩
  · rw [added]
    exact ⟨rfl, rfl, .noPage refused (.nil tree)⟩

/-- With a marker, a block is documented whatever its lines are. -/
theorem processBlock_of_marker {site : Site} (marker : site.config.sentinels.marker ≠ [])
    (work : Work) (lines : List String) (source : Option Path) :
    site.processBlock work lines source =
      let record := Record.ofLines work.glossary site.registry site.config.sentinels.marker lines
        source
      (.ok (record, (site.addRecord work record).1), (site.addRecord work record).2) := by
  unfold processBlock
  rw [Record.ofLinesChecked_of_marker _ _ marker]

/-- What one block gives: its record is that of its lines, and its page was written or refused. -/
theorem processBlock_result {site : Site} {work after : Work} {lines : List String}
    {source : Option Path} {record : Record} {page : Option Path}
    (done : site.processBlock work lines source = (.ok (record, page), after)) :
    record = Record.ofLines work.glossary site.registry site.config.sentinels.marker lines source ∧
      site.addRecord work record = (page, after) := by
  unfold processBlock at done
  split at done
  · cases done
  · rename_i made entered
    cases done
    unfold Record.ofLinesChecked at entered
    split at entered
    · cases entered
    · cases entered
      exact ⟨rfl, rfl⟩

/-- A block that is documented gives its record, with a page or without. -/
theorem processBlock_ok {site : Site} {work after : Work} {lines : List String}
    {source : Option Path} {record : Record} {page : Option Path}
    (done : site.processBlock work lines source = (.ok (record, page), after)) :
    Documented site work
      [Record.ofLines work.glossary site.registry site.config.sentinels.marker lines source]
      page.toList after := by
  have documented := site.addRecord_documented work record
  obtain ⟨isRecord, added⟩ := processBlock_result done
  rw [added] at documented
  rwa [← isRecord]

/-- Blocks that are all documented give their records in order, and empty ones none. -/
theorem processBlocks_ok {site : Site} {work after : Work} {source : Option Path}
    {blocks : List (List String)} {pages : List Path}
    (done : site.processBlocks work source blocks = (.ok pages, after)) :
    Documented site work
      ((blocks.filter fun block => !block.isEmpty).map fun block =>
        Record.ofLines work.glossary site.registry site.config.sentinels.marker block source)
      pages after := by
  induction blocks generalizing work pages with
  | nil =>
    cases done
    exact Documented.nil _
  | cons block rest ih =>
    rw [processBlocks] at done
    split at done
    · rename_i isEmpty
      simpa [isEmpty] using ih done
    · rename_i notEmpty
      split at done
      · cases done
      · rename_i record page middle first
        split at done
        · cases done
        · rename_i more final second
          cases done
          have step := processBlock_ok first
          have run := ih second
          rw [step.glossary] at run
          simpa [notEmpty] using step.append run

/-- A file that is documented gives its records, and none if it cannot be read. -/
theorem processFile_ok {site : Site} {work after : Work} {path : Path} {pages : List Path}
    (done : site.processFile work path = (.ok pages, after)) :
    Documented site work (site.recordsOfFile work.glossary work.tree path) pages after := by
  unfold processFile at done
  unfold recordsOfFile
  split at done
  · rename_i blocks scanned
    rw [scanned]
    exact processBlocks_ok done
  · cases done
  · rename_i error _ failed
    rw [failed]
    split at done
    · cases done
    · cases done
      exact ⟨rfl, (List.append_nil _).symm, .nil work.tree⟩

/-- A path leads to something, and no page reaches it. -/
def Apart (site : Site) (records : List Record) (pages : List Path) (tree last : Tree)
    (path : Path) : Prop :=
  ∃ place, tree.locate path = .ok place ∧ (tree.at? place).isSome ∧
    ¬ site.Reached records pages last place

/-- Files are documented in order. Each is read from the tree as it then is; a file apart from the
pages is still what it was at the start, by the frame of the pages written before it. -/
theorem processFiles_ok {site : Site} {work after : Work} {paths pages : List Path}
    (done : site.processFiles work paths = (.ok pages, after)) :
    ∃ records, Documented site work records pages after ∧
      ((∀ path ∈ paths, site.Apart records pages work.tree after.tree path) →
        records = site.recordsOf work.glossary work.tree paths) := by
  induction paths generalizing work pages with
  | nil =>
    cases done
    exact ⟨[], Documented.nil _, fun _ => rfl⟩
  | cons path rest ih =>
    rw [processFiles] at done
    split at done
    · cases done
    · rename_i here middle first
      split at done
      · cases done
      · rename_i more final second
        cases done
        have step := processFile_ok first
        obtain ⟨records, run, fromStart⟩ := ih second
        refine ⟨_, step.append run, ?_⟩
        intro apart
        have kept : ∀ path ∈ rest, site.Apart records more middle.tree after.tree path ∧
            middle.tree.read path = work.tree.read path := by
          intro path listed
          obtain ⟨place, located, there, free⟩ := apart path (List.mem_cons_of_mem _ listed)
          have frame := step.written.frame
          refine ⟨⟨place, frame.locate_ok located, frame.isSome there, ?_⟩, ?_⟩
          · exact fun reached => free (reached.mono (List.subset_append_right _ _)
              (List.subset_append_right _ _))
          · obtain ⟨entry, there⟩ := Option.isSome_iff_exists.1 there
            apply frame.read_eq located there
            intro reached
            exact free ((reached.later run.written.frame).mono (List.subset_append_left _ _)
              (List.subset_append_left _ _))
        rw [fromStart fun path listed => (kept path listed).1, step.glossary]
        unfold recordsOf
        rw [List.flatMap_cons]
        congr 1
        exact List.flatMap_congr fun path listed =>
          site.recordsOfFile_eq_of_read_eq work.glossary (kept path listed).2

/-- The index lists the contents and is at its path, or was refused without a change to any file. -/
theorem writeIndex_ok {site : Site} {work after : Work} {index : Option Path}
    (done : site.writeIndex work = (.ok index, after)) :
    after.glossary = work.glossary ∧ after.contents = work.contents ∧
      (Page.writeIndex work.tree site.indexLayout site.config.indexPath site.config.version
            site.now work.contents = (.ok site.config.indexPath, after.tree) ∧
          index = some site.config.indexPath ∨
        (∃ error, Page.writeIndex work.tree site.indexLayout site.config.indexPath
            site.config.version site.now work.contents = (.error error, after.tree)) ∧
          index = none ∧ ∀ written, Tree.Frame written work.tree after.tree) := by
  unfold writeIndex at done
  split at done
  · rename_i path tree wrote
    cases done
    obtain ⟨rfl, _⟩ := Page.writeInto_ok wrote
    exact ⟨rfl, rfl, .inl ⟨wrote, rfl⟩⟩
  · rename_i error tree refused
    split at done
    · cases done
    · rename_i reported
      cases done
      refine ⟨rfl, rfl, .inr ⟨⟨error, refused⟩, rfl, ?_⟩⟩
      refine (Page.writeInto_error refused).resolve_right ?_
      rintro ⟨_, _, _, _, rfl, _⟩
      cases reported

theorem frame_writeIndex {site : Site} {work after : Work} {index : Option Path}
    (done : site.writeIndex work = (.ok index, after)) :
    Tree.Frame (fun _ => True) work.tree after.tree := by
  obtain ⟨_, _, ⟨wrote, _⟩ | ⟨_, _, unchanged⟩⟩ := writeIndex_ok done
  · obtain ⟨_, _, ⟨_, _, frame⟩, _⟩ := Page.writeInto_ok wrote
    exact frame.mono fun _ _ => trivial
  · exact unchanged _

/-- A run is its three stages: the glossary, the sources as they are then, and the index. -/
theorem run_ok {site : Site} {work after : Work} {root : Path} {written : List Path}
    (returned : site.run work root = (.ok written, after)) :
    ∃ log sources pages index middle,
      Discovery.sources work.tree site.config.extensions site.config.exclude root = .ok sources ∧
      site.processFiles
          { work with
            glossary := (work.glossary.loadAll work.tree site.config.glossary).1
            contents := []
            log } sources = (.ok pages, middle) ∧
      site.writeIndex middle = (.ok index, after) ∧ written = pages ++ index.toList := by
  unfold run loadGlossary at returned
  cases loaded : work.glossary.loadAll work.tree site.config.glossary with
  | mk glossary outcome =>
    obtain ⟨log, outcome⟩ := outcome
    cases outcome with
    | error error => simp [loaded] at returned
    | ok failed =>
      simp only [loaded] at returned
      split at returned
      · cases returned
      · rename_i sources found
        split at returned
        · cases returned
        · rename_i pages middle documented
          split at returned
          · cases returned
          · rename_i index final indexed
            cases returned
            exact ⟨_, sources, pages, index, middle, found, documented, indexed, rfl⟩

/-- No page of a run, from the first tree to the last, is at a source. -/
structure SparesSources (site : Site) (after : Work) (written sources : List Path) : Prop where
  pages : ∀ page ∈ written, ∀ source ∈ sources,
    after.tree.locate page ≠ after.tree.locate source
  /-- A page that cannot be encoded is not written, but empties its file. -/
  unencodable : ∀ record ∈ after.contents, Page.Unencodable (site.page record) →
    ∀ source ∈ sources, after.tree.locate (site.pagePath record) ≠ after.tree.locate source

/-- A run that returns, with no page at a source, leaves the glossary that its sources give and the
records of all documented sources as they were at the start. -/
theorem run_documented {site : Site} {work after : Work} {root : Path}
    {sources written : List Path} (returned : site.run work root = (.ok written, after))
    (wellFormed : work.tree.WellFormed)
    (found : Discovery.sources work.tree site.config.extensions site.config.exclude root =
      .ok sources)
    (spared : site.SparesSources after written sources) :
    after.glossary = (work.glossary.loadAll work.tree site.config.glossary).1 ∧
    after.contents = site.recordsOf after.glossary work.tree sources ∧
    ∃ pages index middle, site.PagesWritten work.tree after.contents pages middle.tree ∧
      middle.contents = after.contents ∧ site.writeIndex middle = (.ok index, after) ∧
      written = pages ++ index.toList := by
  obtain ⟨log, sources', pages, index, middle, found', processed, indexed, rfl⟩ := run_ok returned
  cases found.symm.trans found'
  obtain ⟨records, documented, fromStart⟩ := processFiles_ok processed
  obtain ⟨sameGlossary, sameContents, _⟩ := writeIndex_ok indexed
  have indexFrame := frame_writeIndex indexed
  have glossary := sameGlossary.trans documented.glossary
  have contents : after.contents = records := sameContents.trans documented.contents
  have apart : ∀ source ∈ sources, site.Apart records pages work.tree middle.tree source := by
    intro source listed
    obtain ⟨place, entry, located, there⟩ :=
      Discovery.located_of_mem_sources wellFormed found listed
    have stays := indexFrame.locate_ok (documented.written.frame.locate_ok located)
    refine ⟨place, located, by simp [there], fun reached => ?_⟩
    rcases reached.later indexFrame with ⟨page, isPage, there⟩ | ⟨record, entered, fails, there⟩
    · exact spared.pages page (List.mem_append_left _ isPage) source listed (there.trans stays.symm)
    · exact spared.unencodable record (contents ▸ entered) fails source listed
        (there.trans stays.symm)
  refine ⟨glossary, ?_, pages, index, middle, contents ▸ documented.written, sameContents.symm,
    indexed, rfl⟩
  rw [contents, fromStart apart, glossary]

/-- In a tree whose places lie in directories, a run that returns, with no page at a source, has
documented every block of every source as it was at the start, whatever stood in the contents
before. What comes back is the paths of the pages that were written, in the order of their records,
and then that of the index if it was written. The standard index has one row for each record, by
title, and records of one title keep their order. -/
theorem run_documents_every_block (site : Site) (work after : Work) (root : Path)
    (sources written : List Path) (wellFormed : work.tree.WellFormed)
    (found : Discovery.sources work.tree site.config.extensions site.config.exclude root =
      .ok sources)
    (returned : site.run work root = (.ok written, after))
    (spared : site.SparesSources after written sources) :
    after.glossary = (work.glossary.loadAll work.tree site.config.glossary).1 ∧
    after.contents = site.recordsOf after.glossary work.tree sources ∧
    ∃ pages tree, site.PagesWritten work.tree after.contents pages tree ∧
      ((Page.writeIndex tree site.indexLayout site.config.indexPath site.config.version site.now
            after.contents = (.ok site.config.indexPath, after.tree) ∧
          written = pages ++ [site.config.indexPath] ∧
          (site.indexLayout = .standard →
            ∃ rows : List Record, rows.Perm after.contents ∧
              rows.Pairwise (fun a b => a.title ≤ b.title) ∧
              (∀ title, rows.filter (·.title = title) =
                after.contents.filter (·.title = title)) ∧
              Page.Stored after.tree site.config.indexPath
                (.ok (Page.indexOpening site.config.version site.now ++
                  Wide.ofString (String.join (rows.map Page.indexRow)) ++
                  Wide.ofString (Page.source Page.indexClosing ++ "\n"))))) ∨
        ∃ error, Page.writeIndex tree site.indexLayout site.config.indexPath site.config.version
            site.now after.contents = (.error error, after.tree) ∧
          written = pages) := by
  obtain ⟨glossary, contents, pages, index, middle, pagesWritten, sameContents, indexed, rfl⟩ :=
    run_documented returned wellFormed found spared
  refine ⟨glossary, contents, pages, middle.tree, pagesWritten, ?_⟩
  rw [← sameContents]
  obtain ⟨_, _, ⟨wrote, rfl⟩ | ⟨⟨error, refused⟩, rfl, _⟩⟩ := writeIndex_ok indexed
  · refine .inl ⟨wrote, rfl, ?_⟩
    intro standard
    refine ⟨Record.sortByTitle middle.contents, Record.sortByTitle_perm _,
      Record.sortByTitle_pairwise _, Record.filter_sortByTitle _, ?_⟩
    rw [standard] at wrote
    rw [← Page.indexIn_standard]
    exact (Page.writeInto_ok wrote).2.1
  · exact .inr ⟨error, refused, List.append_nil pages⟩

/-- The site for a configuration, with the pages' own layouts. -/
def plainSite (config : Config) : Site where
  config := config
  registry := Registry.empty
  pageLayout := .standard
  indexLayout := .standard
  stylesheet := Page.plainStylesheet
  now := ⟨2024, 1, 2, 3, 4, 5, 0⟩

section Standard

variable {site : Site} {work : Work} {root : Path}

/-- The text of a record's page in the pages' own layout. -/
def pageText (site : Site) (record : Record) : String :=
  Page.reference (.ofRecord record site.stylesheet site.now) ++ "\n"

theorem page_standard (standard : site.pageLayout = .standard) (record : Record) :
    site.page record = .ok (Wide.ofString (site.pageText record)) := by
  rw [page, standard, pageText, Page.referenceIn_standard]

/-- In the pages' own layout the page is a text, and only the tree can refuse it. -/
theorem addRecord_standard (standard : site.pageLayout = .standard) {record : Record}
    (named : record.filename ≠ "") :
    site.addRecord work record =
      match Page.writeText work.tree site.config.outputDirectory (site.pagePath record)
          (site.pageText record) with
      | (.ok path, tree) => (some path, { work with tree, contents := work.contents ++ [record] })
      | (.error error, tree) =>
        (none, report { work with tree, contents := work.contents ++ [record] } (.error
          (Wide.ofString ("Error generating reference page for " ++ Text.quoted record.title ++
            ": ") ++ error.message))) := by
  have isPage := site.page_standard standard record
  rw [page] at isPage
  rw [addRecord, Page.writeReference, if_neg (by simpa using named), isPage,
    Page.writeInto_ofString]
  unfold pagePath
  cases written : Page.writeText work.tree site.config.outputDirectory
      (Page.referencePath site.config.outputDirectory record) (site.pageText record) with
  | mk outcome tree => cases outcome <;> rfl

/-- The index is a text if the version is one. -/
theorem writeIndex_standard (standard : site.indexLayout = .standard) {version : String}
    (isText : site.config.version = version) :
    site.writeIndex work =
      match Page.writeText work.tree site.config.indexPath.parent site.config.indexPath
          (Page.indexText work.contents version site.now) with
      | (.ok path, tree) => (.ok (some path), { work with tree })
      | (.error error, tree) =>
        match error.refusal? with
        | some refusal => (.error (.file refusal), { work with tree })
        | none => (.ok none, report { work with tree } (.error
            (Wide.ofString "Error generating index page: " ++ error.message))) := by
  rw [← Page.writeInto_ofString, ← Page.indexIn_standard_ofString, ← isText, ← standard]
  rfl

theorem processFiles_singleton (site : Site) (work : Work) (path : Path) :
    site.processFiles work [path] = site.processFile work path := by
  rw [processFiles]
  cases site.processFile work path with
  | mk outcome after => cases outcome <;> simp [processFiles]

def writtenPage (site : Site) (tree : Tree) (record : Record) :
    Except Page.WriteError Path × Tree :=
  Page.writeText tree site.config.outputDirectory (site.pagePath record) (site.pageText record)

def writtenIndex (site : Site) (version : String) (tree : Tree) (contents : List Record) :
    Except Page.WriteError Path × Tree :=
  Page.writeText tree site.config.indexPath.parent site.config.indexPath
    (Page.indexText contents version site.now)

/-- A run whose sources were documented, and whose index can be written. -/
theorem run_of_processFiles (site : Site) (work : Work) {loaded middle : Work}
    (standard : site.indexLayout = .standard) {version : String}
    (isText : site.config.version = version) {failed sources pages : List Path}
    (loading : site.loadGlossary { work with contents := [] } = (.ok failed, loaded))
    (found : Discovery.sources loaded.tree site.config.extensions site.config.exclude root =
      .ok sources)
    (processed : site.processFiles loaded sources = (.ok pages, middle))
    (indexDone : (site.writtenIndex version middle.tree middle.contents).1 =
      .ok site.config.indexPath) :
    site.run work root = (.ok (pages ++ [site.config.indexPath]),
      { middle with tree := (site.writtenIndex version middle.tree middle.contents).2 }) := by
  rw [run, loading]
  simp only [found, processed, writeIndex_standard standard isText]
  rw [← writtenIndex]
  cases written : site.writtenIndex version middle.tree middle.contents with
  | mk outcome last =>
    rw [written] at indexDone
    cases indexDone
    rfl

/-- A titled block whose page can be written. -/
theorem processBlock_standard (site : Site) (work : Work) (lines : List String)
    (from? : Option Path) (record : Record) (standard : site.pageLayout = .standard)
    (marker : site.config.sentinels.marker ≠ []) (named : record.filename ≠ "")
    (isRecord : Record.ofLines work.glossary site.registry site.config.sentinels.marker lines
      from? = record)
    (pageDone : (site.writtenPage work.tree record).1 = .ok (site.pagePath record)) :
    site.processBlock work lines from? = (.ok (record, some (site.pagePath record)),
      { work with
        contents := work.contents ++ [record]
        tree := (site.writtenPage work.tree record).2 }) := by
  rw [processBlock_of_marker marker, isRecord]
  simp only [addRecord_standard standard named]
  rw [← writtenPage]
  cases written : site.writtenPage work.tree record with
  | mk outcome tree =>
    rw [written] at pageDone
    cases pageDone
    rfl

/-- A source with one block, whose page can be written. -/
theorem processFiles_of_block (site : Site) (work : Work) (source : Path) (block : List String)
    (record : Record) (standard : site.pageLayout = .standard)
    (marker : site.config.sentinels.marker ≠ [])
    (scanned : Block.ofFile work.tree site.config.sentinels source = .ok [block])
    (nonempty : block ≠ []) (named : record.filename ≠ "")
    (isRecord : Record.ofLines work.glossary site.registry site.config.sentinels.marker block
      (some source) = record)
    (pageDone : (site.writtenPage work.tree record).1 = .ok (site.pagePath record)) :
    site.processFiles work [source] = (.ok [site.pagePath record],
      { work with
        contents := work.contents ++ [record]
        tree := (site.writtenPage work.tree record).2 }) := by
  rw [processFiles_singleton, processFile, scanned]
  simp [processBlocks, nonempty, processBlock_standard _ _ _ _ _ standard marker named isRecord
    pageDone]

end Standard

/-- A site without exclusions, whose pages show the titles of their records. -/
def zooSite : Site :=
  { plainSite { exclude := [] } with
    pageLayout := .custom fun data => .ok (Wide.ofString data.record.title) }

/-- A file that cannot be decoded, and one with a block without a title between two titled ones. -/
def zooTree : Tree where
  workingDirectory := []
  entries :=
    [(["src"], .directory), (["src", "bad.py"], .file [0xff]),
      (["src", "zoo.py"], .file (Text.Utf8.encode
        ("# wsdoc \x7b\n# @title Zoo\n# wsdoc \x7d\n# wsdoc \x7b\n# @method GET\n" ++
          "# wsdoc \x7d\n# wsdoc \x7b\n# @title Ape\n# wsdoc \x7d\n").toList))]

/-- The start of a run on `zooTree`, with contents left over from another run. -/
def zooWork : Work :=
  ⟨Glossary.empty, [{ source := none }], zooTree, []⟩

def zooSources : List Path :=
  [⟨.here, ["src", "bad.py"]⟩, ⟨.here, ["src", "zoo.py"]⟩]

def zooPages : List Path :=
  [⟨.here, ["doc", "zoo.html"]⟩, ⟨.here, ["doc", "ape.html"]⟩, ⟨.here, ["doc", "docs.html"]⟩]

theorem sources_zooTree :
    Discovery.sources zooTree [".py"] [] ⟨.here, ["src"]⟩ = .ok zooSources :=
  Discovery.sources_of_sorted ["src"] [["bad.py"], ["zoo.py"]] (by decide) (by decide) (by decide)
    (by decide) (by decide)

theorem scan_zooTree :
    Block.ofFile zooTree zooSite.config.sentinels ⟨.here, ["src", "bad.py"]⟩ =
        .error (.undecodable ⟨.badStart, 0, 1, 0xff⟩) ∧
      Block.ofFile zooTree zooSite.config.sentinels ⟨.here, ["src", "zoo.py"]⟩ =
        .ok [["# @title Zoo"], ["# @method GET"], ["# @title Ape"]] := by
  decide +kernel

/-- The run on `zooTree` when the file that cannot be decoded has been reported. -/
def zooReported : Work :=
  report { zooWork with contents := [] } (.error (Wide.ofString "Error scanning file " ++
    Path.text ⟨.here, ["src", "bad.py"]⟩ ++ ": " ++
      SourceError.message (.undecodable ⟨.badStart, 0, 1, 0xff⟩)))

def zooRecords : List Record :=
  let source := some ⟨.here, ["src", "zoo.py"]⟩
  [{ title := "Zoo", slug := "zoo", filename := "zoo.html", source },
    { methods := ["GET"], source },
    { title := "Ape", slug := "ape", filename := "ape.html", source }]

def zooPageEntries : List (Place × Entry) :=
  [(["doc"], .directory), (["doc", "zoo.html"], .file (Text.Utf8.encode "Zoo\n".toList)),
    (["doc", "ape.html"], .file (Text.Utf8.encode "Ape\n".toList))]

theorem processFiles_zooSources :
    ∃ log, zooSite.processFiles { zooWork with contents := [] } zooSources =
      (.ok (zooPages.take 2),
        ⟨Glossary.empty, zooRecords, ⟨[], zooTree.entries ++ zooPageEntries⟩, log⟩) := by
  have first : zooSite.processFile { zooWork with contents := [] } ⟨.here, ["src", "bad.py"]⟩ =
      (.ok [], zooReported) := by
    rw [processFile]
    simp only [zooWork, scan_zooTree, SourceError.refusal?]
    rfl
  have scanned : Block.ofFile zooReported.tree zooSite.config.sentinels
      ⟨.here, ["src", "zoo.py"]⟩ = _ := scan_zooTree.2
  have second : zooSite.processFile zooReported ⟨.here, ["src", "zoo.py"]⟩ =
      zooSite.processBlocks zooReported (some ⟨.here, ["src", "zoo.py"]⟩)
        [["# @title Zoo"], ["# @method GET"], ["# @title Ape"]] := by
    rw [processFile, scanned]
  have blocks : (fun outcome : Except RunError (List Path) × Work =>
        (outcome.1, outcome.2.glossary, outcome.2.contents, outcome.2.tree))
        (zooSite.processBlocks zooReported (some ⟨.here, ["src", "zoo.py"]⟩)
          [["# @title Zoo"], ["# @method GET"], ["# @title Ape"]]) =
      (.ok (zooPages.take 2), Glossary.empty, zooRecords,
        ⟨[], zooTree.entries ++ zooPageEntries⟩) := by
    decide
  rw [zooSources, processFiles, first]
  simp only [processFiles_singleton, List.nil_append, second]
  generalize zooSite.processBlocks _ _ _ = outcome at blocks
  obtain ⟨_, _, _, _, log⟩ := outcome
  cases blocks
  exact ⟨log, rfl⟩

theorem zooSite_run_documents_every_block :
    ∃ after, zooSite.run zooWork ⟨.here, ["src"]⟩ = (.ok zooPages, after) ∧
      after.contents = zooSite.recordsOf after.glossary zooTree zooSources ∧
      after.contents.map (·.title) = ["Zoo", "", "Ape"] := by
  have found : Discovery.sources zooWork.tree zooSite.config.extensions zooSite.config.exclude
      ⟨.here, ["src"]⟩ = .ok zooSources := sources_zooTree
  obtain ⟨log, processed⟩ := processFiles_zooSources
  -- The text of the index, which is sorted, is not looked at here: only places are.
  have indexed : (zooSite.writtenIndex "1.0" ⟨[], zooTree.entries ++ zooPageEntries⟩ zooRecords).1 =
        .ok zooSite.config.indexPath ∧
      ∀ page ∈ zooPages, ∀ source ∈ zooSources,
        (zooSite.writtenIndex "1.0" ⟨[], zooTree.entries ++ zooPageEntries⟩ zooRecords).2.locate
            page ≠
          (zooSite.writtenIndex "1.0" ⟨[], zooTree.entries ++ zooPageEntries⟩ zooRecords).2.locate
            source := by
    decide
  have returned := run_of_processFiles zooSite zooWork rfl rfl rfl found processed indexed.1
  have encodable : ∀ record ∈ zooRecords, ¬ Page.Unencodable (zooSite.page record) := by
    intro record _
    obtain ⟨text, finished⟩ := Page.exists_finish_eq record.title
    have isText : zooSite.page record = .ok (Wide.ofString text) := congrArg Except.ok finished
    rw [isText]
    exact Page.not_unencodable_ofString text
  have wellFormed : zooWork.tree.WellFormed := ⟨by decide, by decide⟩
  have documented := run_documents_every_block zooSite zooWork _ _ _ _ wellFormed found returned
    ⟨indexed.2, fun record listed fails => absurd fails (encodable record listed)⟩
  exact ⟨_, returned, documented.2.1, rfl⟩

end EndpointDocs.Site
