import EndpointDocs.Proofs.Site.Placement

/-!
The course of a run, block by block, whether the run returns or stops on its way. What the blocks
gave is known one by one: a record for each, and its page if that was written. In the end every such
page is found at its path again, unless a later page went to the same place; then that page is found
there, or an empty file if it cannot be encoded.
-/
namespace EndpointDocs

namespace Page

variable {tree new : Tree} {directory path : Path} {page : Except TemplateError Wide}
  {written : Option Path}

theorem Left.exists_read (left : Left tree path page written) :
    ∃ bytes, tree.read path = .ok bytes := by
  cases written with
  | some _ =>
    obtain ⟨_, _, read⟩ := left
    exact ⟨_, read⟩
  | none => exact ⟨_, left.2⟩

theorem Left.stored (left : Left tree path page written) (encodable : ¬ Unencodable page) :
    Stored tree path page := by
  cases written with
  | some _ => exact left
  | none => exact absurd left.1 encodable

theorem Wrote.frame (wrote : Wrote tree new directory path) :
    Tree.Frame (fun _ => True) tree new := by
  obtain ⟨_, _, frame⟩ := wrote.file
  exact frame.mono fun _ _ => trivial

/-- Writing one page leaves what another path gives, unless both lead to the same place. -/
theorem Wrote.keeps (wrote : Wrote tree new directory path) (left : Left new path page written)
    {other : Path} {place : Place} (located : tree.locate other = .ok place)
    (there : (tree.at? place).isSome) :
    new.read other = tree.read other ∨
      new.locate path = new.locate other ∧ Left new other page written := by
  obtain ⟨file, isFile, frame⟩ := wrote.file
  by_cases apart : place = file
  · subst apart
    have same : new.locate other = new.locate path := (frame.locate_ok located).trans isFile.symm
    cases clean : other.refusal? with
    | some error => exact .inl (by simp [Tree.read, clean])
    | none =>
      obtain ⟨bytes, read⟩ := left.exists_read
      exact .inr ⟨same.symm,
        left.of_read_eq ((Tree.read_of_locate_eq read same clean).trans read.symm)⟩
  · obtain ⟨entry, there⟩ := Option.isSome_iff_exists.1 there
    exact .inl (frame.read_eq located there apart)

end Page

/-- The identifier of a record is that of its title, also where it has none. -/
theorem Record.slug_ofLines (glossary : Glossary) (registry : Registry) (marker : Wide)
    (lines : List String) (source : Option Path) :
    (ofLines glossary registry marker lines source).slug =
      Directive.slugOf (ofLines glossary registry marker lines source).title :=
  (names_ofLines glossary registry marker lines source).2.1

namespace Site

theorem processBlock_error {site : Site} {work next : Work} {lines : List String}
    {source : Option Path} {error : RunError}
    (stopped : site.processBlock work lines source = (.error error, next)) : next = work := by
  unfold processBlock at stopped
  split at stopped
  · cases stopped
    rfl
  · cases stopped

/-- At a path is what a block has left: the page of its record went to the same place. -/
structure LeftAt (site : Site) (tree : Tree) (path : Path) (result : Record × Option Path) :
    Prop where
  named : result.1.filename ≠ ""
  locate : tree.locate (site.pagePath result.1) = tree.locate path
  left : Page.Left tree path (site.page result.1) result.2

theorem LeftAt.later {site : Site} {tree last : Tree} {path : Path}
    {result : Record × Option Path} {written : Place → Prop}
    (leftAt : site.LeftAt tree path result) (frame : Tree.Frame written tree last)
    (same : last.read path = tree.read path) : site.LeftAt last path result := by
  obtain ⟨bytes, read⟩ := leftAt.left.exists_read
  obtain ⟨place, located, _⟩ := Tree.located_of_read read
  refine ⟨leftAt.named, ?_, leftAt.left.of_read_eq same⟩
  rw [frame.locate_ok located, frame.locate_ok (leftAt.locate.trans located)]

/-- Blocks were documented one after another, from the first work to the last, with reports in
between. The results are what the blocks gave. -/
inductive Processed (site : Site) : Work → List (Record × Option Path) → Work → Prop where
  | nil (work : Work) : Processed site work [] work
  | block {work next last : Work} {lines : List String} {source : Option Path}
      {result : Record × Option Path} {results : List (Record × Option Path)}
      (done : site.processBlock work lines source = (.ok result, next))
      (rest : Processed site next results last) : Processed site work (result :: results) last
  | report {work last : Work} {entry : LogEntry} {results : List (Record × Option Path)}
      (rest : Processed site (report work entry) results last) : Processed site work results last

namespace Processed

variable {site : Site} {work last : Work} {results : List (Record × Option Path)}

theorem append {middle : Work} {more : List (Record × Option Path)}
    (first : Processed site work results middle) (second : Processed site middle more last) :
    Processed site work (results ++ more) last := by
  induction first with
  | nil => exact second
  | block done _ ih => exact .block done (ih second)
  | report _ ih => exact .report (ih second)

theorem documented (processed : Processed site work results last) :
    Documented site work (results.map (·.1)) (results.filterMap (·.2)) last := by
  induction processed with
  | nil work => exact Documented.nil work
  | @block work next last lines source result results done _ ih =>
    obtain ⟨record, page⟩ := result
    obtain ⟨rfl, _⟩ := processBlock_result done
    have step := (processBlock_ok done).append ih
    cases page with
    | none => exact step
    | some path => exact step
  | report _ ih => exact ⟨ih.glossary, ih.contents, ih.written⟩

/-- Each record has the identifier of its title, and no page name or the one that the identifier
gives. -/
theorem named (processed : Processed site work results last) {record : Record}
    {page : Option Path} (listed : (record, page) ∈ results) :
    record.slug = Directive.slugOf record.title ∧
      (record.filename = "" ∨ record.filename = record.slug ++ Directive.pageSuffix) := by
  induction processed with
  | nil => cases listed
  | block done _ ih =>
    rcases List.mem_cons.1 listed with rfl | later
    · obtain ⟨rfl, _⟩ := processBlock_result done
      refine ⟨Record.slug_ofLines _ _ _ _ _, ?_⟩
      rw [Record.slug_ofLines]
      exact Record.filename_ofLines _ _ _ _ _
    · exact ih later
  | report _ ih => exact ih listed

/-- A page that came back is at the path of its record, which is then not without a name, and the
output directory is there. -/
theorem page_path (processed : Processed site work results last) {record : Record} {path : Path}
    (listed : (record, some path) ∈ results) :
    path = site.pagePath record ∧ record.filename ≠ "" ∧
      ∃ directory, last.tree.locate site.config.outputDirectory = .ok directory ∧
        last.tree.isDirectoryAt directory = true := by
  induction processed with
  | nil => cases listed
  | block done rest ih =>
    rcases List.mem_cons.1 listed with rfl | later
    · rcases addRecord_left (processBlock_result done).2 with
        ⟨none, _⟩ | ⟨isPath, named, _, wrote⟩
      · cases none
      · obtain ⟨directory, located, isDirectory⟩ := wrote.directory
        have frame := rest.documented.written.frame
        exact ⟨isPath path rfl, named, directory, frame.locate_ok located,
          frame.isDirectoryAt isDirectory⟩
    · exact ih later
  | report _ ih => exact ih listed

/-- What a path gives stays, or is in the end what the last block at its place has left. -/
theorem kept_or_left (processed : Processed site work results last) {path : Path} {place : Place}
    (located : work.tree.locate path = .ok place) (there : (work.tree.at? place).isSome) :
    last.tree.read path = work.tree.read path ∨
      ∃ result ∈ results, site.LeftAt last.tree path result := by
  induction processed with
  | nil => exact .inl rfl
  | @block work next last lines source result results done rest ih =>
    have later (frame : Tree.Frame (fun _ => True) work.tree next.tree) :
        last.tree.read path = next.tree.read path ∨
          ∃ other ∈ result :: results, site.LeftAt last.tree path other :=
      (ih (frame.locate_ok located) (frame.isSome there)).imp_right
        fun ⟨other, listed, leftAt⟩ => ⟨other, List.mem_cons_of_mem _ listed, leftAt⟩
    -- This block may have written to the place, and a later one may have done so after it.
    rcases addRecord_left (processBlock_result done).2 with
      ⟨_, unchanged⟩ | ⟨_, named, left, wrote⟩
    · obtain ⟨entry, there⟩ := Option.isSome_iff_exists.1 there
      have same := (unchanged fun _ => False).read_eq located there not_false
      exact (later (unchanged _)).imp_left (·.trans same)
    · rcases wrote.keeps left located there with same | ⟨samePlace, leftHere⟩
      · exact (later wrote.frame).imp_left (·.trans same)
      · refine .inr ((later wrote.frame).elim (fun same => ?_) id)
        exact ⟨result, List.mem_cons_self,
          LeftAt.later ⟨named, samePlace, leftHere⟩ rest.documented.written.frame same⟩
  | report _ ih => exact ih located there

/-- At the path of a page that came back is in the end what the last block at its place has
left. -/
theorem read_page (processed : Processed site work results last) {record : Record} {path : Path}
    (listed : (record, some path) ∈ results) :
    ∃ result ∈ results, site.LeftAt last.tree path result := by
  induction processed with
  | nil => cases listed
  | block done rest ih =>
    rcases List.mem_cons.1 listed with rfl | later
    · rcases addRecord_left (processBlock_result done).2 with
        ⟨none, _⟩ | ⟨isPath, named, left, _⟩
      · cases none
      · obtain rfl := isPath path rfl
        obtain ⟨bytes, read⟩ := left.exists_read
        obtain ⟨place, located, there⟩ := Tree.located_of_read read
        rcases rest.kept_or_left located (by simp [there]) with same | ⟨other, isLater, leftAt⟩
        · exact ⟨_, List.mem_cons_self,
            LeftAt.later ⟨named, rfl, left⟩ rest.documented.written.frame same⟩
        · exact ⟨other, List.mem_cons_of_mem _ isLater, leftAt⟩
    · obtain ⟨other, isListed, leftAt⟩ := ih later
      exact ⟨other, List.mem_cons_of_mem _ isListed, leftAt⟩
  | report _ ih => exact ih listed

end Processed

/-- Whether they are all documented or not, the blocks of a file are processed one by one, and their
pages come back in order. -/
theorem processBlocks_processed (site : Site) (work : Work) (source : Option Path)
    (blocks : List (List String)) :
    ∃ results, Processed site work results (site.processBlocks work source blocks).2 ∧
      ∀ pages, (site.processBlocks work source blocks).1 = .ok pages →
        pages = results.filterMap (·.2) := by
  induction blocks generalizing work with
  | nil =>
    refine ⟨[], .nil work, ?_⟩
    rintro pages ⟨⟩
    rfl
  | cons block rest ih =>
    rw [processBlocks]
    split
    · exact ih work
    · split
      · rename_i error next stopped
        cases processBlock_error stopped
        exact ⟨[], .nil _, by simp⟩
      · rename_i record page next done
        obtain ⟨results, processed, pagesOf⟩ := ih next
        refine ⟨(record, page) :: results, ?_⟩
        split
        · rename_i error final stopped
          rw [stopped] at processed
          exact ⟨.block done processed, by simp⟩
        · rename_i pages final finished
          rw [finished] at processed pagesOf
          refine ⟨.block done processed, ?_⟩
          rintro _ ⟨⟩
          rw [pagesOf pages rfl]
          cases page <;> rfl

/-- A file is documented block by block, or reported, or stops the run before its first block. -/
theorem processFile_processed (site : Site) (work : Work) (path : Path) :
    ∃ results, Processed site work results (site.processFile work path).2 ∧
      ∀ pages, (site.processFile work path).1 = .ok pages →
        pages = results.filterMap (·.2) := by
  unfold processFile
  split
  · exact site.processBlocks_processed work _ _
  · exact ⟨[], .nil work, by simp⟩
  · split
    · exact ⟨[], .nil work, by simp⟩
    · refine ⟨[], .report (.nil _), ?_⟩
      rintro pages ⟨⟩
      rfl

/-- The same of files: those before the one that stops the run have been processed. -/
theorem processFiles_processed (site : Site) (work : Work) (paths : List Path) :
    ∃ results, Processed site work results (site.processFiles work paths).2 ∧
      ∀ pages, (site.processFiles work paths).1 = .ok pages →
        pages = results.filterMap (·.2) := by
  induction paths generalizing work with
  | nil =>
    refine ⟨[], .nil work, ?_⟩
    rintro pages ⟨⟩
    rfl
  | cons path rest ih =>
    obtain ⟨first, here, pagesHere⟩ := site.processFile_processed work path
    rw [processFiles]
    split
    · rename_i error next stopped
      rw [stopped] at here
      exact ⟨first, here, by simp⟩
    · rename_i pages next done
      rw [done] at here pagesHere
      obtain ⟨more, later, pagesLater⟩ := ih next
      refine ⟨first ++ more, ?_⟩
      split
      · rename_i error final stopped
        rw [stopped] at later
        exact ⟨here.append later, by simp⟩
      · rename_i others final finished
        rw [finished] at later pagesLater
        refine ⟨here.append later, ?_⟩
        rintro _ ⟨⟩
        rw [pagesHere pages rfl, pagesLater others rfl, List.filterMap_append]

/-- How a run ended that had come to `middle`: the index was written or refused and `index` came
back, or nothing came back because the run stopped there or before. -/
inductive Closed (site : Site) (middle : Work) :
    Except RunError (List Path) × Work → Option Path → Prop where
  | indexed {index : Option Path} {written : List Path} {after : Work}
      (done : site.writeIndex middle = (.ok index, after)) :
      Closed site middle (.ok written, after) index
  | stopped {error : RunError} {after : Work}
      (done : site.writeIndex middle = (.error error, after)) :
      Closed site middle (.error error, after) none
  | notReached (error : RunError) : Closed site middle (.error error, middle) none

/-- How a run went, whether it returned or not: what its blocks gave, and the path of the index if
that was written. -/
structure Course (site : Site) (work : Work) (root : Path) (results : List (Record × Option Path))
    (index : Option Path) : Prop where
  stages : ∃ middle, Processed site (site.loadGlossary { work with contents := [] }).2 results
    middle ∧ Closed site middle (site.run work root) index
  returned : ∀ written, (site.run work root).1 = .ok written →
    written = results.filterMap (·.2) ++ index.toList

/-- A run that has found its sources documents them and comes to its index, unless it stops on the
way. -/
theorem exists_course_of_sources {site : Site} {work loaded : Work} {root : Path}
    {failed sources : List Path}
    (loading : site.loadGlossary { work with contents := [] } = (.ok failed, loaded))
    (found : Discovery.sources loaded.tree site.config.extensions site.config.exclude root =
      .ok sources) :
    ∃ results index, site.Course work root results index := by
  obtain ⟨results, processed, pagesOf⟩ := site.processFiles_processed loaded sources
  have start : (site.loadGlossary { work with contents := [] }).2 = loaded := by rw [loading]
  cases documented : site.processFiles loaded sources with
  | mk outcome middle =>
    rw [documented] at processed pagesOf
    cases outcome with
    | error error =>
      have ran : site.run work root = (.error error, middle) := by
        rw [run, loading]
        simp only [found, documented]
      exact ⟨results, none, ⟨middle, start ▸ processed, ran ▸ .notReached error⟩, by simp [ran]⟩
    | ok pages =>
      cases indexed : site.writeIndex middle with
      | mk outcome after =>
        cases outcome with
        | error error =>
          have ran : site.run work root = (.error error, after) := by
            rw [run, loading]
            simp only [found, documented, indexed]
          refine ⟨results, none, ⟨middle, start ▸ processed, ?_⟩, by simp [ran]⟩
          rw [ran]
          exact .stopped indexed
        | ok index =>
          have ran : site.run work root = (.ok (pages ++ index.toList), after) := by
            rw [run, loading]
            simp only [found, documented, indexed]
          refine ⟨results, index, ⟨middle, start ▸ processed, ?_⟩, ?_⟩
          · rw [ran]
            exact .indexed indexed
          · rw [ran]
            rintro _ ⟨⟩
            rw [pagesOf pages rfl]

/-- Every run has a course; one that stops before its sources are found has no blocks. -/
theorem exists_course (site : Site) (work : Work) (root : Path) :
    ∃ results index, site.Course work root results index := by
  cases loading : site.loadGlossary { work with contents := [] } with
  | mk outcome loaded =>
    have early (error : RunError) (ran : site.run work root = (.error error, loaded)) :
        ∃ results index, site.Course work root results index := by
      refine ⟨[], none, ⟨loaded, ?_, ran ▸ .notReached error⟩, by simp [ran]⟩
      rw [loading]
      exact .nil loaded
    cases outcome with
    | error error =>
      apply early error
      rw [run, loading]
    | ok failed =>
      cases found : Discovery.sources loaded.tree site.config.extensions site.config.exclude
          root with
      | error error =>
        apply early (.root error)
        rw [run, loading]
        simp only [found]
      | ok sources => exact exists_course_of_sources loading found

/-- The last step changes no file, or leaves the index of the contents, or no byte of it, at its
path; a run that returns has written it then. -/
theorem Closed.outcome {site : Site} {middle : Work} {result : Except RunError (List Path) × Work}
    {index : Option Path} (closed : Closed site middle result index) :
    result.2.glossary = middle.glossary ∧ result.2.contents = middle.contents ∧
      ((index = none ∧ ∀ written, Tree.Frame written middle.tree result.2.tree) ∨
        (∀ path ∈ index, path = site.config.indexPath) ∧
          (∀ written, result.1 = .ok written → index = some site.config.indexPath) ∧
          Page.Left result.2.tree site.config.indexPath (site.indexPage result.2.contents) index ∧
          Page.Wrote middle.tree result.2.tree site.config.indexPath.parent
            site.config.indexPath) := by
  cases closed with
  | indexed done =>
    obtain ⟨sameGlossary, sameContents, ⟨wrote, rfl⟩ | ⟨_, none, unchanged⟩⟩ := writeIndex_ok done
    · obtain ⟨_, stored, wrote⟩ := Page.writeInto_ok wrote
      refine ⟨sameGlossary, sameContents, .inr ⟨by simp, fun _ _ => rfl, ?_, wrote⟩⟩
      rw [sameContents]
      exact stored
    · exact ⟨sameGlossary, sameContents, .inl ⟨none, unchanged⟩⟩
  | stopped done =>
    unfold writeIndex at done
    split at done
    · cases done
    · rename_i error tree refused
      split at done
      · cases done
        refine ⟨rfl, rfl, ?_⟩
        refine (Page.writeInto_error refused).imp (fun unchanged => ⟨rfl, unchanged⟩) ?_
        rintro ⟨text, fault, isText, failed, _, emptied, wrote⟩
        exact ⟨by simp, by simp, ⟨⟨text, fault, isText, failed⟩, emptied⟩, wrote⟩
      · cases done
  | notReached error => exact ⟨rfl, rfl, .inl ⟨rfl, fun written => Tree.Frame.refl written _⟩⟩

theorem Closed.frame {site : Site} {middle : Work} {result : Except RunError (List Path) × Work}
    {index : Option Path} (closed : Closed site middle result index) :
    Tree.Frame (fun _ => True) middle.tree result.2.tree := by
  obtain ⟨_, _, ⟨_, unchanged⟩ | ⟨_, _, _, wrote⟩⟩ := closed.outcome
  · exact unchanged _
  · exact wrote.frame

namespace Course

variable {site : Site} {work : Work} {root : Path} {results : List (Record × Option Path)}
  {index : Option Path}

theorem contents (course : site.Course work root results index) :
    (site.run work root).2.contents = results.map (·.1) := by
  obtain ⟨middle, processed, closed⟩ := course.stages
  have start : (site.loadGlossary { work with contents := [] }).2.contents = [] := by
    unfold loadGlossary
    split <;> rfl
  rw [closed.outcome.2.1, processed.documented.contents, start, List.nil_append]

/-- Where one record and two paths came back, its page was written and then the index. -/
theorem eq_of_two_paths (course : site.Course work root results index) {page indexPath : Path}
    (returned : (site.run work root).1 = .ok [page, indexPath])
    (single : (site.run work root).2.contents.length = 1) :
    ∃ record, results = [(record, some page)] ∧ index = some indexPath := by
  rw [course.contents, List.length_map] at single
  obtain ⟨⟨record, written⟩, rfl⟩ := List.length_eq_one_iff.1 single
  have paths := course.returned _ returned
  cases written with
  | none => cases index <;> simp at paths
  | some path =>
    cases index with
    | none => simp at paths
    | some last =>
      obtain ⟨rfl, rfl⟩ : page = path ∧ indexPath = last := by simpa using paths
      exact ⟨record, rfl, rfl⟩

theorem read_index (course : site.Course work root results index) {path : Path}
    (written : path ∈ index) :
    path = site.config.indexPath ∧
      Page.Stored (site.run work root).2.tree path
        (site.indexPage (site.run work root).2.contents) := by
  obtain ⟨middle, _, closed⟩ := course.stages
  obtain ⟨_, _, ⟨none, _⟩ | ⟨isPath, _, left, _⟩⟩ := closed.outcome
  · simp [none] at written
  · obtain rfl := isPath path written
    rw [Option.mem_def.1 written] at left
    exact ⟨rfl, left⟩

theorem named (course : site.Course work root results index) {record : Record}
    {page : Option Path} (listed : (record, page) ∈ results) :
    record.slug = Directive.slugOf record.title ∧
      (record.filename = "" ∨ record.filename = record.slug ++ Directive.pageSuffix) := by
  obtain ⟨middle, processed, _⟩ := course.stages
  exact processed.named listed

theorem page_path (course : site.Course work root results index) {record : Record} {path : Path}
    (listed : (record, some path) ∈ results) :
    path = site.pagePath record ∧ record.filename ≠ "" ∧
      ∃ directory, (site.run work root).2.tree.locate site.config.outputDirectory =
          .ok directory ∧
        (site.run work root).2.tree.isDirectoryAt directory = true := by
  obtain ⟨middle, processed, closed⟩ := course.stages
  obtain ⟨isPath, named, directory, located, isDirectory⟩ := processed.page_path listed
  exact ⟨isPath, named, directory, closed.frame.locate_ok located,
    closed.frame.isDirectoryAt isDirectory⟩

/-- When the run has ended, the path of a page that came back leads to what the index has left, if
that went to the same place, or to what the last block at its place has left. -/
theorem read_page (course : site.Course work root results index) {record : Record} {path : Path}
    (listed : (record, some path) ∈ results) :
    ((∀ written, (site.run work root).1 = .ok written → index = some site.config.indexPath) ∧
      (site.run work root).2.tree.locate site.config.indexPath =
        (site.run work root).2.tree.locate path ∧
      Page.Left (site.run work root).2.tree path
        (site.indexPage (site.run work root).2.contents) index) ∨
      ∃ result ∈ results, site.LeftAt (site.run work root).2.tree path result := by
  obtain ⟨middle, processed, closed⟩ := course.stages
  obtain ⟨result, isListed, leftAt⟩ := processed.read_page listed
  obtain ⟨bytes, read⟩ := leftAt.left.exists_read
  obtain ⟨place, located, there⟩ := Tree.located_of_read read
  have stays (same : (site.run work root).2.tree.read path = middle.tree.read path) :
      ∃ result ∈ results, site.LeftAt (site.run work root).2.tree path result :=
    ⟨result, isListed, leftAt.later closed.frame same⟩
  obtain ⟨_, _, ⟨_, unchanged⟩ | ⟨_, isWritten, left, wrote⟩⟩ := closed.outcome
  · exact .inr (stays ((unchanged fun _ => False).read_eq located there not_false))
  · exact (wrote.keeps left located (by simp [there])).symm.imp (.intro isWritten) stays

/-- The path of a page that came back leads somewhere when the run has ended. -/
theorem page_located (course : site.Course work root results index) {record : Record}
    {path : Path} (listed : (record, some path) ∈ results) :
    ∃ place, (site.run work root).2.tree.locate path = .ok place := by
  have opened : ∃ bytes, (site.run work root).2.tree.read path = .ok bytes := by
    rcases course.read_page listed with ⟨_, _, left⟩ | ⟨_, _, leftAt⟩
    · exact left.exists_read
    · exact leftAt.left.exists_read
  obtain ⟨bytes, read⟩ := opened
  obtain ⟨place, located, _⟩ := Tree.located_of_read read
  exact ⟨place, located⟩

end Course

end Site

end EndpointDocs
