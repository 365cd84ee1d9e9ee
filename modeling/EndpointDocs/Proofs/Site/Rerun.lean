import EndpointDocs.Proofs.Glossary.Replay
import EndpointDocs.Proofs.Site.Course
import EndpointDocs.Proofs.Source.Ordered

/-!
Building a site twice. A second run starts with the glossary that the first has left, and loads the
same sources into it once more. If the documented sources are the same too, it gives the same
records in the same order, and the same index at the same moment.
-/
namespace EndpointDocs.Site

/-- The records of a file depend on its bytes, and on what the glossary says. -/
theorem recordsOfFile_eq_of_agrees (site : Site) {first second : Glossary}
    (agrees : second.Agrees first) {old new : Tree} {path : Path}
    (same : (new.read path).toOption = (old.read path).toOption) :
    site.recordsOfFile second new path = site.recordsOfFile first old path := by
  unfold recordsOfFile Block.ofFile
  simp only [Record.ofLines_eq_of_agrees agrees]
  cases readOld : old.read path with
  | error error =>
    cases readNew : new.read path with
    | error other => rfl
    | ok bytes =>
      rw [readOld, readNew] at same
      cases same
  | ok bytes =>
    cases readNew : new.read path with
    | error error =>
      rw [readOld, readNew] at same
      cases same
    | ok other =>
      rw [readOld, readNew] at same
      cases same
      rfl

/-- Two runs of one site, the second with the glossary that the first has left. The documented
sources and the sources of the glossary are the same at the start of both, whatever else has changed
in between, and no page is written over a documented source. Then the second run leaves the same
contents, and a glossary that says the same about every word. If both write the index at the same
moment, the two are the same to the byte. -/
theorem rerun_stable (site : Site) (later : Moment) (work after again last : Work) (root : Path)
    (sources sourcesAgain written rewritten : List Path) (proper : work.tree.Proper)
    (properAgain : again.tree.Proper)
    (first : site.run work root = (.ok written, after))
    (kept : again.glossary = after.glossary)
    (second : ({ site with now := later } : Site).run again root = (.ok rewritten, last))
    (found : Discovery.sources work.tree site.config.extensions site.config.exclude root =
      .ok sources)
    (foundAgain : Discovery.sources again.tree site.config.extensions site.config.exclude root =
      .ok sourcesAgain)
    (sameSources : ∀ path, path ∈ sourcesAgain ↔ path ∈ sources)
    (sameBytes : ∀ path ∈ sources ++ site.config.glossary,
      (again.tree.read path).toOption = (work.tree.read path).toOption)
    (spared : site.SparesSources after written sources)
    (sparedAgain : ({ site with now := later } : Site).SparesSources last rewritten sources) :
    last.contents = after.contents ∧
    (∀ word, last.glossary.define word = after.glossary.define word) ∧
    (∀ word, last.glossary.isTerm word = after.glossary.isTerm word) ∧
    ∀ results index resultsAgain indexAgain, site.Course work root results index →
      ({ site with now := later } : Site).Course again root resultsAgain indexAgain →
      index.isSome → indexAgain.isSome → later = site.now →
      ∃ bytes, after.tree.read site.config.indexPath = .ok bytes ∧
        last.tree.read site.config.indexPath = .ok bytes := by
  cases Discovery.sources_eq_of_mem_iff proper.distinct properAgain.distinct found foundAgain
    sameSources
  obtain ⟨glossary, contents, _⟩ := run_documented first proper.toWellFormed found spared
  obtain ⟨glossaryAgain, contentsAgain, _⟩ :=
    run_documented second properAgain.toWellFormed foundAgain sparedAgain
  -- Loading the same sources into what they have left changes no definition.
  have agrees : last.glossary.Agrees after.glossary := by
    rw [glossaryAgain, kept, glossary]
    exact Glossary.loadAll_again_agrees _ fun path listed =>
      sameBytes path (List.mem_append_right _ listed)
  have sameContents : last.contents = after.contents := by
    rw [contents, contentsAgain]
    exact List.flatMap_congr fun path listed =>
      site.recordsOfFile_eq_of_agrees agrees (sameBytes path (List.mem_append_left _ listed))
  refine ⟨sameContents, agrees.define, agrees.isTerm, ?_⟩
  rintro results index resultsAgain indexAgain course courseAgain isWritten isWrittenAgain rfl
  obtain ⟨path, rfl⟩ := Option.isSome_iff_exists.1 isWritten
  obtain ⟨pathAgain, rfl⟩ := Option.isSome_iff_exists.1 isWrittenAgain
  obtain ⟨rfl, text, isText, read⟩ := course.read_index rfl
  obtain ⟨rfl, textAgain, isTextAgain, readAgain⟩ := courseAgain.read_index rfl
  rw [first] at isText read
  rw [second] at isTextAgain readAgain
  rw [sameContents] at isTextAgain
  cases Wide.ofString_inj.1 (Except.ok.inj (isText.symm.trans isTextAgain))
  exact ⟨_, read, readAgain⟩

def termsSite : Site :=
  plainSite { glossary := [⟨.here, ["terms.csv"]⟩] }

/-- A glossary that defines two spellings of a word and then ends inside a character, so that its
loading fails when both have been added. -/
def termsBytes : List UInt8 :=
  Text.Utf8.encode "ID,a number\nid,a name\n".toList ++ [0xc3]

def termsSource : List UInt8 :=
  Text.Utf8.encode "# wsdoc \x7b\n# @title Get\n# @url /v1/:Id\n# wsdoc \x7d\n".toList

def termsTree : Tree where
  workingDirectory := []
  entries := [(["terms.csv"], .file termsBytes), (["src"], .directory),
    (["src", "a.py"], .file termsSource)]

/-- The files before the second run: listed in another order, and with a page that has changed. -/
def termsTreeAgain : Tree where
  workingDirectory := []
  entries := [(["doc"], .directory), (["doc", "get.html"], .file []), (["src"], .directory),
    (["src", "a.py"], .file termsSource), (["terms.csv"], .file termsBytes)]

def termsGlossary : Glossary :=
  Glossary.empty.addAll [("ID", "a number"), ("id", "a name")]

def termsWork : Work :=
  ⟨Glossary.empty, [], termsTree, []⟩

/-- The start of the second run, with the glossary of the first and contents left over. -/
def termsWorkAgain : Work :=
  ⟨termsGlossary, [{ source := none }], termsTreeAgain, []⟩

def termsLog : Log :=
  [.error ("Error loading glossary terms.csv: 'utf-8' codec can't decode byte 0xc3 " ++
    "in position 0: unexpected end of data")]

def termsSources : List Path :=
  [⟨.here, ["src", "a.py"]⟩]

def termsLines : List String :=
  ["# @title Get", "# @url /v1/:Id"]

def termsRecord : Record :=
  Record.ofLines termsGlossary Registry.empty "#" termsLines (some ⟨.here, ["src", "a.py"]⟩)

def termsPages : List Path :=
  [⟨.here, ["doc", "get.html"]⟩, ⟨.here, ["doc", "docs.html"]⟩]

def termsAfter (tree : Tree) : Work where
  glossary := termsGlossary
  contents := [termsRecord]
  tree := (termsSite.writtenIndex "1.0" (termsSite.writtenPage tree termsRecord).2
    [termsRecord]).2
  log := termsLog

theorem run_terms {work : Work}
    (loading : termsSite.loadGlossary { work with contents := [] } =
      (.ok termsSite.config.glossary, ⟨termsGlossary, [], work.tree, termsLog⟩))
    (found : Discovery.sources work.tree termsSite.config.extensions termsSite.config.exclude
      ⟨.here, ["src"]⟩ = .ok termsSources)
    (scanned : Block.ofFile work.tree termsSite.config.sentinels ⟨.here, ["src", "a.py"]⟩ =
      .ok [termsLines])
    (pageDone : (termsSite.writtenPage work.tree termsRecord).1 =
      .ok (termsSite.pagePath termsRecord))
    (indexDone : (termsSite.writtenIndex "1.0" (termsSite.writtenPage work.tree termsRecord).2
      [termsRecord]).1 = .ok termsSite.config.indexPath) :
    termsSite.run work ⟨.here, ["src"]⟩ =
      (.ok [termsSite.pagePath termsRecord, termsSite.config.indexPath],
        termsAfter work.tree) := by
  have processed := processFiles_of_block termsSite ⟨termsGlossary, [], work.tree, termsLog⟩
    ⟨.here, ["src", "a.py"]⟩ termsLines termsRecord rfl (by decide) scanned (by decide)
    (by decide) rfl pageDone
  exact run_of_processFiles termsSite work rfl rfl loading found processed indexDone

theorem termsSite_rerun_stable :
    ∃ after last, termsSite.run termsWork ⟨.here, ["src"]⟩ = (.ok termsPages, after) ∧
      termsWorkAgain.glossary = after.glossary ∧
      termsSite.run termsWorkAgain ⟨.here, ["src"]⟩ = (.ok termsPages, last) ∧
      after.contents.map (·.title) = ["Get"] ∧ last.contents = after.contents ∧
      last.glossary.define "Id" = after.glossary.define "Id" ∧
      ∃ bytes, after.tree.read termsSite.config.indexPath = .ok bytes ∧
        last.tree.read termsSite.config.indexPath = .ok bytes := by
  have found : Discovery.sources termsWork.tree termsSite.config.extensions
      termsSite.config.exclude ⟨.here, ["src"]⟩ = .ok termsSources :=
    Discovery.sources_of_sorted ["src"] [["a.py"]] (by decide) (by decide) (by decide)
      (by decide) (by decide)
  have foundAgain : Discovery.sources termsWorkAgain.tree termsSite.config.extensions
      termsSite.config.exclude ⟨.here, ["src"]⟩ = .ok termsSources :=
    Discovery.sources_of_sorted ["src"] [["a.py"]] (by decide) (by decide) (by decide)
      (by decide) (by decide)
  have paths : [termsSite.pagePath termsRecord, termsSite.config.indexPath] = termsPages := by
    decide
  have first := run_terms (by decide +kernel) found (by decide +kernel) (by decide +kernel)
    (by decide)
  have second := run_terms (by decide +kernel) foundAgain (by decide +kernel) (by decide +kernel)
    (by decide)
  rw [paths] at first second
  have spared : ∀ tree ∈ [termsTree, termsTreeAgain], termsSite.SparesSources (termsAfter tree)
      termsPages termsSources := by
    intro tree either
    refine ⟨?_, fun record _ fails => absurd fails (not_unencodable_page rfl record)⟩
    revert tree
    decide
  have proper : termsWork.tree.Proper := ⟨⟨by decide, by decide⟩, by decide⟩
  have properAgain : termsWorkAgain.tree.Proper := ⟨⟨by decide, by decide⟩, by decide⟩
  have sameBytes : ∀ path ∈ termsSources ++ termsSite.config.glossary,
      (termsWorkAgain.tree.read path).toOption = (termsWork.tree.read path).toOption := by
    decide
  have stable := rerun_stable termsSite termsSite.now termsWork _ termsWorkAgain _
    ⟨.here, ["src"]⟩ termsSources termsSources termsPages termsPages proper properAgain first
    rfl second found foundAgain (fun _ => Iff.rfl) sameBytes (spared _ (by simp [termsWork]))
    (spared _ (by simp [termsWorkAgain]))
  obtain ⟨results, index, course⟩ := termsSite.exists_course termsWork ⟨.here, ["src"]⟩
  obtain ⟨resultsAgain, indexAgain, courseAgain⟩ :=
    termsSite.exists_course termsWorkAgain ⟨.here, ["src"]⟩
  obtain ⟨_, _, isWritten⟩ :=
    course.eq_of_two_paths (congrArg Prod.fst first) (by rw [first]; rfl)
  obtain ⟨_, _, isWrittenAgain⟩ :=
    courseAgain.eq_of_two_paths (congrArg Prod.fst second) (by rw [second]; rfl)
  have index := stable.2.2.2 _ _ _ _ course courseAgain (by rw [isWritten]; rfl)
    (by rw [isWrittenAgain]; rfl) rfl
  exact ⟨_, _, first, rfl, second, by decide, stable.1, stable.2.1 "Id", index⟩

end EndpointDocs.Site
