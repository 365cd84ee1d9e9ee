import EndpointDocs.Proofs.Config.Texts
import EndpointDocs.Proofs.Glossary.Loading
import EndpointDocs.Proofs.Site.Run

/-!
Which runs return. Each stage reports what fails and goes on, except for what the system is not even
asked: loading the glossary and writing the index stop at a path with a NUL character or one that
cannot be encoded, writing the index stops if its page cannot be encoded, and the search for sources
stops at a path with too many bytes. Nothing else stops a run over a directory.
-/
namespace EndpointDocs

namespace Tree

/-- No listed place has a name that is refused, as in every tree on a disk. -/
def Namable (tree : Tree) : Prop :=
  ∀ listed ∈ tree.entries, (⟨.here, listed.1⟩ : Path).refusal? = none

end Tree

namespace Discovery

/-- Below a directory the sources are found unless a path is too long. -/
theorem sources_outcome {tree : Tree} {root : Path} (namable : tree.Namable)
    (isDirectory : tree.isDirectory? root = .ok true) (suffixes exclude : List Wide) :
    (∀ path, tree.Below root path → path.isTooLong = false) ∧
        (∃ sources, Discovery.sources tree suffixes exclude root = .ok sources ∧
          ∀ source ∈ sources, source.refusal? = none) ∨
      ∃ path, tree.Below root path ∧ path.isTooLong = true ∧
        Discovery.sources tree suffixes exclude root =
          .error (.file (.refused .nameTooLong path)) := by
  have rootClean := Tree.refusal?_of_isDirectory? isDirectory
  obtain ⟨place, located⟩ : ∃ place, tree.locate root = .ok place := by
    unfold Tree.isDirectory? at isDirectory
    cases located : tree.locate root with
    | ok place => exact ⟨place, rfl⟩
    | error fault => cases fault <;> simp [rootClean, located] at isDirectory
  unfold Discovery.sources
  simp only [isDirectory, located]
  cases found : tooLong? tree root place with
  | some path =>
    obtain ⟨isBelow, tooLong⟩ := tooLong?_eq_some located found
    exact .inr ⟨path, isBelow, tooLong, rfl⟩
  | none =>
    refine .inl ⟨fun path => tooLong?_eq_none located found, _, rfl, ?_⟩
    intro source listed
    obtain ⟨names, isBelow, rfl⟩ := List.mem_map.1 listed
    obtain ⟨bytes, isListed, _⟩ := listed_of_mem_below isBelow
    have namesClean := namable _ isListed
    rw [Path.refusal?_eq_none_iff] at rootClean namesClean ⊢
    exact List.forall_mem_append.2 ⟨rootClean, (List.forall_mem_append.1 namesClean).2⟩

end Discovery

/-- With a marker, a file whose path is not refused is scanned, or fails for something to report. -/
theorem Block.ofFile_outcome (tree : Tree) {sentinels : Sentinels} {path : Path}
    (marker : sentinels.marker ≠ []) (clean : path.refusal? = none) :
    (∃ blocks, ofFile tree sentinels path = .ok blocks) ∨
      ∃ error, ofFile tree sentinels path = .error error ∧ error ≠ .emptyMarker ∧
        error.refusal? = none := by
  have notEmpty : sentinels.marker.isEmpty = false := by simpa using marker
  unfold ofFile
  cases read : tree.read path with
  | error error => exact .inr ⟨_, rfl, by simp, (Tree.refusal?_of_read read).trans clean⟩
  | ok bytes =>
    simp only [ofBytes, linesOfBytes]
    cases Text.Utf8.decode bytes with
    | error fault => exact .inr ⟨_, rfl, by simp, rfl⟩
    | ok text => simp [extractChecked, notEmpty]

namespace Page

variable {tree : Tree} {directory path : Path} {page : Except TemplateError Wide}

/-- The text of a page cannot be encoded, and this is the complaint. -/
def Faulty (page : Except TemplateError Wide) (refusal : FileError) : Prop :=
  ∃ text fault, page = .ok text ∧ Text.Utf8.encodeWide text = .error fault ∧
    refusal = .unencodable fault

theorem Faulty.unencodable {refusal : FileError} (faulty : Faulty page refusal) :
    Unencodable page := by
  obtain ⟨text, fault, isText, failed, _⟩ := faulty
  exact ⟨text, fault, isText, failed⟩

theorem refusal?_of_writeInto_ok {written : Path}
    (done : (writeInto tree directory path page).1 = .ok written) : directory.refusal? = none := by
  unfold writeInto at done
  split at done
  · cases done
  · rename_i made
    exact Tree.refusal?_of_createDirectories_ok made

/-- What is refused where a page is to be written: its directory, its path or its text. -/
theorem refusal?_of_writeInto_error {error : WriteError}
    (failed : (writeInto tree directory path page).1 = .error error) :
    error.refusal? = directory.refusal? ∨
      directory.refusal? = none ∧ (error.refusal? = path.refusal? ∨
        ∃ refusal, error.refusal? = some refusal ∧ Faulty page refusal) := by
  unfold writeInto at failed
  split at failed
  · rename_i made
    cases failed
    exact .inl (Tree.refusal?_of_createDirectories (congrArg Prod.fst made))
  · rename_i made
    have clean := Tree.refusal?_of_createDirectories_ok made
    split at failed
    · cases failed
      exact .inl clean.symm
    · refine .inr ⟨clean, ?_⟩
      split at failed
      · split at failed
        · rename_i unwritten
          cases failed
          exact .inl (Tree.refusal?_of_write unwritten)
        · cases failed
      · rename_i fault unencodable
        split at failed
        · rename_i unwritten
          cases failed
          exact .inl (Tree.refusal?_of_write unwritten)
        · cases failed
          exact .inr ⟨_, rfl, _, fault, rfl, unencodable, rfl⟩

/-- A page that cannot be encoded is refused where it could be written. -/
theorem writeInto_of_faulty {refusal : FileError} (faulty : Faulty page refusal)
    (made : (tree.createDirectories directory).1 = none)
    (opened : ((tree.createDirectories directory).2.write path []).isOk = true) :
    (writeInto tree directory path page).1 = .error (.file refusal) := by
  obtain ⟨text, fault, rfl, unencodable, rfl⟩ := faulty
  cases prepare : tree.createDirectories directory with
  | mk failure prepared =>
    rw [prepare] at made opened
    cases made
    simp only [writeInto, prepare, unencodable]
    cases emptied : prepared.write path [] with
    | error error =>
      rw [emptied] at opened
      cases opened
    | ok last => rfl

end Page

namespace Site

variable {site : Site}

/-- No block stops a run that has a marker. -/
theorem processBlocks_returns (marker : site.config.sentinels.marker ≠ []) (work : Work)
    (source : Option Path) (blocks : List (List String)) :
    ∃ pages after, site.processBlocks work source blocks = (.ok pages, after) := by
  induction blocks generalizing work with
  | nil => exact ⟨[], work, rfl⟩
  | cons block rest ih =>
    rw [processBlocks]
    split
    · exact ih work
    · obtain ⟨pages, after, later⟩ := ih (site.addRecord work (Record.ofLines work.glossary
        site.registry site.config.sentinels.marker block source)).2
      simp only [processBlock_of_marker marker, later]
      exact ⟨_, _, rfl⟩

/-- A file whose path is not refused is documented or reported. -/
theorem processFile_returns (marker : site.config.sentinels.marker ≠ []) (work : Work) {path : Path}
    (clean : path.refusal? = none) :
    ∃ pages after, site.processFile work path = (.ok pages, after) := by
  unfold processFile
  rcases Block.ofFile_outcome work.tree marker clean with
    ⟨blocks, done⟩ | ⟨error, failed, hasMarker, reported⟩
  · simp only [done]
    exact processBlocks_returns marker work _ _
  · split
    · exact processBlocks_returns marker work _ _
    · rename_i refused
      cases failed.symm.trans refused
      exact absurd rfl hasMarker
    · rename_i refused
      cases failed.symm.trans refused
      rw [reported]
      exact ⟨_, _, rfl⟩

theorem processFiles_returns (marker : site.config.sentinels.marker ≠ []) (work : Work)
    (paths : List Path) (clean : ∀ path ∈ paths, path.refusal? = none) :
    ∃ pages after, site.processFiles work paths = (.ok pages, after) := by
  induction paths generalizing work with
  | nil => exact ⟨[], work, rfl⟩
  | cons path rest ih =>
    obtain ⟨here, others⟩ := List.forall_mem_cons.1 clean
    obtain ⟨pages, middle, first⟩ := processFile_returns marker work here
    obtain ⟨more, after, later⟩ := ih middle others
    rw [processFiles]
    simp only [first, later]
    exact ⟨_, _, rfl⟩

/-- Loading the glossary fails for good only at a path that is refused. -/
theorem loadGlossary_outcome (site : Site) (work : Work) :
    (site.config.glossary.findSome? Path.refusal? = none ∧
        ∃ failed after, site.loadGlossary work = (.ok failed, after) ∧ after.tree = work.tree) ∨
      ∃ refusal after, site.config.glossary.findSome? Path.refusal? = some refusal ∧
        site.loadGlossary work = (.error (.file refusal), after) := by
  unfold loadGlossary
  cases loaded : work.glossary.loadAll work.tree site.config.glossary with
  | mk glossary outcome =>
    obtain ⟨log, outcome⟩ := outcome
    have stage := work.glossary.loadAll_outcome work.tree site.config.glossary
    rw [loaded] at stage
    rcases stage with ⟨clean, failed, rfl⟩ | ⟨refusal, refused, rfl⟩
    · exact .inl ⟨clean, failed, _, rfl, rfl⟩
    · exact .inr ⟨refusal, _, refused, rfl⟩

/-- What stops the index of these contents: its directory, its path or its page is refused. -/
def IndexRefused (site : Site) (contents : List Record) (refusal : FileError) : Prop :=
  site.config.indexPath.parent.refusal? = some refusal ∨
    site.config.indexPath.refusal? = some refusal ∨ Page.Faulty (site.indexPage contents) refusal

/-- Writing the index fails for good only if its path is refused or its page cannot be encoded. -/
theorem writeIndex_outcome (site : Site) (work : Work) :
    (site.config.indexPath.parent.refusal? = none ∧
        ∃ index after, site.writeIndex work = (.ok index, after)) ∨
      ∃ refusal after, site.IndexRefused work.contents refusal ∧
        after.contents = work.contents ∧
        site.writeIndex work = (.error (.file refusal), after) := by
  unfold writeIndex
  split
  · rename_i path tree wrote
    exact .inl ⟨Page.refusal?_of_writeInto_ok (congrArg Prod.fst wrote), _, _, rfl⟩
  · rename_i error tree failed
    have cause := Page.refusal?_of_writeInto_error (congrArg Prod.fst failed)
    cases refused : error.refusal? with
    | none =>
      rw [refused] at cause
      refine .inl ⟨?_, _, _, rfl⟩
      exact cause.elim Eq.symm And.left
    | some refusal =>
      rw [refused] at cause
      refine .inr ⟨refusal, { work with tree }, ?_, rfl, rfl⟩
      rcases cause with directory | ⟨_, path | ⟨_, ⟨rfl⟩, faulty⟩⟩
      · exact .inl directory.symm
      · exact .inr (.inl path.symm)
      · exact .inr (.inr faulty)

theorem writeIndex_of_refused {work : Work} {error : Page.WriteError} {refusal : FileError}
    (failed : (Page.writeIndex work.tree site.indexLayout site.config.indexPath
      site.config.version site.now work.contents).1 = .error error)
    (refused : error.refusal? = some refusal) :
    (site.writeIndex work).1 = .error (.file refusal) := by
  unfold writeIndex
  split
  · rename_i written
    cases (congrArg Prod.fst written).symm.trans failed
  · rename_i unwritten
    cases (congrArg Prod.fst unwritten).symm.trans failed
    rw [refused]

/-- A run that has come to its index stops if that does. -/
theorem run_of_writeIndex_error {work loaded middle : Work} {root : Path}
    {failed sources pages : List Path} {error : RunError}
    (loading : site.loadGlossary { work with contents := [] } = (.ok failed, loaded))
    (found : Discovery.sources loaded.tree site.config.extensions site.config.exclude root =
      .ok sources)
    (processed : site.processFiles loaded sources = (.ok pages, middle))
    (stopped : (site.writeIndex middle).1 = .error error) :
    (site.run work root).1 = .error error := by
  rw [run, loading]
  simp only [found, processed]
  split
  · rename_i indexed
    rw [indexed] at stopped
    cases stopped
    rfl
  · rename_i indexed
    rw [indexed] at stopped
    cases stopped

theorem config_of_ofRegistry {tree : Tree} {config : Config} {registry : Registry} {look : Look}
    {now : Moment} (built : ofRegistry tree config registry look now = .ok site) :
    site.config = config := by
  unfold ofRegistry at built
  split at built
  · split at built
    · cases built
    · split at built
      · cases built
      · cases built
        rfl
  · cases built

/-- A run over a directory stops only for a refusal: of a path of the glossary, of what the index
needs, or of a path below the directory with too many bytes. -/
theorem run_outcome (marker : site.config.sentinels.marker ≠ []) (work : Work) {root : Path}
    (namable : work.tree.Namable) (isDirectory : work.tree.isDirectory? root = .ok true) :
    (∃ refusal, site.config.glossary.findSome? Path.refusal? = some refusal ∧
        (site.run work root).1 = .error (.file refusal)) ∨
      site.config.glossary.findSome? Path.refusal? = none ∧
        ((∃ path, work.tree.Below root path ∧ path.isTooLong = true ∧
            (site.run work root).1 = .error (.root (.file (.refused .nameTooLong path)))) ∨
          (∀ path, work.tree.Below root path → path.isTooLong = false) ∧
            ((∃ refusal, site.IndexRefused (site.run work root).2.contents refusal ∧
                (site.run work root).1 = .error (.file refusal)) ∨
              site.config.indexPath.parent.refusal? = none ∧
                ∃ written, (site.run work root).1 = .ok written)) := by
  unfold run
  rcases site.loadGlossary_outcome { work with contents := [] } with
    ⟨clean, failed, loaded, loading, sameTree⟩ | ⟨refusal, after, refused, stopped⟩
  · refine .inr ⟨clean, ?_⟩
    simp only [loading]
    rw [sameTree]
    rcases Discovery.sources_outcome namable isDirectory site.config.extensions
        site.config.exclude with
      ⟨short, sources, found, sourcesClean⟩ | ⟨path, isBelow, long, stopped⟩
    · refine .inr ⟨short, ?_⟩
      obtain ⟨pages, middle, documented⟩ := processFiles_returns marker loaded sources sourcesClean
      simp only [found, documented]
      rcases site.writeIndex_outcome middle with
        ⟨indexClean, index, after, indexed⟩ | ⟨refusal, after, refused, sameContents, stopped⟩
      · refine .inr ⟨indexClean, pages ++ index.toList, ?_⟩
        simp only [indexed]
      · refine .inl ⟨refusal, ?_⟩
        simp only [stopped, sameContents, and_true]
        exact refused
    · exact .inl ⟨path, isBelow, long, by simp only [stopped]⟩
  · exact .inl ⟨refusal, refused, by simp only [stopped]⟩

/-- A run over a directory, with a configuration that was loaded, returns whatever its sources and
glossary files say and whether its pages can be written or not, as long as no path of the glossary
or of the index is refused, the index page can be encoded and no path below the directory is too
long. A path is refused for a NUL character or a half of a surrogate pair that stands for no byte.
Nothing but such a text stops a run, and a path of the glossary or above the index always does. The
page of the standard index can be encoded just if the version has no half. -/
theorem run_returns_unless_path_refused (configTree : Tree) (homes : Homes)
    (configPath : Option Path) (config : Config)
    (loaded : Config.load configTree homes configPath = .ok config)
    (setupTree : Tree) (registry : Registry) (look : Look) (now : Moment) (site : Site)
    (built : ofRegistry setupTree config registry look now = .ok site)
    (work : Work) (root : Path) (namable : work.tree.Namable)
    (isDirectory : work.tree.isDirectory? root = .ok true) :
    ((∀ path ∈ config.glossary, path.refusal? = none) → config.indexPath.refusal? = none →
        ¬ Page.Unencodable (site.indexPage (site.run work root).2.contents) →
        (∀ path, work.tree.Below root path → path.isTooLong = false) →
        ∃ written after, site.run work root = (.ok written, after)) ∧
      (∀ error, (site.run work root).1 = .error error →
        (∃ path ∈ config.glossary ++ [config.indexPath.parent, config.indexPath],
          ∃ refusal, path.refusal? = some refusal ∧ error = .file refusal) ∨
        (∃ page fault, site.indexPage (site.run work root).2.contents = .ok page ∧
          Text.Utf8.encodeWide page = .error fault ∧ error = .file (.unencodable fault)) ∨
        ∃ path, work.tree.Below root path ∧ path.isTooLong = true ∧
          error = .root (.file (.refused .nameTooLong path))) ∧
      ((∃ path ∈ config.glossary, path.refusal? ≠ none) ∨ config.indexPath.parent.refusal? ≠ none ∨
          (∃ path, work.tree.Below root path ∧ path.isTooLong = true) →
        ∀ written, (site.run work root).1 ≠ .ok written) ∧
      (∀ path : Path, path.refusal? = none ↔
        ∀ name ∈ path.names, ∀ point ∈ name, point.isNamable = true) ∧
      (site.indexLayout = .standard → ∀ contents,
        (Page.Unencodable (site.indexPage contents) ↔ ∃ index, .half index ∈ config.version)) := by
  have sameConfig := config_of_ofRegistry built
  subst sameConfig
  have marker : site.config.sentinels.marker ≠ [] :=
    (Config.tidy_of_load loaded _ (by simp [Config.texts])).nonempty
  have halves (standard : site.indexLayout = .standard) (contents : List Record) :
      Page.Unencodable (site.indexPage contents) ↔ ∃ index, .half index ∈ site.config.version := by
    rw [indexPage, standard]
    exact Page.unencodable_indexIn_iff contents site.config.version site.now
  rw [← and_assoc, ← and_assoc]
  refine ⟨?_, Path.refusal?_eq_none_iff, halves⟩
  rw [and_assoc]
  -- A run ends in one of four ways: at a glossary path, at a path below the root, at the index, or
  -- with its list.
  rcases run_outcome marker work namable isDirectory with
    ⟨refusal, refused, stopped⟩ | ⟨clean, ⟨path, isBelow, long, stopped⟩ |
      ⟨short, ⟨refusal, refused, stopped⟩ | ⟨indexClean, written, returned⟩⟩⟩
  · obtain ⟨path, listed, refused⟩ := List.exists_of_findSome?_eq_some refused
    refine ⟨fun clean => absurd (clean path listed) (by simp [refused]), ?_, by simp [stopped]⟩
    rintro error failed
    cases stopped.symm.trans failed
    exact .inl ⟨path, List.mem_append_left _ listed, refusal, refused, rfl⟩
  · refine ⟨fun _ _ _ short => absurd long (by simp [short path isBelow]), ?_, by simp [stopped]⟩
    rintro error failed
    cases stopped.symm.trans failed
    exact .inr (.inr ⟨path, isBelow, long, rfl⟩)
  · refine ⟨?_, ?_, by simp [stopped]⟩
    · intro _ indexClean encodable _
      rcases refused with inDirectory | inPath | faulty
      · cases inDirectory.symm.trans (Path.refusal?_parent indexClean)
      · cases inPath.symm.trans indexClean
      · exact absurd faulty.unencodable encodable
    · rintro error failed
      cases stopped.symm.trans failed
      rcases refused with inDirectory | inPath | ⟨page, fault, isPage, unencodable, rfl⟩
      · exact .inl ⟨_, by simp, refusal, inDirectory, rfl⟩
      · exact .inl ⟨_, by simp, refusal, inPath, rfl⟩
      · exact .inr (.inl ⟨page, fault, isPage, unencodable, rfl⟩)
  · refine ⟨fun _ _ _ _ => ⟨written, _, Prod.ext returned rfl⟩, by simp [returned], ?_⟩
    rintro (⟨path, listed, refused⟩ | indexRefused | ⟨path, isBelow, long⟩)
    · exact absurd (List.findSome?_eq_none_iff.1 clean path listed) refused
    · exact absurd indexClean indexRefused
    · simp [short path isBelow] at long

/-- The glossary is missing and the output directory is a file. -/
def blockedConfig : Config where
  outputDirectory := ⟨.here, ["blocked"]⟩
  glossary := [⟨.here, ["terms.csv"]⟩]

/-- The configuration file, a file in the way of the pages, a source that cannot be decoded and one
with a titled block. -/
def blockedTree : Tree where
  workingDirectory := []
  entries :=
    [(["wsdoc.yaml"], .file (Text.Utf8.encode
        "output_dir: blocked\nglossary: terms.csv\n".toList)),
      (["blocked"], .file []), (["src"], .directory), (["src", "bad.py"], .file [0xff]),
      (["src", "zoo.py"], .file (Text.Utf8.encode
        "# wsdoc \x7b\n# @title Zoo\n# wsdoc \x7d\n".toList))]

/-- No templates, and one stylesheet for every style. -/
def plainLook : Look :=
  ⟨none, fun _ => Page.plainStylesheet⟩

theorem ofRegistry_plainLook (tree : Tree) {config : Config}
    (known : CodeBlock.isStyle config.style = true) :
    ofRegistry tree config Registry.empty plainLook ⟨2024, 1, 2, 3, 4, 5, 0⟩ =
      .ok (plainSite config) := by
  rw [ofRegistry, if_pos known]
  rfl

theorem run_returns_blocked :
    Config.load blockedTree (.only ⟨.root, ["home"]⟩) (some ⟨.here, ["wsdoc.yaml"]⟩) =
        .ok blockedConfig ∧
      ∃ written after, (plainSite blockedConfig).run ⟨Glossary.empty, [], blockedTree, []⟩
        ⟨.here, ["src"]⟩ = (.ok written, after) := by
  have loaded : Config.load blockedTree (.only ⟨.root, ["home"]⟩) (some ⟨.here, ["wsdoc.yaml"]⟩) =
      .ok blockedConfig := by decide +kernel
  have known : CodeBlock.isStyle blockedConfig.style = true := by decide
  have namable : blockedTree.Namable := by
    unfold Tree.Namable
    decide
  have short : ∀ path, blockedTree.Below ⟨.here, ["src"]⟩ path → path.isTooLong = false := by
    have located : blockedTree.locate ⟨.here, ["src"]⟩ = .ok ["src"] := by decide
    have listedShort : ∀ listed ∈ blockedTree.entriesBelow ["src"],
        (⟨.here, Wide.ofString "src" :: listed.1⟩ : Path).isTooLong = false := by decide
    rintro _ ⟨place, located', listed, isBelow, rfl⟩
    cases located.symm.trans located'
    exact listedShort listed isBelow
  have encodable (contents : List Record) :
      ¬ Page.Unencodable ((plainSite blockedConfig).indexPage contents) := by
    rw [indexPage]
    exact (Page.unencodable_indexIn_iff contents _ _).not.2
      (by simp [blockedConfig, plainSite, Wide.ofString])
  exact ⟨loaded, (run_returns_unless_path_refused blockedTree _ _ blockedConfig loaded blockedTree
    _ _ _ _ (ofRegistry_plainLook _ known) ⟨Glossary.empty, [], blockedTree, []⟩
    ⟨.here, ["src"]⟩ namable (by decide)).1 (by decide) (by decide) (encodable _)
    short⟩

/-- A configuration file whose glossary has a NUL character in its path, one whose version is a half
of a surrogate pair, and an empty directory. -/
def refusedTree : Tree where
  workingDirectory := []
  entries :=
    [(["nul.yaml"], .file (Text.Utf8.encode "glossary: \"a\\0b.csv\"\n".toList)),
      (["half.yaml"], .file (Text.Utf8.encode "version: \"\\ud800\"\n".toList)),
      (["src"], .directory)]

def refusedWork : Work :=
  ⟨Glossary.empty, [], refusedTree, []⟩

def halfConfig : Config where
  version := [.half 0]

/-- The index of a version that is no text stops the run, and leaves an empty file. -/
theorem run_halfConfig :
    ∃ fault, ((plainSite halfConfig).run refusedWork ⟨.here, ["src"]⟩).1 =
      .error (.file (.unencodable fault)) := by
  obtain ⟨page, fault, isPage, unencodable⟩ :
      Page.Unencodable ((plainSite halfConfig).indexPage []) :=
    (Page.unencodable_indexIn_iff [] _ _).2 ⟨0, by decide⟩
  have written : (Page.writeIndex refusedTree .standard halfConfig.indexPath halfConfig.version
      (plainSite halfConfig).now []).1 = .error (.file (.unencodable fault)) :=
    Page.writeInto_of_faulty ⟨page, fault, isPage, unencodable, rfl⟩ (by decide)
      (by decide)
  have indexed : ((plainSite halfConfig).writeIndex refusedWork).1 =
      .error (.file (.unencodable fault)) := writeIndex_of_refused written rfl
  have found : Discovery.sources refusedWork.tree (plainSite halfConfig).config.extensions
      (plainSite halfConfig).config.exclude ⟨.here, ["src"]⟩ = .ok [] :=
    Discovery.sources_of_sorted ["src"] [] (by decide) (by decide) (by decide) (by decide)
      (by decide)
  exact ⟨fault, run_of_writeIndex_error rfl found rfl indexed⟩

/-- Two runs over an empty directory that stop: for the path of a glossary, and for the version. -/
theorem run_stops_for_refused_text :
    refusedTree.isDirectory? ⟨.here, ["src"]⟩ = .ok true ∧
    (∃ config, Config.load refusedTree (.only ⟨.root, ["home"]⟩) (some ⟨.here, ["nul.yaml"]⟩) =
        .ok config ∧
      ofRegistry refusedTree config Registry.empty plainLook ⟨2024, 1, 2, 3, 4, 5, 0⟩ =
        .ok (plainSite config) ∧
      ((plainSite config).run refusedWork ⟨.here, ["src"]⟩).1 = .error (.file .nulInPath)) ∧
    ∃ config fault, Config.load refusedTree (.only ⟨.root, ["home"]⟩)
          (some ⟨.here, ["half.yaml"]⟩) = .ok config ∧
      ofRegistry refusedTree config Registry.empty plainLook ⟨2024, 1, 2, 3, 4, 5, 0⟩ =
        .ok (plainSite config) ∧
      ((plainSite config).run refusedWork ⟨.here, ["src"]⟩).1 =
        .error (.file (.unencodable fault)) := by
  obtain ⟨fault, stopped⟩ := run_halfConfig
  exact ⟨by decide +kernel, ⟨{ glossary := [⟨.here, ["a\x00b.csv"]⟩] }, by decide +kernel,
    ofRegistry_plainLook _ (by decide +kernel), by decide +kernel⟩, halfConfig, fault,
    by decide +kernel, ofRegistry_plainLook _ (by decide +kernel), stopped⟩

end Site

end EndpointDocs
