import EndpointDocs.Proofs.Files.GlobMatch
import EndpointDocs.Proofs.Files.Refusal
import EndpointDocs.Proofs.Source.Ordered
import Mathlib.Data.List.Lex

/-!
What a search for sources finds. Below a directory it finds the regular files whose names have one
of the suffixes and match none of the excluded patterns: all of them, each once, in the order of
their names, whatever the order in which directories list what they hold. Only names and paths that
are too long stand in the way: a search that meets one is refused, and does not tell whether its
root is a directory.
-/
namespace EndpointDocs

namespace Path

/-- Names that differ are in strict order, the first difference deciding. -/
theorem lex_of_namesLe {first second : List Wide} (le : namesLe first second = true)
    (different : first ≠ second) : List.Lex (· < ·) first second := by
  induction first generalizing second with
  | nil =>
    cases second with
    | nil => exact absurd rfl different
    | cons b bs => exact .nil
  | cons a as ih =>
    cases second with
    | nil => cases le
    | cons b bs =>
      by_cases same : a = b
      · subst same
        refine .cons (ih (by simpa [namesLe] using le) ?_)
        rintro rfl
        exact different rfl
      · rw [namesLe, if_neg same, decide_eq_true_eq] at le
        exact .rel le

/-- Lists of names that differ in their order are sorted alike. -/
theorem mergeSort_namesLe_eq {first second : List (List Wide)} (perm : first.Perm second) :
    first.mergeSort namesLe = second.mergeSort namesLe := by
  apply List.Perm.eq_of_pairwise (fun _ _ _ _ => namesLe_antisymm)
    (List.pairwise_mergeSort namesLe_trans namesLe_total _)
    (List.pairwise_mergeSort namesLe_trans namesLe_total _)
  exact (List.mergeSort_perm _ _).trans (perm.trans (List.mergeSort_perm _ _).symm)

end Path

/-- A path has too many bytes, or one of its names has. -/
def Path.IsOverlong (path : Path) : Prop :=
  path.isTooLong = true ∨ ∃ name ∈ path.names, Tree.maxNameBytes < Path.byteSize name

namespace Tree

/-- A path names the directory at a place. -/
structure NamesDirectory (tree : Tree) (path : Path) (place : Place) : Prop where
  clean : path.refusal? = none
  located : tree.locate path = .ok place
  there : tree.at? place = some .directory

/-- Following names is refused for their length only at a name that is too long. -/
theorem exists_long_of_follow {tree : Tree} {place : Place} {names : List Wide}
    (refused : tree.follow place names = .error .nameTooLong) :
    ∃ name ∈ names, maxNameBytes < Path.byteSize name := by
  induction names generalizing place with
  | nil => cases refused
  | cons name rest ih =>
    rw [follow] at refused
    split at refused
    · obtain ⟨long, listed, tooLong⟩ := ih refused
      exact ⟨long, List.mem_cons_of_mem name listed, tooLong⟩
    · rename_i fault entered
      cases refused
      refine ⟨name, List.mem_cons_self, ?_⟩
      unfold enter at entered
      split at entered
      · cases entered
      · split at entered
        · cases entered
        · split at entered
          · assumption
          · split at entered <;> cases entered

theorem isOverlong_of_locate {tree : Tree} {path : Path}
    (refused : tree.locate path = .error .nameTooLong) : path.IsOverlong := by
  unfold locate at refused
  split at refused
  · exact .inl ‹_›
  · exact .inr (exists_long_of_follow refused)

theorem NamesDirectory.isDirectory? {tree : Tree} {path : Path} {place : Place}
    (names : tree.NamesDirectory path place) : tree.isDirectory? path = .ok true := by
  simp [Tree.isDirectory?, isDirectoryAt, names.clean, names.located, names.there]

/-- What names no directory is none, or it is refused for its length. -/
theorem isDirectory?_of_none {tree : Tree} {path : Path}
    (none : ∀ place, ¬ tree.NamesDirectory path place) :
    tree.isDirectory? path = .ok false ∨
      path.IsOverlong ∧ tree.isDirectory? path = .error (.refused .nameTooLong path) := by
  unfold Tree.isDirectory?
  split
  · exact .inl rfl
  · rename_i clean
    split
    · rename_i place located
      refine .inl (congrArg _ (decide_eq_false fun there => none place ?_))
      exact ⟨by simpa using clean, located, there⟩
    · rename_i refused
      exact .inr ⟨isOverlong_of_locate refused, rfl⟩
    · exact .inl rfl

/-- Where each place is listed once, what is listed there stands there. -/
theorem at?_eq_some_iff {tree : Tree} (distinct : (tree.entries.map (·.1)).Nodup) {place : Place}
    (notRoot : place ≠ []) (entry : Entry) :
    tree.at? place = some entry ↔ (place, entry) ∈ tree.entries := by
  refine ⟨listed_of_at? notRoot, fun listed => ?_⟩
  obtain ⟨other, there⟩ := Option.isSome_iff_exists.1 (at?_isSome_of_listed listed)
  have same : (place, other) = (place, entry) :=
    List.inj_on_of_nodup_map distinct (listed_of_at? notRoot there) listed rfl
  cases same
  exact there

/-- Trees on one disk that list the same entries, each in its own order. -/
structure Reordered (tree other : Tree) : Prop where
  workingDirectory : other.workingDirectory = tree.workingDirectory
  perm : other.entries.Perm tree.entries

namespace Reordered

variable {tree other : Tree}

theorem at?_eq (reordered : Reordered tree other) (distinct : (tree.entries.map (·.1)).Nodup)
    (place : Place) : other.at? place = tree.at? place := by
  by_cases root : place = []
  · rw [at?, at?, if_pos root, if_pos root]
  · have distinctToo : (other.entries.map (·.1)).Nodup :=
      (reordered.perm.map (·.1)).nodup_iff.2 distinct
    ext entry
    rw [at?_eq_some_iff distinctToo root, at?_eq_some_iff distinct root, reordered.perm.mem_iff]

theorem isDirectoryAt_eq (reordered : Reordered tree other)
    (distinct : (tree.entries.map (·.1)).Nodup) (place : Place) :
    other.isDirectoryAt place = tree.isDirectoryAt place := by
  rw [isDirectoryAt, isDirectoryAt, reordered.at?_eq distinct]

/-- Where a path leads does not depend on the order of the entries. -/
theorem locate_eq (reordered : Reordered tree other) (distinct : (tree.entries.map (·.1)).Nodup)
    (path : Path) : other.locate path = tree.locate path := by
  have follow (place : Place) (names : List Wide) :
      other.follow place names = tree.follow place names := by
    induction names generalizing place with
    | nil => rfl
    | cons name rest ih =>
      have entered : other.enter place name = tree.enter place name := by
        rw [enter, enter, reordered.isDirectoryAt_eq distinct, reordered.at?_eq distinct]
      rw [Tree.follow, Tree.follow, entered]
      cases tree.enter place name with
      | ok next => exact ih next
      | error fault => rfl
  have start : other.startOf path = tree.startOf path := by
    rw [startOf, startOf, reordered.workingDirectory]
  rw [locate, locate, start, follow]

theorem isDirectory?_eq (reordered : Reordered tree other)
    (distinct : (tree.entries.map (·.1)).Nodup) (path : Path) :
    other.isDirectory? path = tree.isDirectory? path := by
  simp only [isDirectory?, reordered.isDirectoryAt_eq distinct, reordered.locate_eq distinct]

end Reordered

end Tree

namespace Discovery

/-- A file of this name is a source: it has one of the suffixes, and no excluded pattern matches. -/
def IsSource (suffixes exclude : List Wide) (name : Wide) : Prop :=
  (∃ suffix ∈ suffixes, suffix <:+ name) ∧ ∀ pattern ∈ exclude, ¬ Glob.Matches pattern name

theorem isSource_iff (suffixes exclude : List Wide) (name : Wide) :
    isSource suffixes exclude name = true ↔ IsSource suffixes exclude name := by
  simp [isSource, IsSource, ← Glob.matchesName_iff]

/-- The names below a place are searched in one order, whatever the order of the entries. -/
theorem sources_reordered {tree other : Tree} (reordered : tree.Reordered other)
    (distinct : (tree.entries.map (·.1)).Nodup) (suffixes exclude : List Wide) (root : Path) :
    Discovery.sources other suffixes exclude root =
      Discovery.sources tree suffixes exclude root := by
  have entries (place : Place) : (other.entriesBelow place).Perm (tree.entriesBelow place) :=
    reordered.perm.filterMap _
  have below_eq (place : Place) :
      below other suffixes exclude place = below tree suffixes exclude place :=
    Path.mergeSort_namesLe_eq (((entries place).filterMap _).filter _)
  have tooLong_eq (place : Place) : tooLong? other root place = tooLong? tree root place := by
    rw [tooLong?, tooLong?, Path.mergeSort_namesLe_eq ((entries place).map _)]
  simp only [Discovery.sources, reordered.isDirectory?_eq distinct, reordered.locate_eq distinct,
    below_eq, tooLong_eq]

/-- What a search finds below a place: exactly the sources there, written from the root, in strict
order of their names. -/
structure Finds (tree : Tree) (suffixes exclude : List Wide) (root : Path) (place : Place)
    (paths : List Path) : Prop where
  ordered : paths.Pairwise fun first second => List.Lex (· < ·) first.names second.names
  mem_iff : ∀ path, path ∈ paths ↔ ∃ above name bytes,
    path = ⟨root.anchor, root.names ++ (above ++ [name])⟩ ∧
      tree.at? (place ++ (above ++ [name])) = some (.file bytes) ∧ IsSource suffixes exclude name

/-- What is found below a place is named as the sources there. -/
theorem mem_below_iff {tree : Tree} (distinct : (tree.entries.map (·.1)).Nodup)
    {suffixes exclude : List Wide} {place : Place} {names : List Wide} :
    names ∈ below tree suffixes exclude place ↔ ∃ above name bytes, names = above ++ [name] ∧
      tree.at? (place ++ names) = some (.file bytes) ∧ IsSource suffixes exclude name := by
  rw [below, List.mem_mergeSort, List.mem_filter, Tree.mem_filesBelow_iff, isSource_iff]
  constructor
  · rintro ⟨⟨nonempty, bytes, listed⟩, isSource⟩
    obtain ⟨above, name, rfl⟩ := (List.eq_nil_or_concat' names).resolve_left nonempty
    rw [List.getLast?_concat] at isSource
    exact ⟨above, name, bytes, rfl, (Tree.at?_eq_some_iff distinct (by simp) _).2 listed, isSource⟩
  · rintro ⟨above, name, bytes, rfl, there, isSource⟩
    rw [List.getLast?_concat]
    exact ⟨⟨by simp, bytes, (Tree.at?_eq_some_iff distinct (by simp) _).1 there⟩, isSource⟩

/-- What is found below a directory is all there is to find, in order and each once. -/
theorem finds_below {tree : Tree} (distinct : (tree.entries.map (·.1)).Nodup)
    (suffixes exclude : List Wide) (root : Path) (place : Place) :
    Finds tree suffixes exclude root place
      ((below tree suffixes exclude place).map fun names =>
        ⟨root.anchor, root.names ++ names⟩) where
  ordered := by
    rw [List.pairwise_map]
    have strict := (pairwise_below tree suffixes exclude place).and
      (nodup_below distinct suffixes exclude place)
    exact strict.imp fun ordered => (Path.lex_of_namesLe ordered.1 ordered.2).append_left _ _
  mem_iff path := by
    rw [List.mem_map]
    constructor
    · rintro ⟨names, found, rfl⟩
      obtain ⟨above, name, bytes, rfl, there, isSource⟩ := (mem_below_iff distinct).1 found
      exact ⟨above, name, bytes, rfl, there, isSource⟩
    · rintro ⟨above, name, bytes, rfl, there, isSource⟩
      exact ⟨above ++ [name], (mem_below_iff distinct).2 ⟨above, name, bytes, rfl, there, isSource⟩,
        rfl⟩

/-- A search below a directory finds the sources there unless a path below it is too long, and a
search below anything else is refused for that unless the root is too long itself. The order in
which directories list what they hold changes nothing. -/
theorem sources_finds_or_refused {tree : Tree} (distinct : (tree.entries.map (·.1)).Nodup)
    (suffixes exclude : List Wide) (root : Path) :
    (∀ place, tree.NamesDirectory root place →
      (∀ path, tree.Below root path → path.isTooLong = false) ∧
          (∃ paths, Discovery.sources tree suffixes exclude root = .ok paths ∧
            Finds tree suffixes exclude root place paths) ∨
        ∃ path, tree.Below root path ∧ path.isTooLong = true ∧
          Discovery.sources tree suffixes exclude root =
            .error (.file (.refused .nameTooLong path))) ∧
    ((∀ place, ¬ tree.NamesDirectory root place) →
      Discovery.sources tree suffixes exclude root = .error (.notDirectory root) ∨
        root.IsOverlong ∧ Discovery.sources tree suffixes exclude root =
          .error (.file (.refused .nameTooLong root))) ∧
    ∀ other, tree.Reordered other →
      Discovery.sources other suffixes exclude root =
        Discovery.sources tree suffixes exclude root := by
  refine ⟨?_, ?_, fun other reordered => sources_reordered reordered distinct _ _ _⟩
  · intro place names
    rw [Discovery.sources, names.isDirectory?]
    simp only [names.located]
    cases found : tooLong? tree root place with
    | some path =>
      obtain ⟨isBelow, tooLong⟩ := tooLong?_eq_some names.located found
      exact .inr ⟨path, isBelow, tooLong, rfl⟩
    | none =>
      exact .inl ⟨fun path => tooLong?_eq_none names.located found, _, rfl,
        finds_below distinct suffixes exclude root place⟩
  · intro none
    rw [Discovery.sources]
    rcases Tree.isDirectory?_of_none none with isNone | ⟨overlong, refused⟩
    · exact .inl (by rw [isNone])
    · exact .inr ⟨overlong, by rw [refused]⟩

/-- A directory whose names are in another order than their texts, with a directory that is named as
a source. -/
def walkTree : Tree where
  workingDirectory := []
  entries :=
    [(["src"], .directory), (["src", "a.py"], .file []), (["src", "a"], .directory),
      (["src", "a", "z.py"], .file []), (["src", "d.py"], .directory),
      (["src", "d.py", "n.txt"], .file []), (["src", "test_a.py"], .file [])]

theorem walkTree_sources :
    (walkTree.entries.map (·.1)).Nodup ∧ walkTree.NamesDirectory ⟨.here, ["src"]⟩ ["src"] ∧
      ∃ paths, Discovery.sources walkTree [".py"] ["test_*"] ⟨.here, ["src"]⟩ = .ok paths ∧
        Finds walkTree [".py"] ["test_*"] ⟨.here, ["src"]⟩ ["src"] paths := by
  have distinct : (walkTree.entries.map (·.1)).Nodup := by decide
  have names : walkTree.NamesDirectory ⟨.here, ["src"]⟩ ["src"] :=
    ⟨by decide, by decide +kernel, by decide⟩
  have short : ∀ listed ∈ walkTree.entriesBelow ["src"],
      (⟨.here, Wide.ofString "src" :: listed.1⟩ : Path).isTooLong = false := by decide +kernel
  refine ⟨distinct, names, ?_⟩
  rcases (sources_finds_or_refused distinct [".py"] ["test_*"] _).1 _ names with
    ⟨-, found⟩ | ⟨path, ⟨place, located, listed, isBelow, rfl⟩, tooLong, -⟩
  · exact found
  · cases names.located.symm.trans located
    cases (short listed isBelow).symm.trans tooLong

def longName : Wide :=
  List.replicate 256 (.char 'a')

def longRoot : Path :=
  ⟨.here, [longName]⟩

/-- A root that is too long is no directory, but the search does not say so. -/
theorem sources_refuse_longRoot :
    (∀ place, ¬ walkTree.NamesDirectory longRoot place) ∧
      Discovery.sources walkTree [".py"] [] longRoot =
        .error (.file (.refused .nameTooLong longRoot)) ∧
      Discovery.sources walkTree [".py"] [] longRoot ≠ .error (.notDirectory longRoot) := by
  have names : longRoot.names = [longName] := rfl
  have clean : longRoot.refusal? = none := by
    rw [Path.refusal?_eq_none_iff, names, List.forall_mem_singleton]
    intro point listed
    rw [List.eq_of_mem_replicate listed]
    rfl
  have long : Tree.maxNameBytes < Path.byteSize longName := by decide +kernel
  have downwards : longName ≠ ".." := by decide +kernel
  have inside : walkTree.isDirectoryAt [] = true := by decide
  have located : walkTree.locate longRoot = .error .nameTooLong := by
    have start : walkTree.startOf longRoot = [] := rfl
    have followed : walkTree.follow [] [longName] = .error .nameTooLong := by
      simp only [Tree.follow, Tree.enter, inside, if_neg downwards, if_pos long, Bool.not_true,
        Bool.false_eq_true, if_false]
    rw [Tree.locate, start, names, followed, ite_self]
  have asked : walkTree.isDirectory? longRoot = .error (.refused .nameTooLong longRoot) := by
    rw [Tree.isDirectory?, if_neg (by rw [clean]; decide), located]
  have refused : Discovery.sources walkTree [".py"] [] longRoot =
      .error (.file (.refused .nameTooLong longRoot)) := by rw [Discovery.sources, asked]
  refine ⟨fun place names => ?_, refused, ?_⟩
  · cases located.symm.trans names.located
  · rw [refused]
    simp

end Discovery

end EndpointDocs
