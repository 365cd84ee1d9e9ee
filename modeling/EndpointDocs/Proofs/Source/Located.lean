import EndpointDocs.Proofs.Files.Frame
import EndpointDocs.Source.Discovery
import Mathlib.Data.List.Basic
import Mathlib.Data.List.Induction

/-!
Sources can be followed: in a tree whose places lie in directories, the path of every source that
was found leads to the place where the source is listed. So what a source says stays the same as
long as nothing is written to its place.
-/
namespace EndpointDocs

namespace Tree

/-- Every listed place lies in a directory, and its names lead downwards and are not too long. -/
structure WellFormed (tree : Tree) : Prop where
  parents : ∀ listed ∈ tree.entries, tree.isDirectoryAt listed.1.dropLast = true
  names : ∀ listed ∈ tree.entries, ∀ name ∈ listed.1,
    name ≠ ".." ∧ Path.byteSize name ≤ maxNameBytes

theorem at?_isSome_of_listed {tree : Tree} {place : Place} {entry : Entry}
    (listed : (place, entry) ∈ tree.entries) : (tree.at? place).isSome := by
  unfold at?
  split
  · rfl
  · rw [Option.isSome_map, List.find?_isSome]
    exact ⟨(place, entry), listed, by simp⟩

theorem listed_of_at? {tree : Tree} {place : Place} {entry : Entry} (notRoot : place ≠ [])
    (there : tree.at? place = some entry) : (place, entry) ∈ tree.entries := by
  unfold at? at there
  rw [if_neg notRoot, Option.map_eq_some_iff] at there
  obtain ⟨⟨other, found⟩, first, rfl⟩ := there
  have same : other = place := by simpa using List.find?_some first
  rw [← same]
  exact List.mem_of_find?_eq_some first

/-- Above a listed place there are directories all the way. The induction is on the names between,
from the last one: each parent is a directory, and so is listed itself. -/
theorem isDirectoryAt_of_listed {tree : Tree} (wellFormed : tree.WellFormed) (place : Place)
    (names : List Wide) {entry : Entry} (below : names ≠ [])
    (listed : (place ++ names, entry) ∈ tree.entries) : tree.isDirectoryAt place = true := by
  induction names using List.reverseRecOn generalizing entry with
  | nil => exact absurd rfl below
  | append_singleton before last ih =>
    have parent := wellFormed.parents _ listed
    rw [← List.append_assoc, List.dropLast_concat] at parent
    by_cases direct : before = []
    · simpa [direct] using parent
    · have there : tree.at? (place ++ before) = some .directory := of_decide_eq_true parent
      exact ih direct (listed_of_at? (by simp [direct]) there)

/-- A listed place is reached by following its names. -/
theorem follow_listed {tree : Tree} (wellFormed : tree.WellFormed) (place : Place)
    (names : List Wide) {entry : Entry} (listed : (place ++ names, entry) ∈ tree.entries) :
    tree.follow place names = .ok (place ++ names) := by
  induction names generalizing place with
  | nil => simp [follow]
  | cons name rest ih =>
    have above := isDirectoryAt_of_listed wellFormed place (name :: rest) (by simp) listed
    have good := wellFormed.names _ listed name (by simp)
    have nextListed : ((place ++ [name]) ++ rest, entry) ∈ tree.entries := by simpa using listed
    have there : (tree.at? (place ++ [name])).isSome := by
      cases rest with
      | nil => exact at?_isSome_of_listed (by simpa using listed)
      | cons second rest =>
        have isDirectory := isDirectoryAt_of_listed wellFormed _ _ (by simp) nextListed
        rw [of_decide_eq_true isDirectory]
        rfl
    have entered : tree.enter place name = .ok (place ++ [name]) := by
      simp [enter, above, good.1, Nat.not_lt.2 good.2, there]
    rw [follow, entered]
    simpa using ih (place ++ [name]) nextListed

/-- Below a place stands what is listed with that place in front. -/
theorem mem_entriesBelow_iff {tree : Tree} {place : Place} {names : List Wide} {entry : Entry} :
    (names, entry) ∈ tree.entriesBelow place ↔
      names ≠ [] ∧ (place ++ names, entry) ∈ tree.entries := by
  unfold entriesBelow
  rw [List.mem_filterMap]
  constructor
  · rintro ⟨⟨p, entry⟩, listed, shape⟩
    dsimp only at shape
    split at shape
    · rename_i name rest isPrefix
      cases shape
      rw [List.isPrefixOf?_eq_some_iff_append_eq.1 isPrefix]
      exact ⟨List.cons_ne_nil name rest, listed⟩
    · cases shape
  · rintro ⟨nonempty, listed⟩
    obtain ⟨name, rest, rfl⟩ := List.exists_cons_of_ne_nil nonempty
    have isPrefix : place.isPrefixOf? (place ++ name :: rest) = some (name :: rest) :=
      List.isPrefixOf?_eq_some_iff_append_eq.2 rfl
    exact ⟨(place ++ name :: rest, entry), listed, by simp only [isPrefix]⟩

/-- The files below a place are those listed with the place in front. -/
theorem mem_filesBelow_iff {tree : Tree} {place : Place} {names : List Wide} :
    names ∈ tree.filesBelow place ↔
      names ≠ [] ∧ ∃ bytes, (place ++ names, Entry.file bytes) ∈ tree.entries := by
  unfold filesBelow
  rw [List.mem_filterMap]
  constructor
  · rintro ⟨⟨names', entry⟩, isBelow, isFile⟩
    cases entry with
    | directory => cases isFile
    | file bytes =>
      cases isFile
      obtain ⟨nonempty, listed⟩ := mem_entriesBelow_iff.1 isBelow
      exact ⟨nonempty, bytes, listed⟩
  · rintro ⟨nonempty, bytes, listed⟩
    exact ⟨(names, .file bytes), mem_entriesBelow_iff.2 ⟨nonempty, listed⟩, rfl⟩

/-- The paths of what stands below a directory, as they are written from `root`. -/
def Below (tree : Tree) (root path : Path) : Prop :=
  ∃ place, tree.locate root = .ok place ∧
    ∃ listed ∈ tree.entriesBelow place, path = ⟨root.anchor, root.names ++ listed.1⟩

theorem refusal?_of_isDirectory? {tree : Tree} {path : Path}
    (isDirectory : tree.isDirectory? path = .ok true) : path.refusal? = none := by
  unfold isDirectory? at isDirectory
  split at isDirectory
  · cases isDirectory
  · rename_i clean
    simpa using clean

/-- A file that can be read is where its path leads. -/
theorem located_of_read {tree : Tree} {path : Path} {bytes : List UInt8}
    (read : tree.read path = .ok bytes) :
    ∃ place, tree.locate path = .ok place ∧ tree.at? place = some (.file bytes) := by
  unfold Tree.read at read
  split at read
  · cases read
  · split at read
    · cases read
    · rename_i place located
      split at read
      · rename_i there
        cases read
        exact ⟨place, located, there⟩
      · cases read
      · cases read

/-- What a path gives is decided by where it leads. -/
theorem read_of_locate_eq {tree : Tree} {path other : Path} {bytes : List UInt8}
    (read : tree.read other = .ok bytes) (same : tree.locate path = tree.locate other)
    (clean : path.refusal? = none) : tree.read path = .ok bytes := by
  obtain ⟨place, located, there⟩ := located_of_read read
  simp [Tree.read, clean, same, located, there]

/-- What a path says stays the same as long as nothing is written where it leads. -/
theorem Frame.read_eq {written : Place → Prop} {old new : Tree} (frame : Frame written old new)
    {path : Path} {place : Place} {entry : Entry} (located : old.locate path = .ok place)
    (there : old.at? place = some entry) (untouched : ¬ written place) :
    new.read path = old.read path := by
  unfold read
  rw [frame.locate_ok located, located]
  simp only [frame.at?_of_not_written there untouched, there]

end Tree

namespace Discovery

/-- What is found below a directory is listed there as a file. -/
theorem listed_of_mem_below {tree : Tree} {suffixes exclude : List Wide} {place : Place}
    {names : List Wide} (found : names ∈ below tree suffixes exclude place) :
    ∃ bytes, (place ++ names, Entry.file bytes) ∈ tree.entries ∧
      (names, Entry.file bytes) ∈ tree.entriesBelow place := by
  have kept := List.mem_filter.1 (List.mem_mergeSort.1 found)
  obtain ⟨nonempty, bytes, listed⟩ := Tree.mem_filesBelow_iff.1 kept.1
  exact ⟨bytes, listed, Tree.mem_entriesBelow_iff.2 ⟨nonempty, listed⟩⟩

theorem tooLong?_eq_some {tree : Tree} {root path : Path} {place : Place}
    (located : tree.locate root = .ok place) (found : tooLong? tree root place = some path) :
    tree.Below root path ∧ path.isTooLong = true := by
  obtain ⟨names, listed, rfl⟩ := List.mem_map.1 (List.mem_of_find?_eq_some found)
  obtain ⟨entry, isBelow, rfl⟩ := List.mem_map.1 (List.mem_mergeSort.1 listed)
  exact ⟨⟨place, located, entry, isBelow, rfl⟩, List.find?_some found⟩

theorem tooLong?_eq_none {tree : Tree} {root path : Path} {place : Place}
    (located : tree.locate root = .ok place) (noneFound : tooLong? tree root place = none)
    (below : tree.Below root path) : path.isTooLong = false := by
  obtain ⟨place', located', listed, isBelow, rfl⟩ := below
  cases located.symm.trans located'
  have short := List.find?_eq_none.1 noneFound _
    (List.mem_map_of_mem (List.mem_mergeSort.2 (List.mem_map_of_mem isBelow)))
  simpa using short

/-- The path of a source leads to where the source stands. -/
theorem located_of_mem_sources {tree : Tree} (wellFormed : tree.WellFormed)
    {suffixes exclude : List Wide} {root : Path} {sources : List Path}
    (found : Discovery.sources tree suffixes exclude root = .ok sources) {source : Path}
    (listed : source ∈ sources) :
    ∃ place entry, tree.locate source = .ok place ∧ tree.at? place = some entry := by
  unfold Discovery.sources at found
  split at found
  · cases found
  · cases found
  · split at found
    · cases found
    · rename_i place located
      split at found
      · cases found
      · rename_i allShort
        cases found
        obtain ⟨names, isBelow, rfl⟩ := List.mem_map.1 listed
        obtain ⟨bytes, isListed, inside⟩ := listed_of_mem_below isBelow
        obtain ⟨entry, there⟩ := Option.isSome_iff_exists.1 (Tree.at?_isSome_of_listed isListed)
        refine ⟨place ++ names, entry, ?_, there⟩
        have short : (⟨root.anchor, root.names ++ names⟩ : Path).isTooLong = false := by
          simpa using List.find?_eq_none.1 allShort _
            (List.mem_map_of_mem (List.mem_mergeSort.2 (List.mem_map_of_mem inside)))
        have rootFollowed : tree.follow (tree.startOf root) root.names = .ok place := by
          unfold Tree.locate at located
          split at located
          · cases located
          · exact located
        have sameStart : tree.startOf ⟨root.anchor, root.names ++ names⟩ = tree.startOf root := rfl
        rw [Tree.locate, short, sameStart, Tree.follow_append, rootFollowed]
        exact Tree.follow_listed wellFormed place names isListed

end Discovery

end EndpointDocs
