import EndpointDocs.Proofs.Source.Located
import EndpointDocs.Proofs.Text.CodePoint
import Mathlib.Data.List.Nodup
import Mathlib.Data.List.Perm.Basic

/-!
The order of sources. Names are compared one after another, and this puts all paths in one order. In
a tree that lists each place once, each source is found once: so two searches from one root that
find the same sources find them in the same order.
-/
namespace EndpointDocs

namespace Path

theorem namesLe_total (first second : List Wide) :
    (namesLe first second || namesLe second first) = true := by
  induction first generalizing second with
  | nil => simp [namesLe]
  | cons a as ih =>
    cases second with
    | nil => simp [namesLe]
    | cons b bs =>
      by_cases same : a = b
      · simpa [namesLe, same] using ih bs
      · simp only [namesLe, if_neg same, if_neg (Ne.symm same), Bool.or_eq_true,
          decide_eq_true_eq]
        exact Wide.lt_or_gt same

/-- Names that are not above each other are the same. -/
theorem namesLe_antisymm {first second : List Wide} (le : namesLe first second = true)
    (ge : namesLe second first = true) : first = second := by
  induction first generalizing second with
  | nil =>
    cases second with
    | nil => rfl
    | cons b bs => cases ge
  | cons a as ih =>
    cases second with
    | nil => cases le
    | cons b bs =>
      by_cases same : a = b
      · simp only [namesLe, same, if_true] at le ge
        rw [same, ih le ge]
      · simp only [namesLe, if_neg same, if_neg (Ne.symm same), decide_eq_true_eq] at le ge
        exact absurd ge (Wide.lt_asymm le)

/-- The order of names is that of a dictionary, so it is transitive because the order of code points
is. -/
theorem namesLe_trans (first second third : List Wide) (le : namesLe first second = true)
    (le' : namesLe second third = true) : namesLe first third = true := by
  induction first generalizing second third with
  | nil => simp [namesLe]
  | cons a as ih =>
    cases second with
    | nil => cases le
    | cons b bs =>
      cases third with
      | nil => cases le'
      | cons c cs =>
        -- Either all three first names are equal, or the first difference decides.
        simp only [namesLe] at le le' ⊢
        by_cases same : a = b
        · by_cases same' : b = c
          · simp only [same, same', if_true] at le le' ⊢
            exact ih bs cs le le'
          · simpa [same, same'] using le'
        · rw [if_neg same, decide_eq_true_eq] at le
          by_cases same' : b = c
          · rw [← same', if_neg same, decide_eq_true_eq]
            exact le
          · rw [if_neg same', decide_eq_true_eq] at le'
            have less : a < c := Wide.lt_trans le le'
            have different : a ≠ c := by
              rintro rfl
              exact Wide.lt_irrefl a less
            rw [if_neg different, decide_eq_true_eq]
            exact less

end Path

namespace Tree

/-- A tree as a disk holds it: well formed, and with one entry for each place. -/
structure Proper (tree : Tree) : Prop extends tree.WellFormed where
  distinct : (tree.entries.map (·.1)).Nodup

/-- The files below a place stand at listed places, in the order of the list. -/
theorem filesBelow_sublist (tree : Tree) (place : Place) :
    ((tree.filesBelow place).map (place ++ ·)).Sublist (tree.entries.map (·.1)) := by
  unfold filesBelow entriesBelow
  induction tree.entries with
  | nil => exact List.Sublist.slnil
  | cons listed rest ih =>
    obtain ⟨p, entry⟩ := listed
    cases found : place.isPrefixOf? p with
    | none => simpa [found] using ih.cons p
    | some names =>
      cases names with
      | nil => simpa [found] using ih.cons p
      | cons name more =>
        cases entry with
        | directory => simpa [found] using ih.cons p
        | file bytes =>
          have whole := List.isPrefixOf?_eq_some_iff_append_eq.1 found
          simpa [found, whole] using ih.cons_cons p

theorem nodup_filesBelow {tree : Tree} (distinct : (tree.entries.map (·.1)).Nodup)
    (place : Place) : (tree.filesBelow place).Nodup :=
  (distinct.sublist (tree.filesBelow_sublist place)).of_map _

end Tree

namespace Discovery

theorem pairwise_below (tree : Tree) (suffixes exclude : List Wide) (place : Place) :
    (below tree suffixes exclude place).Pairwise fun first second =>
      Path.namesLe first second = true :=
  List.pairwise_mergeSort Path.namesLe_trans Path.namesLe_total _

theorem nodup_below {tree : Tree} (distinct : (tree.entries.map (·.1)).Nodup)
    (suffixes exclude : List Wide) (place : Place) :
    (below tree suffixes exclude place).Nodup :=
  (List.mergeSort_perm _ _).nodup_iff.2 ((Tree.nodup_filesBelow distinct place).filter _)

/-- The sources below a root are the names found below its place, written from the root. -/
theorem sources_eq_map {tree : Tree} {suffixes exclude : List Wide} {root : Path}
    {sources : List Path} (found : Discovery.sources tree suffixes exclude root = .ok sources) :
    ∃ place, sources = (below tree suffixes exclude place).map fun names =>
      (⟨root.anchor, root.names ++ names⟩ : Path) := by
  unfold Discovery.sources at found
  split at found
  · cases found
  · cases found
  · split at found
    · cases found
    · rename_i place _
      split at found
      · cases found
      · cases found
        exact ⟨place, rfl⟩

/-- Searches from one root that find the same sources list them alike: both lists are in path order
and have no source twice. -/
theorem sources_eq_of_mem_iff {old new : Tree} (oldDistinct : (old.entries.map (·.1)).Nodup)
    (newDistinct : (new.entries.map (·.1)).Nodup) {suffixes exclude : List Wide} {root : Path}
    {sources others : List Path}
    (found : Discovery.sources old suffixes exclude root = .ok sources)
    (foundAgain : Discovery.sources new suffixes exclude root = .ok others)
    (same : ∀ path, path ∈ others ↔ path ∈ sources) : others = sources := by
  obtain ⟨place, rfl⟩ := sources_eq_map found
  obtain ⟨place', rfl⟩ := sources_eq_map foundAgain
  have injective : Function.Injective fun names : List Wide =>
      (⟨root.anchor, root.names ++ names⟩ : Path) := by
    intro names names' equal
    simpa using equal
  have sameNames : ∀ names, names ∈ below new suffixes exclude place' ↔
      names ∈ below old suffixes exclude place := by
    intro names
    rw [← List.mem_map_of_injective injective, same, List.mem_map_of_injective injective]
  congr 1
  apply List.Perm.eq_of_pairwise (fun _ _ _ _ => Path.namesLe_antisymm)
    (pairwise_below new suffixes exclude place') (pairwise_below old suffixes exclude place)
  rw [List.perm_ext_iff_of_nodup (nodup_below newDistinct _ _ _) (nodup_below oldDistinct _ _ _)]
  exact sameNames

/-- Where the tree lists the sources in path order, and all paths below the root can be followed,
they are found as listed. This evaluates, which sorting does not. -/
theorem sources_of_sorted {tree : Tree} {suffixes exclude : List Wide} {root : Path}
    (place : Place) (listed : List (List Wide)) (isDirectory : tree.isDirectory? root = .ok true)
    (located : tree.locate root = .ok place)
    (short : ∀ entry ∈ tree.entriesBelow place,
      (⟨root.anchor, root.names ++ entry.1⟩ : Path).isTooLong = false)
    (files : ((tree.filesBelow place).filter fun names =>
      isSource suffixes exclude (names.getLast?.getD [])) = listed)
    (sorted : listed.Pairwise fun first second => Path.namesLe first second = true) :
    Discovery.sources tree suffixes exclude root =
      .ok (listed.map fun names => ⟨root.anchor, root.names ++ names⟩) := by
  have noneTooLong : tooLong? tree root place = none := by
    apply List.find?_eq_none.2
    intro path isBelow
    obtain ⟨names, isListed, rfl⟩ := List.mem_map.1 isBelow
    obtain ⟨entry, entryListed, rfl⟩ := List.mem_map.1 (List.mem_mergeSort.1 isListed)
    simpa using short entry entryListed
  have inOrder : below tree suffixes exclude place = listed := by
    rw [below, files, List.mergeSort_of_pairwise sorted]
  rw [Discovery.sources, isDirectory]
  simp only [located, noneTooLong, inOrder]

end Discovery

end EndpointDocs
