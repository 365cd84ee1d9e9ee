import EndpointDocs.Files.Tree
import EndpointDocs.Proofs.Text.CodePoint

/-!
Paths that are refused before the tree is looked at: those with a NUL character, and those with a
half of a surrogate pair that stands for no byte. An operation on a file fails for such a path with
its refusal, and for any other path only with a fault of the system.
-/
namespace EndpointDocs

/-- Whether the name of a file may have this code point. -/
def CodePoint.isNamable : CodePoint → Bool
  | .char c => c.toNat != 0
  | .half index => Path.isByteHalf index

namespace Path

theorem half_mem_intercalate_iff (index : Fin 0x800) (names : List Wide) :
    .half index ∈ List.intercalate "/" names ↔ ∃ name ∈ names, .half index ∈ name := by
  have noSlash : .half index ∉ Wide.ofString "/" := by simp [Wide.ofString]
  induction names with
  | nil => simp
  | cons name rest ih =>
    cases rest with
    | nil => simp
    | cons next rest => simp [List.intercalate_cons_cons, ih, noSlash]

/-- The halves of a path are those of its names: what stands between them are characters. -/
theorem half_mem_text_iff (path : Path) (index : Fin 0x800) :
    .half index ∈ path.text ↔ ∃ name ∈ path.names, .half index ∈ name := by
  have anchored (anchor : Anchor) : .half index ∉ anchorText anchor := by
    cases anchor <;> simp [anchorText, Wide.ofString]
  unfold text
  split
  · rename_i nothing
    have noNames : path.names = [] := List.isEmpty_iff.1 (Bool.and_eq_true_iff.1 nothing).2
    simp [noNames, Wide.ofString]
  · simp [half_mem_intercalate_iff, anchored]

/-- A path is refused exactly if a name has a code point that no name may have. -/
theorem refusal?_eq_none_iff (path : Path) :
    path.refusal? = none ↔ ∀ name ∈ path.names, ∀ point ∈ name, point.isNamable = true := by
  have halves : path.encodeFault? = none ↔
      ∀ name ∈ path.names, ∀ index, .half index ∈ name → isByteHalf index = true := by
    simp only [encodeFault?, Text.Utf8.encodeFault?_eq_none_iff, half_mem_text_iff]
    exact ⟨fun passed name listed index inName => passed index ⟨name, listed, inName⟩,
      fun passed index ⟨name, listed, inName⟩ => passed name listed index inName⟩
  have nul : path.hasNul = false ↔
      ∀ name ∈ path.names, ∀ point ∈ name, point.number ≠ 0 := by
    simp [hasNul]
  have both : path.refusal? = none ↔ path.encodeFault? = none ∧ path.hasNul = false := by
    unfold refusal?
    cases path.encodeFault? <;> cases path.hasNul <;> simp
  rw [both, halves, nul]
  constructor
  · rintro ⟨bytes, named⟩ name listed point inName
    cases point with
    | char c => simpa [CodePoint.isNamable, CodePoint.number] using named name listed _ inName
    | half index => exact bytes name listed index inName
  · intro namable
    refine ⟨fun name listed index inName => namable name listed _ inName, ?_⟩
    intro name listed point inName
    cases point with
    | char c => simpa [CodePoint.isNamable, CodePoint.number] using namable name listed _ inName
    | half index => simp [CodePoint.number]

/-- The directory of a path is refused for nothing that the path is not refused for. -/
theorem refusal?_parent {path : Path} (clean : path.refusal? = none) :
    path.parent.refusal? = none := by
  rw [refusal?_eq_none_iff] at clean ⊢
  exact fun name listed => clean name ((List.dropLast_sublist _).subset listed)

/-- The refusal of a path is no fault of the system. -/
theorem refusal?_of_refusal? {path : Path} {error : FileError}
    (refused : path.refusal? = some error) : error.refusal? = some error := by
  unfold refusal? at refused
  split at refused
  · cases refused
    rfl
  · split at refused
    · cases refused
      rfl
    · cases refused

end Path

namespace Tree

theorem read_of_refusal? (tree : Tree) {path : Path} {error : FileError}
    (refused : path.refusal? = some error) : tree.read path = .error error := by
  rw [read, refused]

theorem refusal?_of_read_ok {tree : Tree} {path : Path} {bytes : List UInt8}
    (opened : tree.read path = .ok bytes) : path.refusal? = none := by
  cases refused : path.refusal? with
  | none => rfl
  | some error => cases opened.symm.trans (tree.read_of_refusal? refused)

theorem refusal?_of_read {tree : Tree} {path : Path} {error : FileError}
    (failed : tree.read path = .error error) : error.refusal? = path.refusal? := by
  unfold read at failed
  split at failed
  · rename_i refused
    cases failed
    rw [refused]
    exact Path.refusal?_of_refusal? refused
  · rename_i clean
    rw [clean]
    repeat' split at failed
    all_goals cases failed
    all_goals rfl

theorem refusal?_of_write {tree : Tree} {path : Path} {bytes : List UInt8} {error : FileError}
    (failed : tree.write path bytes = .error error) : error.refusal? = path.refusal? := by
  unfold write at failed
  split at failed
  · rename_i refused
    cases failed
    rw [refused]
    exact Path.refusal?_of_refusal? refused
  · rename_i clean
    rw [clean]
    repeat' split at failed
    all_goals cases failed
    all_goals rfl

theorem refusal?_of_createOrKeep {tree : Tree} {path : Path} {error : FileError}
    (failed : (tree.createOrKeep path).1 = some error) : error.refusal? = none := by
  unfold createOrKeep at failed
  repeat' split at failed
  all_goals cases failed
  rfl

/-- The induction is on the names: each directory above is created or kept, or refused for a
fault. -/
theorem refusal?_of_createAbove {tree : Tree} {anchor : Anchor} {names : List Wide}
    {error : FileError} (failed : (tree.createAbove anchor names).1 = some error) :
    error.refusal? = none := by
  induction names generalizing tree with
  | nil => exact refusal?_of_createOrKeep failed
  | cons last above ih =>
    rw [createAbove] at failed
    split at failed
    · split at failed
      · exact refusal?_of_createOrKeep failed
      · exact ih failed
    · exact refusal?_of_createOrKeep failed

theorem refusal?_of_createDirectories {tree : Tree} {path : Path} {error : FileError}
    (failed : (tree.createDirectories path).1 = some error) : error.refusal? = path.refusal? := by
  unfold createDirectories at failed
  split at failed
  · rename_i refused
    cases failed
    rw [refused]
    exact Path.refusal?_of_refusal? refused
  · rename_i clean
    rw [clean]
    exact refusal?_of_createAbove failed

theorem refusal?_of_createDirectories_ok {tree new : Tree} {path : Path}
    (done : tree.createDirectories path = (none, new)) : path.refusal? = none := by
  unfold createDirectories at done
  split at done
  · cases done
  · assumption

end Tree

end EndpointDocs
