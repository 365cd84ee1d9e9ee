import EndpointDocs.Glossary.Load
import EndpointDocs.Proofs.Files.Refusal
import EndpointDocs.Proofs.Text.Utf8

/-!
Loading glossary sources. Each source adds the entries of its rows up to where its reading ends, and
a source that cannot be opened adds none. Loading goes on to the last source unless a path is
refused before the system is asked, which ends it there.
-/
namespace EndpointDocs.Glossary

/-- Reading a source fails for what its bytes say, never for its path. -/
theorem refusal?_of_readSource {bytes : List UInt8} {error : LoadError}
    (failed : (readSource bytes).2 = some error) : error.refusal? = none := by
  unfold readSource at failed
  split at failed
  · dsimp only at failed
    split at failed
    · cases failed
      rfl
    · cases failed
  · cases failed
    split <;> rfl

section Load

variable {glossary : Glossary} {tree : Tree} {path : Path}

/-- A source that fails is refused just as its path is. -/
theorem refusal?_of_load_error {error : LoadError}
    (failed : (glossary.load tree path).2 = .error error) : error.refusal? = path.refusal? := by
  unfold load at failed
  split at failed
  · rename_i fileError unread
    cases failed
    exact Tree.refusal?_of_read unread
  · rename_i bytes opened
    dsimp only at failed
    split at failed
    · cases failed
    · rename_i failure
      cases failed
      rw [refusal?_of_readSource failure, Tree.refusal?_of_read_ok opened]

theorem refusal?_of_load_ok {count : Nat} (done : (glossary.load tree path).2 = .ok count) :
    path.refusal? = none := by
  unfold load at done
  split at done
  · cases done
  · rename_i bytes opened
    exact Tree.refusal?_of_read_ok opened

end Load

/-- Loading sources goes to the end unless a path is refused, and then ends with the first refusal.
The induction is on the sources: one that fails otherwise is noted, and the next one is loaded. -/
theorem loadAll_outcome (glossary : Glossary) (tree : Tree) (paths : List Path) :
    (paths.findSome? Path.refusal? = none ∧
        ∃ failed, (glossary.loadAll tree paths).2.2 = .ok failed) ∨
      ∃ error, paths.findSome? Path.refusal? = some error ∧
        (glossary.loadAll tree paths).2.2 = .error error := by
  induction paths generalizing glossary with
  | nil => exact .inl ⟨rfl, [], rfl⟩
  | cons path rest ih =>
    rw [loadAll]
    split
    · rename_i loaded error failed
      rw [List.findSome?_cons, ← refusal?_of_load_error (congrArg Prod.snd failed)]
      cases error.refusal? with
      | some refusal => exact .inr ⟨refusal, rfl, rfl⟩
      | none =>
        rcases ih loaded with ⟨clean, others, done⟩ | ⟨refusal, refused, done⟩
        · exact .inl ⟨clean, path :: others, by simp [done, Except.map]⟩
        · exact .inr ⟨refusal, refused, by simp [done, Except.map]⟩
    · rename_i loaded count done
      rw [List.findSome?_cons, refusal?_of_load_ok (congrArg Prod.snd done)]
      exact ih loaded

/-- What loading the source at `path` adds: the entries before its end or its fault. -/
def additionsFrom (tree : Tree) (path : Path) : List (String × String) :=
  match tree.read path with
  | .ok bytes => (readSource bytes).1
  | .error _ => []

/-- A source that can be decoded adds all of its rows. -/
theorem additionsFrom_of_encode {tree : Tree} {path : Path} {text : List Char}
    (opened : tree.read path = .ok (Text.Utf8.encode text)) :
    additionsFrom tree path = entriesOf (Csv.read text).close := by
  simp only [additionsFrom, opened, readSource, Text.Utf8.decodeStream_encode]

/-- A source whose reading breaks off adds the rows of the complete lines that came before. -/
theorem additionsFrom_of_breaksOff {tree : Tree} {path : Path} {bytes : List UInt8}
    {text : List Char} {fault : Text.Utf8.Fault} (opened : tree.read path = .ok bytes)
    (breaks : Text.Utf8.BreaksOff bytes text fault) :
    additionsFrom tree path = entriesOf (Csv.read (completeLines text)) := by
  simp only [additionsFrom, opened, readSource, Text.Utf8.decodeStream_of_breaksOff breaks]

theorem load_eq_addAll (glossary : Glossary) (tree : Tree) (path : Path) :
    (glossary.load tree path).1 = glossary.addAll (additionsFrom tree path) := by
  unfold load additionsFrom
  cases tree.read path with
  | error error => rfl
  | ok bytes => rfl

theorem additionsFrom_of_refusal? (tree : Tree) {path : Path} {error : FileError}
    (refused : path.refusal? = some error) : additionsFrom tree path = [] := by
  rw [additionsFrom, tree.read_of_refusal? refused]

theorem addAll_append (glossary : Glossary) (history more : List (String × String)) :
    glossary.addAll (history ++ more) = (glossary.addAll history).addAll more :=
  List.foldl_append

/-- What loading sources in order adds: all that those before the first refused path add. -/
def additionsFromAll (tree : Tree) (paths : List Path) : List (String × String) :=
  (paths.takeWhile fun path => path.refusal?.isNone).flatMap (additionsFrom tree)

theorem additionsFromAll_cons (tree : Tree) {path : Path} (clean : path.refusal? = none)
    (rest : List Path) : additionsFromAll tree (path :: rest) =
      additionsFrom tree path ++ additionsFromAll tree rest := by
  simp [additionsFromAll, clean]

/-- Loading sources in order adds what each of them gives, up to the first whose path is refused. -/
theorem loadAll_eq_addAll (glossary : Glossary) (tree : Tree) (paths : List Path) :
    (glossary.loadAll tree paths).1 = glossary.addAll (additionsFromAll tree paths) := by
  induction paths generalizing glossary with
  | nil => rfl
  | cons path rest ih =>
    have added := glossary.load_eq_addAll tree path
    rw [loadAll]
    split
    · rename_i loaded error failed
      have here := refusal?_of_load_error (congrArg Prod.snd failed)
      rw [failed] at added
      cases refused : error.refusal? with
      | some refusal =>
        rw [refused] at here
        have nothing : additionsFromAll tree (path :: rest) = additionsFrom tree path := by
          simp [additionsFromAll, ← here, additionsFrom_of_refusal? tree here.symm]
        rw [nothing]
        exact added
      | none =>
        rw [refused] at here
        rw [additionsFromAll_cons tree here.symm, addAll_append, ← added]
        exact ih loaded
    · rename_i loaded count done
      rw [done] at added
      rw [additionsFromAll_cons tree (refusal?_of_load_ok (congrArg Prod.snd done)), addAll_append,
        ← added]
      exact ih loaded

end EndpointDocs.Glossary
