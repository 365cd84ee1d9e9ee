/-!
Reading a text piece by piece. The text is cut at each occurrence of a mark, and the pieces are read
one by one, in order: what such a reading gives for texts that are joined by the mark is what it
gives for each of them.
-/
namespace EndpointDocs.Text

/-- Texts are taken piece by piece. -/
@[elab_as_elim]
theorem piece_induction (mark : Char) {motive : List Char → Prop}
    (single : ∀ text, mark ∉ text → motive text)
    (more : ∀ first rest, mark ∉ first → motive rest → motive (first ++ mark :: rest))
    (text : List Char) : motive text := by
  induction size : text.length using Nat.strongRecOn generalizing text with
  | ind size ih =>
    by_cases several : mark ∈ text
    · obtain ⟨first, rest, rfl, whole⟩ := List.eq_append_cons_of_mem several
      refine more first rest whole (ih rest.length ?_ rest rfl)
      simp only [List.length_append, List.length_cons] at size
      omega
    · exact single text several

theorem not_mem_of_mem_splitOn {mark : Char} {text piece : List Char}
    (listed : piece ∈ text.splitOn mark) : mark ∉ piece := by
  induction text using piece_induction mark with
  | single text whole =>
    rw [List.splitOn_eq_singleton whole, List.mem_singleton] at listed
    rwa [listed]
  | more first rest whole ih =>
    rw [List.splitOn_append_cons_self_of_not_mem whole, List.mem_cons] at listed
    rcases listed with rfl | later
    · exact whole
    · exact ih later

/-- What the pieces of a text say, in order. -/
def readPieces {α : Type} (mark : Char) (read : List Char → List α) (text : List Char) : List α :=
  (text.splitOn mark).flatMap read

section ReadPieces

variable {α : Type} {mark : Char} {read : List Char → List α}

theorem readPieces_of_not_mem {text : List Char} (whole : mark ∉ text) :
    readPieces mark read text = read text := by
  rw [readPieces, List.splitOn_eq_singleton whole, List.flatMap_singleton]

theorem readPieces_append (first second : List Char) :
    readPieces mark read (first ++ mark :: second) =
      readPieces mark read first ++ readPieces mark read second := by
  rw [readPieces, List.splitOn_append_cons_self, List.flatMap_append, readPieces, readPieces]

/-- Nothing is read if no piece of the text says anything. -/
theorem readPieces_eq_nil {text : List Char}
    (nothing : ∀ piece, (∀ c ∈ piece, c ∈ text) → read piece = []) :
    readPieces mark read text = [] := by
  induction text using piece_induction mark with
  | single text whole => rw [readPieces_of_not_mem whole, nothing text fun _ inside => inside]
  | more first rest whole ih =>
    have firstNothing := nothing first fun c inside => List.mem_append_left _ inside
    have restNothing := ih fun piece inside => nothing piece fun c listed =>
      List.mem_append_right _ (List.mem_cons_of_mem _ (inside c listed))
    rw [readPieces_append, readPieces_of_not_mem whole, firstNothing, restNothing,
      List.append_nil]

/-- What is charged to a character in every piece of a text is charged to it in the whole. -/
theorem length_readPieces_le_count {charged : Char}
    (bound : ∀ piece, (read piece).length ≤ piece.count charged) (text : List Char) :
    (readPieces mark read text).length ≤ text.count charged := by
  induction text using piece_induction mark with
  | single text whole =>
    rw [readPieces_of_not_mem whole]
    exact bound text
  | more first rest whole ih =>
    have firstBound := bound first
    rw [readPieces_append, readPieces_of_not_mem whole, List.length_append, List.count_append]
    have restBound : rest.count charged ≤ (mark :: rest).count charged :=
      List.count_le_count_cons
    omega

theorem readPieces_intercalate (nothing : read [] = []) (texts : List (List Char)) :
    readPieces mark read ([mark].intercalate texts) = texts.flatMap (readPieces mark read) := by
  induction texts with
  | nil => simp [readPieces, nothing]
  | cons text texts ih =>
    cases texts with
    | nil => simp
    | cons next texts =>
      rw [List.intercalate_cons_cons, List.append_assoc, List.singleton_append, readPieces_append,
        ih, ← List.flatMap_cons]

/-- A character that no piece minds in front is not minded in front of the text. -/
theorem readPieces_cons {c : Char} (other : c ≠ mark)
    (ignored : ∀ piece, read (c :: piece) = read piece) (text : List Char) :
    readPieces mark read (c :: text) = readPieces mark read text := by
  have single (text : List Char) (whole : mark ∉ text) :
      readPieces mark read (c :: text) = readPieces mark read text := by
    have wholeToo : mark ∉ c :: text := by simpa [whole] using Ne.symm other
    rw [readPieces_of_not_mem wholeToo, readPieces_of_not_mem whole, ignored]
  induction text using piece_induction mark with
  | single text whole => exact single text whole
  | more first rest whole _ =>
    rw [← List.cons_append, readPieces_append, single first whole, readPieces_append]

/-- A character that no piece minds at its end is not minded at the end of the text. -/
theorem readPieces_concat {c : Char} (other : c ≠ mark)
    (ignored : ∀ piece, read (piece ++ [c]) = read piece) (text : List Char) :
    readPieces mark read (text ++ [c]) = readPieces mark read text := by
  induction text using piece_induction mark with
  | single text whole =>
    have wholeToo : mark ∉ text ++ [c] := by simpa [whole] using Ne.symm other
    rw [readPieces_of_not_mem wholeToo, readPieces_of_not_mem whole, ignored]
  | more first rest whole ih =>
    rw [List.append_assoc, List.cons_append, readPieces_append, ih, readPieces_append]

end ReadPieces

end EndpointDocs.Text
