import EndpointDocs.Files.Tree
import EndpointDocs.OrderedMap

/-!
What an operation may do to a tree of files. Directories stay, files stay files, and only at the
places that were written are bytes new: creating directories writes nowhere, writing a file writes
at the place that its path then leads to. A path that led somewhere leads to the same place later,
and a directory that could be created is where its path leads.
-/
namespace EndpointDocs.Tree

/-- Setting an entry is putting it under its place. -/
theorem setEntry_eq_putEntry (place : Place) (entry : Entry) (entries : List (Place × Entry)) :
    setEntry place entry entries = OrderedMap.putEntry place entry entries := by
  induction entries with
  | nil => rfl
  | cons head rest ih => simp only [setEntry, OrderedMap.putEntry, ih]

theorem at?_set {tree : Tree} {place : Place} (notRoot : place ≠ []) (entry : Entry)
    (other : Place) :
    (tree.set place entry).at? other = if other = place then some entry else tree.at? other := by
  unfold at? set
  by_cases root : other = []
  · simp [root, Ne.symm notRoot]
  · rw [if_neg root, if_neg root, setEntry_eq_putEntry]
    exact OrderedMap.find?_putEntry place other entry tree.entries

theorem ne_root_of_at?_ne (tree : Tree) {place : Place}
    (other : tree.at? place ≠ some .directory) : place ≠ [] := by
  intro root
  subst root
  exact other rfl

theorem follow_append (tree : Tree) (place : Place) (names more : List Wide) :
    tree.follow place (names ++ more) =
      match tree.follow place names with
      | .ok next => tree.follow next more
      | .error fault => .error fault := by
  induction names generalizing place with
  | nil => rfl
  | cons name rest ih =>
    rw [List.cons_append, follow, follow]
    cases tree.enter place name with
    | error fault => rfl
    | ok next => exact ih next

/-- From `old` to `new`, files were written at most at the places of `written`. -/
structure Frame (written : Place → Prop) (old new : Tree) : Prop where
  workingDirectory : new.workingDirectory = old.workingDirectory
  directory : ∀ place, old.at? place = some .directory → new.at? place = some .directory
  file : ∀ place bytes, old.at? place = some (.file bytes) →
    new.at? place = some (.file bytes) ∨ written place ∧ ∃ bytes, new.at? place = some (.file bytes)
  fresh : ∀ place, old.at? place = none →
    new.at? place = none ∨ new.at? place = some .directory ∨
      written place ∧ ∃ bytes, new.at? place = some (.file bytes)

namespace Frame

variable {written : Place → Prop} {old middle new : Tree}

theorem refl (written : Place → Prop) (tree : Tree) : Frame written tree tree :=
  ⟨rfl, fun _ kept => kept, fun _ _ kept => .inl kept, fun _ absent => .inl absent⟩

theorem mono {more : Place → Prop} (frame : Frame written old new)
    (weaker : ∀ place, written place → more place) : Frame more old new where
  workingDirectory := frame.workingDirectory
  directory := frame.directory
  file := fun place bytes kept =>
    (frame.file place bytes kept).imp_right fun changed => ⟨weaker place changed.1, changed.2⟩
  fresh := fun place absent =>
    (frame.fresh place absent).imp_right fun added =>
      added.imp_right fun changed => ⟨weaker place changed.1, changed.2⟩

/-- What two steps leave unchanged, both together do. -/
theorem trans (first : Frame written old middle) (second : Frame written middle new) :
    Frame written old new where
  workingDirectory := second.workingDirectory.trans first.workingDirectory
  directory := fun place kept => second.directory place (first.directory place kept)
  file := by
    intro place bytes kept
    rcases first.file place bytes kept with same | ⟨changed, bytes', there⟩
    · exact second.file place bytes same
    · rcases second.file place bytes' there with same | again
      · exact .inr ⟨changed, bytes', same⟩
      · exact .inr again
  fresh := by
    intro place absent
    rcases first.fresh place absent with still | isDirectory | ⟨changed, bytes, there⟩
    · exact second.fresh place still
    · exact .inr (.inl (second.directory place isDirectory))
    · rcases second.file place bytes there with same | again
      · exact .inr (.inr ⟨changed, bytes, same⟩)
      · exact .inr (.inr again)

theorem isSome (frame : Frame written old new) {place : Place}
    (there : (old.at? place).isSome) : (new.at? place).isSome := by
  obtain ⟨entry, found⟩ := Option.isSome_iff_exists.1 there
  cases entry with
  | directory => simp [frame.directory place found]
  | file bytes =>
    rcases frame.file place bytes found with same | ⟨_, bytes', same⟩ <;> simp [same]

/-- What stands at a place that was not written is unchanged. -/
theorem at?_of_not_written (frame : Frame written old new) {place : Place} {entry : Entry}
    (there : old.at? place = some entry) (untouched : ¬ written place) :
    new.at? place = some entry := by
  cases entry with
  | directory => exact frame.directory place there
  | file bytes =>
    exact (frame.file place bytes there).resolve_right fun changed => untouched changed.1

theorem isDirectoryAt (frame : Frame written old new) {place : Place}
    (there : old.isDirectoryAt place = true) : new.isDirectoryAt place = true := by
  unfold Tree.isDirectoryAt at there ⊢
  exact decide_eq_true (frame.directory place (of_decide_eq_true there))

/-- Where a name leads from a directory, it goes on leading. -/
theorem enter_ok (frame : Frame written old new) {place next : Place} {name : Wide}
    (entered : old.enter place name = .ok next) : new.enter place name = .ok next := by
  unfold enter at entered ⊢
  split at entered
  · cases entered
  · rename_i isDirectory
    rw [frame.isDirectoryAt (by simpa using isDirectory)]
    split at entered
    · rename_i up
      simpa [up] using entered
    · rename_i notUp
      split at entered
      · cases entered
      · rename_i short
        split at entered
        · rename_i there
          simpa [notUp, short, frame.isSome there] using entered
        · cases entered

theorem follow_ok (frame : Frame written old new) {place next : Place} {names : List Wide}
    (followed : old.follow place names = .ok next) : new.follow place names = .ok next := by
  induction names generalizing place with
  | nil => exact followed
  | cons name rest ih =>
    rw [follow] at followed ⊢
    cases entered : old.enter place name with
    | error fault => simp [entered] at followed
    | ok between =>
      rw [entered] at followed
      rw [frame.enter_ok entered]
      exact ih followed

theorem startOf (frame : Frame written old new) (path : Path) :
    new.startOf path = old.startOf path := by
  unfold Tree.startOf
  rw [frame.workingDirectory]

/-- A path that leads somewhere goes on leading there. -/
theorem locate_ok (frame : Frame written old new) {path : Path} {place : Place}
    (located : old.locate path = .ok place) : new.locate path = .ok place := by
  unfold locate at located ⊢
  split at located
  · cases located
  · rename_i short
    rw [if_neg short, frame.startOf]
    exact frame.follow_ok located

/-- A new directory where nothing stood writes no file. -/
theorem set_directory (written : Place → Prop) {tree : Tree} {place : Place}
    (absent : tree.at? place = none) : Frame written tree (tree.set place .directory) := by
  have notRoot : place ≠ [] := ne_root_of_at?_ne tree (by simp [absent])
  refine ⟨rfl, ?_, ?_, ?_⟩
  · intro other kept
    rw [at?_set notRoot]
    split
    · rfl
    · exact kept
  · intro other bytes kept
    have different : other ≠ place := by
      rintro rfl
      rw [absent] at kept
      cases kept
    rw [at?_set notRoot, if_neg different]
    exact .inl kept
  · intro other still
    rw [at?_set notRoot]
    split
    · exact .inr (.inl rfl)
    · exact .inl still

/-- A file written where no directory stood writes there and nowhere else. -/
theorem set_file {tree : Tree} {place : Place} (bytes : List UInt8)
    (notDirectory : tree.at? place ≠ some .directory) :
    Frame (· = place) tree (tree.set place (.file bytes)) := by
  have notRoot : place ≠ [] := ne_root_of_at?_ne tree notDirectory
  refine ⟨rfl, ?_, ?_, ?_⟩
  · intro other kept
    have different : other ≠ place := by
      rintro rfl
      exact notDirectory kept
    rw [at?_set notRoot, if_neg different]
    exact kept
  · intro other old kept
    rw [at?_set notRoot]
    by_cases here : other = place
    · exact .inr ⟨here, bytes, if_pos here⟩
    · rw [if_neg here]
      exact .inl kept
  · intro other still
    rw [at?_set notRoot]
    by_cases here : other = place
    · exact .inr (.inr ⟨here, bytes, if_pos here⟩)
    · rw [if_neg here]
      exact .inl still

theorem createDirectory (written : Place → Prop) {tree created : Tree} {path : Path}
    (done : tree.createDirectory path = .ok created) : Frame written tree created := by
  unfold Tree.createDirectory at done
  split at done
  · cases done
  · rename_i place _
    split at done
    · cases done
    · rename_i absent
      cases done
      exact set_directory written (by simpa using absent)

theorem createOrKeep (written : Place → Prop) (tree : Tree) (path : Path) :
    Frame written tree (tree.createOrKeep path).2 := by
  unfold Tree.createOrKeep
  split
  · rename_i created done
    exact createDirectory written done
  · split <;> exact refl written tree

/-- Directories that were created before a refusal stay, and are all that changes. -/
theorem createAbove (written : Place → Prop) (tree : Tree) (anchor : Anchor) (names : List Wide) :
    Frame written tree (tree.createAbove anchor names).2 := by
  induction names generalizing tree with
  | nil => exact createOrKeep written tree _
  | cons last above ih =>
    rw [Tree.createAbove]
    split
    · have prepared := ih tree
      split
      · rename_i _ reached made
        rw [made] at prepared
        exact prepared.trans (createOrKeep written reached _)
      · exact prepared
    · exact createOrKeep written tree _

theorem createDirectories (written : Place → Prop) (tree : Tree) (path : Path) :
    Frame written tree (tree.createDirectories path).2 := by
  unfold Tree.createDirectories
  split
  · exact refl written tree
  · exact createAbove written tree _ _

end Frame

/-- A name that leads to a place, or to a place where nothing stands yet, leads there once something
does. -/
theorem enter_of_target {old new : Tree} {written : Place → Prop} (frame : Frame written old new)
    {directory place : Place} {name : Wide}
    (targeted : (match old.enter directory name with
      | .error .missing => Except.ok (directory ++ [name])
      | result => result) = .ok place)
    (there : (new.at? place).isSome) : new.enter directory name = .ok place := by
  split at targeted
  · rename_i missing
    cases targeted
    unfold enter at missing ⊢
    split at missing
    · cases missing
    · rename_i isDirectory
      rw [frame.isDirectoryAt (by simpa using isDirectory)]
      split at missing
      · cases missing
      · rename_i notUp
        split at missing
        · cases missing
        · rename_i short
          simp [notUp, short, there]
  · exact frame.enter_ok targeted

/-- The place that a path names is where it leads once something stands there. -/
theorem locate_of_target {old new : Tree} {written : Place → Prop} (frame : Frame written old new)
    {path : Path} {place : Place} (targeted : old.target path = .ok place)
    (there : (new.at? place).isSome) : new.locate path = .ok place := by
  unfold target at targeted
  unfold locate
  split at targeted
  · cases targeted
  · rename_i short
    rw [if_neg short, frame.startOf]
    split at targeted
    · rename_i noNames
      rw [List.getLast?_eq_none_iff.1 noNames]
      exact targeted
    · rename_i last isLast
      split at targeted
      · cases targeted
      · rename_i directory followed
        obtain ⟨before, names⟩ := List.getLast?_eq_some_iff.1 isLast
        rw [names, List.dropLast_concat] at followed
        rw [names, follow_append, frame.follow_ok followed]
        simp only [follow, enter_of_target frame targeted there]

/-- A written file stands at the place that its path leads to from then on. -/
theorem write_ok {tree new : Tree} {path : Path} {bytes : List UInt8}
    (done : tree.write path bytes = .ok new) :
    path.refusal? = none ∧ ∃ place, new.locate path = .ok place ∧
      new.at? place = some (.file bytes) ∧ Frame (· = place) tree new := by
  unfold write at done
  split at done
  · cases done
  · rename_i clean
    refine ⟨clean, ?_⟩
    split at done
    · cases done
    · rename_i place targeted
      split at done
      · cases done
      · rename_i notDirectory
        cases done
        have free : tree.at? place ≠ some .directory := by
          simpa [isDirectoryAt] using notDirectory
        have frame := Frame.set_file bytes free
        have there : (tree.set place (.file bytes)).at? place = some (.file bytes) := by
          rw [at?_set (ne_root_of_at?_ne tree free), if_pos rfl]
        exact ⟨place, locate_of_target frame targeted (by simp [there]), there, frame⟩

/-- A directory that was created or kept is where its path leads. -/
theorem createOrKeep_ok {tree new : Tree} {path : Path}
    (done : tree.createOrKeep path = (none, new)) :
    ∃ place, new.locate path = .ok place ∧ new.isDirectoryAt place = true := by
  unfold createOrKeep at done
  split at done
  · rename_i created made
    cases done
    unfold createDirectory at made
    split at made
    · cases made
    · rename_i place targeted
      split at made
      · cases made
      · rename_i absent
        cases made
        have free : tree.at? place = none := by simpa using absent
        have notRoot : place ≠ [] := ne_root_of_at?_ne tree (by simp [free])
        have there : (tree.set place .directory).at? place = some .directory := by
          rw [at?_set notRoot, if_pos rfl]
        exact ⟨place, locate_of_target (Frame.set_directory (fun _ => False) free) targeted
          (by simp [there]), decide_eq_true there⟩
  · split at done
    · rename_i leads
      cases done
      unfold leadsToDirectory at leads
      split at leads
      · rename_i place located
        exact ⟨place, located, leads⟩
      · cases leads
    · cases done

/-- A directory that could be created is where its path leads. -/
theorem createDirectories_ok {tree new : Tree} {path : Path}
    (done : tree.createDirectories path = (none, new)) :
    ∃ place, new.locate path = .ok place ∧ new.isDirectoryAt place = true := by
  have same : (⟨path.anchor, path.names.reverse.reverse⟩ : Path) = path := by simp
  unfold createDirectories at done
  split at done
  · cases done
  · rw [← same]
    cases names : path.names.reverse with
    | nil =>
      rw [names] at done
      exact createOrKeep_ok done
    | cons last above =>
      rw [names, createAbove] at done
      split at done
      · split at done
        · exact createOrKeep_ok done
        · rename_i refused
          exact absurd done (refused new)
      · exact createOrKeep_ok done

/-- One more name leads below a directory, or out of it if it leads upwards. -/
theorem locate_concat {tree : Tree} {directory : Path} {name : Wide} {above place : Place}
    (isAbove : tree.locate directory = .ok above)
    (located : tree.locate ⟨directory.anchor, directory.names ++ [name]⟩ = .ok place) :
    place = if name = ".." then above.dropLast else above ++ [name] := by
  unfold locate at isAbove located
  split at isAbove
  · cases isAbove
  · split at located
    · cases located
    · have sameStart : tree.startOf ⟨directory.anchor, directory.names ++ [name]⟩ =
          tree.startOf directory := rfl
      rw [sameStart, follow_append, isAbove] at located
      simp only [follow] at located
      split at located
      · rename_i next entered
        cases located
        unfold enter at entered
        split at entered
        · cases entered
        · split at entered
          · rename_i up
            cases entered
            rw [if_pos up]
          · rename_i notUp
            rw [if_neg notUp]
            split at entered
            · cases entered
            · split at entered
              · cases entered
                rfl
              · cases entered
      · cases located

/-- A name that does not lead upwards leads to the place below a directory. -/
theorem locate_name {tree : Tree} {directory : Path} {name : Wide} {above place : Place}
    (notUp : name ≠ "..") (isAbove : tree.locate directory = .ok above)
    (located : tree.locate ⟨directory.anchor, directory.names ++ [name]⟩ = .ok place) :
    place = above ++ [name] := by
  rw [locate_concat isAbove located, if_neg notUp]

end EndpointDocs.Tree
