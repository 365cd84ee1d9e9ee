import EndpointDocs.Proofs.Payload.Wrapper
import EndpointDocs.Proofs.Text.Pieces

/-!
The alternatives of a declared type. Those that are not `None` decide what is left when the optional
part is removed: a single one takes the place of the text, and several leave it as it stands. Bars
count wherever they stand, also inside the brackets of a wrapper.
-/
namespace EndpointDocs.FieldType

/-- The alternatives of a text that are not `None`. -/
def alternatives (text : List Char) : List (List Char) :=
  ((text.splitOn '|').map Text.trimChars).filter (· != "None".toList)

/-- `None` as an alternative behind a type. -/
def orNoneText : String :=
  " | None"

def noneOrText : String :=
  "None | "

section Alternatives

variable {text only : List Char}

theorem alternatives_append (first second : List Char) :
    alternatives (first ++ '|' :: second) = alternatives first ++ alternatives second := by
  simp [alternatives, List.splitOn_append_cons_self]

theorem alternatives_of_not_mem (single : '|' ∉ text) :
    alternatives text = [Text.trimChars text].filter (· != "None".toList) := by
  rw [alternatives, List.splitOn_eq_singleton single, List.map_singleton]

theorem alternatives_of_trimmed (single : '|' ∉ text) (trimmed : Text.IsTrimmed Text.isBlank text)
    (notNone : text ≠ "None".toList) : alternatives text = [text] := by
  rw [alternatives_of_not_mem single, Text.trimChars, Text.trimBy_of_isTrimmed trimmed]
  simpa using notNone

theorem bar_not_blank : Text.isBlank '|' = false := by
  decide

theorem ne_bar_of_isBlank {c : Char} (blank : Text.isBlank c = true) : c ≠ '|' := by
  rintro rfl
  rw [bar_not_blank] at blank
  cases blank

/-- A blank at the end changes no alternative. -/
theorem alternatives_concat_blank {c : Char} (text : List Char) (blank : Text.isBlank c = true) :
    alternatives (text ++ [c]) = alternatives text := by
  induction text using Text.piece_induction '|' with
  | single text whole =>
    have wholeToo : '|' ∉ text ++ [c] := by simpa [whole] using Ne.symm (ne_bar_of_isBlank blank)
    rw [alternatives_of_not_mem wholeToo, alternatives_of_not_mem whole, Text.trimChars,
      Text.trimBy_concat_of_pos text blank, Text.trimChars]
  | more first rest whole ih =>
    rw [List.append_assoc, List.cons_append, alternatives_append, ih, alternatives_append]

/-- A blank in front changes no alternative. -/
theorem alternatives_cons_blank {c : Char} (text : List Char) (blank : Text.isBlank c = true) :
    alternatives (c :: text) = alternatives text := by
  have single (text : List Char) (whole : '|' ∉ text) :
      alternatives (c :: text) = alternatives text := by
    have wholeToo : '|' ∉ c :: text := by simpa [whole] using Ne.symm (ne_bar_of_isBlank blank)
    rw [alternatives_of_not_mem wholeToo, alternatives_of_not_mem whole, Text.trimChars,
      Text.trimBy_cons_of_pos text blank, Text.trimChars]
  induction text using Text.piece_induction '|' with
  | single text whole => exact single text whole
  | more first rest whole _ =>
    rw [← List.cons_append, alternatives_append, single first whole, alternatives_append]

/-- Adding `None` as an alternative adds none that counts. -/
theorem alternatives_orNone (text : List Char) :
    alternatives (text ++ orNoneText.toList) = alternatives text := by
  have split : text ++ orNoneText.toList = (text ++ [' ']) ++ '|' :: " None".toList := by
    rw [List.append_assoc]
    rfl
  have nothing : alternatives " None".toList = [] := by decide
  rw [split, alternatives_append, nothing, List.append_nil,
    alternatives_concat_blank text (by decide)]

theorem alternatives_noneOr (text : List Char) :
    alternatives (noneOrText.toList ++ text) = alternatives text := by
  have split : noneOrText.toList ++ text = "None ".toList ++ '|' :: ' ' :: text := rfl
  have nothing : alternatives "None ".toList = [] := by decide
  rw [split, alternatives_append, nothing, List.nil_append,
    alternatives_cons_blank text (by decide)]

theorem ne_none_of_mem {c : Char} (listed : c ∈ text) (foreign : c ∉ "None".toList) :
    text ≠ "None".toList :=
  fun isNone => foreign (isNone ▸ listed)

/-- A character that `None` does not have is in an alternative that counts. -/
theorem alternatives_ne_nil {c : Char} (listed : c ∈ text) (notBlank : Text.isBlank c = false)
    (notBar : c ≠ '|') (foreign : c ∉ "None".toList) : alternatives text ≠ [] := by
  have single (text : List Char) (whole : '|' ∉ text) (listed : c ∈ text) :
      alternatives text ≠ [] := by
    have kept : c ∈ Text.trimChars text := Text.mem_trimBy_of_neg listed notBlank
    have notNone := ne_none_of_mem kept foreign
    rw [alternatives_of_not_mem whole]
    intro nothing
    exact List.filter_eq_nil_iff.1 nothing _ (List.mem_singleton_self _) (bne_iff_ne.2 notNone)
  induction text using Text.piece_induction '|' with
  | single text whole => exact single text whole listed
  | more first rest whole ih =>
    rw [alternatives_append]
    rcases List.mem_append.1 listed with early | late
    · exact List.append_ne_nil_of_left_ne_nil (single first whole early) _
    · have further : c ∈ rest := (List.mem_cons.1 late).resolve_left notBar
      exact List.append_ne_nil_of_right_ne_nil _ (ih further)

theorem stripOptional_of_inside {inner : List Char} (trimmed : Text.IsTrimmed Text.isBlank text)
    (found : inside? ["Optional"] text = some inner) :
    stripOptional text = Text.trimChars inner := by
  simp [stripOptional, Text.trimChars, Text.trimBy_of_isTrimmed trimmed, found]

/-- Outside of a wrapper, the only alternative that is not `None` is the type. -/
theorem stripOptional_of_one (trimmed : Text.IsTrimmed Text.isBlank text)
    (unwrapped : inside? ["Optional"] text = none) (one : alternatives text = [only]) :
    stripOptional text = only := by
  have kept : Text.trimChars text = text := Text.trimBy_of_isTrimmed trimmed
  have filtered := one
  rw [alternatives] at filtered
  simp only [stripOptional, kept, unwrapped, filtered]
  split
  · rfl
  · rename_i few
    have single : '|' ∉ text := by
      intro several
      obtain ⟨first, rest, rfl, _⟩ := List.eq_append_cons_of_mem several
      have firstPieces := List.length_pos_iff.2 (List.splitOn_ne_nil '|' first)
      have restPieces := List.length_pos_iff.2 (List.splitOn_ne_nil '|' rest)
      rw [List.splitOn_append_cons_self, List.length_map, List.length_append] at few
      omega
    rw [alternatives_of_not_mem single, kept] at one
    have listed : only ∈ [text].filter (· != "None".toList) := one ▸ List.mem_singleton_self only
    exact (List.mem_singleton.1 (List.mem_filter.1 listed).1).symm

theorem stripOptional_of_many (trimmed : Text.IsTrimmed Text.isBlank text)
    (unwrapped : inside? ["Optional"] text = none) (many : 1 < (alternatives text).length) :
    stripOptional text = text := by
  have kept : Text.trimChars text = text := Text.trimBy_of_isTrimmed trimmed
  rw [alternatives] at many
  simp only [stripOptional, kept, unwrapped]
  split
  · rename_i one
    rw [one] at many
    simp at many
  · rfl

/-- A text that can be wrapped: one line without blanks at its ends, and not `None`. -/
structure IsSolid (text : List Char) : Prop where
  nonempty : text ≠ []
  trimmed : Text.IsTrimmed Text.isBlank text
  oneLine : '\n' ∉ text
  notNone : text ≠ "None".toList

theorem DottedName.isSolid (name : DottedName) : IsSolid name.text where
  nonempty := name.text_ne_nil
  trimmed := isTrimmed_of_named name.named
  oneLine := name.not_mem_text (by decide)
  notNone := name.text_ne_none

theorem Wrapper.isSolid_on {kind : WrapperKind} (wrapper : Wrapper kind) (oneLine : '\n' ∉ text) :
    IsSolid (wrapper.on text) where
  nonempty := by simp [Wrapper.on]
  trimmed := by
    have named := isTrimmed_of_named wrapper.named
    have closed : Text.IsTrimmed Text.isBlank [']'] :=
      Text.isTrimmed_of_forall (List.forall_mem_singleton.2 (by decide))
    exact named.around closed wrapper.head_ne_nil (by simp) ('[' :: text)
  oneLine := by
    have head := wrapper.not_mem_head (c := '\n') (by decide)
    simp [Wrapper.on, head, oneLine]
  notNone := ne_none_of_mem (c := '[') (by simp [Wrapper.on]) (by decide)

theorem isTrimmed_none : Text.IsTrimmed Text.isBlank "None".toList :=
  isTrimmed_of_named (by decide)

theorem IsSolid.orNone (solid : IsSolid text) : IsSolid (text ++ orNoneText.toList) where
  nonempty := by simp [solid.nonempty]
  trimmed := solid.trimmed.around isTrimmed_none solid.nonempty (by decide) " | ".toList
  oneLine := List.not_mem_append solid.oneLine (by decide)
  notNone := ne_none_of_mem (c := '|') (List.mem_append_right text (by decide)) (by decide)

theorem IsSolid.noneOr (solid : IsSolid text) : IsSolid (noneOrText.toList ++ text) where
  nonempty := by simp [solid.nonempty]
  trimmed := isTrimmed_none.around solid.trimmed (by decide) solid.nonempty " | ".toList
  oneLine := List.not_mem_append (by decide) solid.oneLine
  notNone := ne_none_of_mem (c := '|') (List.mem_append_left text (by decide)) (by decide)

theorem IsSolid.brackets (solid : IsSolid text) : IsSolid ('[' :: ']' :: text) where
  nonempty := List.cons_ne_nil _ _
  trimmed := by
    have first : Text.IsTrimmed Text.isBlank ['['] :=
      Text.isTrimmed_of_forall (List.forall_mem_singleton.2 (by decide))
    exact first.around solid.trimmed (by decide) solid.nonempty [']']
  oneLine := by simp [solid.oneLine]
  notNone := ne_none_of_mem (c := '[') List.mem_cons_self (by decide)

/-- Text that ends with an alternative is no wrapper. -/
theorem inside?_orNone (names : List String) (text : List Char) :
    inside? names (text ++ orNoneText.toList) = none := by
  have last : orNoneText.toList.getLast? = some 'e' := by decide
  apply inside?_eq_none_of_last
  rw [List.getLast?_append, last]
  simp

/-- Text that begins with an alternative is no wrapper: a blank stands before its brackets. -/
theorem inside?_noneOr (kind : WrapperKind) (text : List Char) :
    inside? kind.names (noneOrText.toList ++ text) = none := by
  have head : Text.before '[' (noneOrText.toList ++ text) =
      noneOrText.toList ++ Text.before '[' text :=
    List.takeWhile_append_of_pos (List.all_eq_true.1 (by decide))
  apply inside?_eq_none_of_head
  cases isOne : isWrapper kind.names (Text.before '[' (noneOrText.toList ++ text)) with
  | false => rfl
  | true =>
    have named := Wrapper.named_of_isWrapper isOne
    rw [head, List.all_append, Bool.and_eq_true] at named
    exact absurd named.1 (by decide)

theorem stripOptional_on (wrapper : Wrapper .optional) (solid : IsSolid text) :
    stripOptional (wrapper.on text) = text := by
  have found : inside? ["Optional"] (wrapper.on text) = some text :=
    inside?_on wrapper solid.nonempty solid.oneLine
  rw [stripOptional_of_inside (wrapper.isSolid_on solid.oneLine).trimmed found, Text.trimChars,
    Text.trimBy_of_isTrimmed solid.trimmed]

/-- A text of one alternative and without wrapper stays. -/
theorem stripOptional_of_single (solid : IsSolid text) (single : '|' ∉ text)
    (unwrapped : inside? ["Optional"] text = none) : stripOptional text = text :=
  stripOptional_of_one solid.trimmed unwrapped
    (alternatives_of_trimmed single solid.trimmed solid.notNone)

theorem stripOptional_orNone (solid : IsSolid text) (single : '|' ∉ text) :
    stripOptional (text ++ orNoneText.toList) = text := by
  apply stripOptional_of_one solid.orNone.trimmed (inside?_orNone _ text)
  rw [alternatives_orNone]
  exact alternatives_of_trimmed single solid.trimmed solid.notNone

theorem stripOptional_noneOr (solid : IsSolid text) (single : '|' ∉ text) :
    stripOptional (noneOrText.toList ++ text) = text := by
  apply stripOptional_of_one solid.noneOr.trimmed (inside?_noneOr .optional text)
  rw [alternatives_noneOr]
  exact alternatives_of_trimmed single solid.trimmed solid.notNone

theorem DottedName.stripOptional_text (name : DottedName) : stripOptional name.text = name.text :=
  stripOptional_of_single name.isSolid (name.not_mem_text (by decide))
    (inside?_of_not_mem (name.not_mem_text (by decide)))

/-- Bars inside the brackets of a wrapper leave two alternatives that count: one with the bracket
that opens and one with the bracket that closes. -/
theorem Wrapper.alternatives_on {kind : WrapperKind} (wrapper : Wrapper kind)
    (several : '|' ∈ text) : 1 < (alternatives (wrapper.on text)).length := by
  obtain ⟨first, rest, rfl, _⟩ := List.eq_append_cons_of_mem several
  have split : wrapper.on (first ++ '|' :: rest) =
      (wrapper.head ++ '[' :: first) ++ '|' :: (rest ++ [']']) := by
    simp [Wrapper.on]
  have opened : alternatives (wrapper.head ++ '[' :: first) ≠ [] :=
    alternatives_ne_nil (c := '[') (by simp) (by decide) (by decide) (by decide)
  have closed : alternatives (rest ++ [']']) ≠ [] :=
    alternatives_ne_nil (c := ']') (by simp) (by decide) (by decide) (by decide)
  have openedCount := List.length_pos_iff.2 opened
  have closedCount := List.length_pos_iff.2 closed
  rw [split, alternatives_append, List.length_append]
  omega

theorem Wrapper.bar_not_mem_on {kind : WrapperKind} (wrapper : Wrapper kind)
    (single : '|' ∉ text) : '|' ∉ wrapper.on text := by
  have head := wrapper.not_mem_head (c := '|') (by decide)
  simp [Wrapper.on, head, single]

/-- A collection or a tuple is no optional type, whatever is inside its brackets. -/
theorem Wrapper.stripOptional_on_of_ne {kind : WrapperKind} (wrapper : Wrapper kind)
    (slice : .optional ≠ kind) (oneLine : '\n' ∉ text) :
    stripOptional (wrapper.on text) = wrapper.on text := by
  have solid := wrapper.isSolid_on oneLine
  have unwrapped : inside? ["Optional"] (wrapper.on text) = none :=
    inside?_head_of_ne wrapper .optional slice _
  by_cases several : '|' ∈ text
  · exact stripOptional_of_many solid.trimmed unwrapped (wrapper.alternatives_on several)
  · exact stripOptional_of_single solid (wrapper.bar_not_mem_on several) unwrapped

end Alternatives

end EndpointDocs.FieldType
