import EndpointDocs.Proofs.Payload.Alternatives

/-!
The ways to write a declared type: a dotted name that may be optional, a slice of that, and the
whole made optional once more. However these are combined, the type is read as it was written: the
slice is seen and the name is found.
-/
namespace EndpointDocs.FieldType

/-- How a type is made optional. -/
inductive OptionalForm where
  | absent
  | wrapped (wrapper : Wrapper .optional)
  | orNone
  | noneOr

inductive SliceForm where
  | absent
  | brackets
  | collection (wrapper : Wrapper .collection)
  | tuple (wrapper : Wrapper .tuple)

namespace OptionalForm

def on (form : OptionalForm) (text : List Char) : List Char :=
  match form with
  | absent => text
  | wrapped wrapper => wrapper.on text
  | orNone => text ++ orNoneText.toList
  | noneOr => noneOrText.toList ++ text

def isAlternative : OptionalForm → Bool
  | absent => false
  | wrapped _ => false
  | orNone => true
  | noneOr => true

end OptionalForm

namespace SliceForm

def on (form : SliceForm) (text : List Char) : List Char :=
  match form with
  | absent => text
  | brackets => '[' :: ']' :: text
  | collection wrapper => wrapper.on text
  | tuple wrapper => wrapper.on (text ++ ellipsis.toList)

def isSlice : SliceForm → Bool
  | absent => false
  | brackets => true
  | collection _ => true
  | tuple _ => true

def isTuple : SliceForm → Bool
  | absent => false
  | brackets => false
  | collection _ => false
  | tuple _ => true

end SliceForm

variable {text : List Char}

theorem OptionalForm.isSolid_on (form : OptionalForm) (solid : IsSolid text) :
    IsSolid (form.on text) := by
  cases form with
  | absent => exact solid
  | wrapped wrapper => exact wrapper.isSolid_on solid.oneLine
  | orNone => exact solid.orNone
  | noneOr => exact solid.noneOr

theorem SliceForm.isSolid_on (form : SliceForm) (solid : IsSolid text) :
    IsSolid (form.on text) := by
  cases form with
  | absent => exact solid
  | brackets => exact solid.brackets
  | collection wrapper => exact wrapper.isSolid_on solid.oneLine
  | tuple wrapper => exact wrapper.isSolid_on (List.not_mem_append solid.oneLine (by decide))

/-- The optional form is removed from a text that was no optional one without it. -/
theorem OptionalForm.stripOptional_on (form : OptionalForm) (solid : IsSolid text)
    (single : form.isAlternative = true → '|' ∉ text)
    (required : stripOptional text = text) : stripOptional (form.on text) = text := by
  cases form with
  | absent => exact required
  | wrapped wrapper => exact FieldType.stripOptional_on wrapper solid
  | orNone => exact stripOptional_orNone solid (single rfl)
  | noneOr => exact stripOptional_noneOr solid (single rfl)

theorem OptionalForm.stripOptional_name (form : OptionalForm) (name : DottedName) :
    stripOptional (form.on name.text) = name.text :=
  form.stripOptional_on name.isSolid (fun _ => name.not_mem_text (by decide))
    name.stripOptional_text

theorem SliceForm.on_of_not_isSlice {slice : SliceForm} (absent : slice.isSlice = false)
    (text : List Char) : slice.on text = text := by
  cases slice with
  | absent => rfl
  | brackets => cases absent
  | collection => cases absent
  | tuple => cases absent

/-- Behind brackets an alternative at the end belongs to the whole and is removed; one in front
stays. -/
theorem stripOptional_brackets (inner : OptionalForm) (name : DottedName) :
    ∃ kept : OptionalForm, (kept = inner ∨ kept = .absent) ∧
      stripOptional ('[' :: ']' :: inner.on name.text) = '[' :: ']' :: kept.on name.text := by
  have solid := (inner.isSolid_on name.isSolid).brackets
  have unwrapped : inside? ["Optional"] ('[' :: ']' :: inner.on name.text) = none :=
    inside?_brackets .optional _
  have noBar : '|' ∉ name.text := name.not_mem_text (by decide)
  cases inner with
  | absent =>
    refine ⟨.absent, .inl rfl, stripOptional_of_single solid ?_ unwrapped⟩
    simp [OptionalForm.on, noBar]
  | wrapped wrapper =>
    have stillNoBar := wrapper.bar_not_mem_on noBar
    refine ⟨.wrapped wrapper, .inl rfl, stripOptional_of_single solid ?_ unwrapped⟩
    simp [OptionalForm.on, stillNoBar]
  | orNone =>
    have joined : '[' :: ']' :: OptionalForm.orNone.on name.text =
        ('[' :: ']' :: name.text) ++ orNoneText.toList := rfl
    refine ⟨.absent, .inr rfl, ?_⟩
    rw [joined]
    exact stripOptional_orNone name.isSolid.brackets (by simp [noBar])
  | noneOr =>
    have split : '[' :: ']' :: OptionalForm.noneOr.on name.text =
        "[]None ".toList ++ '|' :: ' ' :: name.text := rfl
    have first : alternatives "[]None ".toList = ["[]None".toList] := by decide
    refine ⟨.noneOr, .inl rfl, stripOptional_of_many solid.trimmed unwrapped ?_⟩
    rw [split, alternatives_append, first, alternatives_cons_blank name.text (by decide),
      alternatives_of_trimmed noBar name.isSolid.trimmed name.isSolid.notNone]
    simp only [List.length_append, List.length_singleton]
    omega

/-- Removing the optional part of a whole type leaves its slice, and the name inside as it was or
no longer optional. -/
theorem stripOptional_written (name : DottedName) (inner : OptionalForm) (slice : SliceForm)
    (outer : OptionalForm)
    (single : outer.isAlternative = true → '|' ∉ slice.on (inner.on name.text)) :
    ∃ kept : OptionalForm, (kept = inner ∨ kept = .absent) ∧
      stripOptional (outer.on (slice.on (inner.on name.text))) = slice.on (kept.on name.text) := by
  have element := inner.isSolid_on name.isSolid
  have solid := slice.isSolid_on element
  cases outer with
  | wrapped wrapper => exact ⟨inner, .inl rfl, stripOptional_on wrapper solid⟩
  | orNone => exact ⟨inner, .inl rfl, stripOptional_orNone solid (single rfl)⟩
  | noneOr => exact ⟨inner, .inl rfl, stripOptional_noneOr solid (single rfl)⟩
  | absent =>
    cases slice with
    | absent => exact ⟨.absent, .inr rfl, inner.stripOptional_name name⟩
    | brackets => exact stripOptional_brackets inner name
    | collection wrapper =>
      exact ⟨inner, .inl rfl, wrapper.stripOptional_on_of_ne (by decide) element.oneLine⟩
    | tuple wrapper =>
      have oneLine := List.not_mem_append element.oneLine (by decide : '\n' ∉ ellipsis.toList)
      exact ⟨inner, .inl rfl, wrapper.stripOptional_on_of_ne (by decide) oneLine⟩

theorem OptionalForm.element?_on (form : OptionalForm) (name : DottedName) :
    element? (form.on name.text) = none := by
  have noBracket : '[' ∉ name.text := name.not_mem_text (by decide)
  cases form with
  | wrapped wrapper => exact element?_optional wrapper _
  | absent => exact element?_of_not_mem noBracket
  | orNone => exact element?_of_not_mem (List.not_mem_append noBracket (by decide))
  | noneOr => exact element?_of_not_mem (List.not_mem_append (by decide) noBracket)

/-- Without brackets a name in an optional form has no comma either. -/
theorem OptionalForm.not_mem_on {form : OptionalForm} {name : DottedName} {c : Char}
    (unbracketed : '[' ∉ form.on name.text) (notName : isNameChar c = false)
    (foreign : c ∉ orNoneText.toList ++ noneOrText.toList) : c ∉ form.on name.text := by
  have absent : c ∉ name.text := name.not_mem_text notName
  rw [List.mem_append, not_or] at foreign
  cases form with
  | absent => exact absent
  | wrapped wrapper => exact absurd (by simp [OptionalForm.on, Wrapper.on]) unbracketed
  | orNone => exact List.not_mem_append absent foreign.1
  | noneOr => exact List.not_mem_append foreign.2 absent

/-- A slice gives its element, and what is no slice gives none. -/
theorem SliceForm.element?_on (slice : SliceForm) (form : OptionalForm) (name : DottedName)
    (unbracketed : slice.isTuple = true → '[' ∉ form.on name.text) :
    element? (slice.on (form.on name.text)) =
      if slice.isSlice then some (form.on name.text) else none := by
  have solid := form.isSolid_on name.isSolid
  cases slice with
  | absent => exact form.element?_on name
  | brackets => rfl
  | collection wrapper => exact element?_collection wrapper solid.nonempty solid.oneLine
  | tuple wrapper =>
    have plain := unbracketed rfl
    exact element?_tuple wrapper solid.nonempty
      (OptionalForm.not_mem_on plain (by decide) (by decide))
      (OptionalForm.not_mem_on plain (by decide) (by decide))

/-- However a type is made optional and a slice, its base is the name inside. -/
theorem baseOf_written (name : DottedName) (inner : OptionalForm) (slice : SliceForm)
    (outer : OptionalForm) (unbracketed : slice.isTuple = true → '[' ∉ inner.on name.text)
    (single : outer.isAlternative = true → '|' ∉ slice.on (inner.on name.text)) :
    baseOf (outer.on (slice.on (inner.on name.text))) = (slice.isSlice, name.base) := by
  obtain ⟨kept, which, stripped⟩ := stripOptional_written name inner slice outer single
  have keptUnbracketed : slice.isTuple = true → '[' ∉ kept.on name.text := by
    intro isTuple
    rcases which with rfl | rfl
    · exact unbracketed isTuple
    · exact name.not_mem_text (by decide)
  have found := slice.element?_on kept name keptUnbracketed
  rw [baseOf, stripped]
  cases sliced : slice.isSlice with
  | true =>
    rw [sliced] at found
    simp only [found, if_true, kept.stripOptional_name, name.afterLast_text]
  | false =>
    rw [sliced, slice.on_of_not_isSlice sliced] at found
    rw [slice.on_of_not_isSlice sliced]
    simp only [found, Bool.false_eq_true, if_false, kept.stripOptional_name, name.afterLast_text]

/-- However a type is written, it is read as a slice exactly if it was written as one, and its base
type is the name inside. -/
theorem analyze_written (registry : Registry) (name : DottedName) (inner : OptionalForm)
    (slice : SliceForm) (outer : OptionalForm)
    (unbracketed : slice.isTuple = true → '[' ∉ inner.on name.text)
    (single : outer.isAlternative = true → '|' ∉ slice.on (inner.on name.text)) :
    analyze registry (String.ofList (outer.on (slice.on (inner.on name.text)))) =
      ⟨slice.isSlice, registry.has (String.ofList name.base), String.ofList name.base⟩ := by
  have base := baseOf_written name inner slice outer unbracketed single
  simp only [analyze, String.toList_ofList, base]

def geoName : DottedName where
  qualifier := "pkg.maps".toList
  base := "Geo".toList
  qualified := by decide
  word := by decide
  nonempty := by decide
  notNone := by decide

def typingTuple : Wrapper .tuple where
  qualifier := "typing".toList
  name := "Tuple"
  qualified := by decide
  listed := by decide

theorem analyze_written_tuple :
    '[' ∉ geoName.text ∧ '|' ∉ (SliceForm.tuple typingTuple).on geoName.text ∧
      analyze (Registry.empty.register "Geo" []) "None | typing.Tuple[pkg.maps.Geo, ...]" =
        ⟨true, true, "Geo"⟩ := by
  have unbracketed : '[' ∉ geoName.text := by decide
  have single : '|' ∉ (SliceForm.tuple typingTuple).on geoName.text := by decide
  have written : String.ofList (OptionalForm.noneOr.on
      ((SliceForm.tuple typingTuple).on (OptionalForm.absent.on geoName.text))) =
        "None | typing.Tuple[pkg.maps.Geo, ...]" := by
    decide
  have read := analyze_written (Registry.empty.register "Geo" []) geoName .absent
    (.tuple typingTuple) .noneOr (fun _ => unbracketed) (fun _ => single)
  rw [written] at read
  exact ⟨unbracketed, single, read⟩

end EndpointDocs.FieldType
