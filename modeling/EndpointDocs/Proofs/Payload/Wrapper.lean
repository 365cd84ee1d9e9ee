import EndpointDocs.Payload.FieldType
import EndpointDocs.Proofs.Text.Cut
import EndpointDocs.Proofs.Text.Trim

/-!
Names and wrappers of declared types, and how the brackets of a wrapper are read. Names and wrappers
carry the fact that their characters are no brackets, bars or blanks, so a wrapper is found wherever
it encloses a text, and never taken for one of another kind.
-/
namespace EndpointDocs.FieldType

/-- A name behind a qualifier, if there is one. -/
def qualify (qualifier name : List Char) : List Char :=
  if qualifier.isEmpty then name else qualifier ++ '.' :: name

theorem isNameChar_qualify {qualifier name : List Char}
    (qualifierNamed : qualifier.all isNameChar = true) (named : name.all isNameChar = true) :
    (qualify qualifier name).all isNameChar = true := by
  unfold qualify
  split
  · exact named
  · simp only [List.all_append, List.all_cons, qualifierNamed, named, Bool.and_true, Bool.true_and]
    decide

theorem afterLast_qualify (qualifier : List Char) {name : List Char} (undotted : '.' ∉ name) :
    Text.afterLast '.' (qualify qualifier name) = name := by
  unfold qualify
  split
  · exact Text.afterLast_of_not_mem undotted
  · exact Text.afterLast_append_cons qualifier undotted

theorem isBlank_of_isNameChar {c : Char} (named : isNameChar c = true) :
    Text.isBlank c = false := by
  rw [isNameChar, Bool.or_eq_true, beq_iff_eq] at named
  rcases named with word | rfl
  · exact Text.isBlank_of_isWord word
  · decide

theorem not_mem_of_named {text : List Char} (named : text.all isNameChar = true) {c : Char}
    (other : isNameChar c = false) : c ∉ text := by
  intro listed
  have isName := List.all_eq_true.1 named c listed
  rw [other] at isName
  cases isName

theorem isTrimmed_of_named {text : List Char} (named : text.all isNameChar = true) :
    Text.IsTrimmed Text.isBlank text :=
  Text.isTrimmed_of_forall fun c listed =>
    isBlank_of_isNameChar (List.all_eq_true.1 named c listed)

/-- The name of a type, with or without its module. -/
structure DottedName where
  qualifier : List Char
  base : List Char
  qualified : qualifier.all isNameChar = true
  word : base.all Text.isWord = true
  nonempty : base ≠ []
  notNone : base ≠ "None".toList

namespace DottedName

def text (name : DottedName) : List Char :=
  qualify name.qualifier name.base

theorem undotted (name : DottedName) : '.' ∉ name.base := by
  intro dot
  exact absurd (List.all_eq_true.1 name.word '.' dot) (by decide)

theorem afterLast_text (name : DottedName) : Text.afterLast '.' name.text = name.base :=
  afterLast_qualify name.qualifier name.undotted

theorem named (name : DottedName) : name.text.all isNameChar = true := by
  apply isNameChar_qualify name.qualified
  rw [List.all_eq_true]
  intro c listed
  simp [isNameChar, List.all_eq_true.1 name.word c listed]

theorem not_mem_text (name : DottedName) {c : Char} (other : isNameChar c = false) :
    c ∉ name.text :=
  not_mem_of_named name.named other

theorem text_ne_nil (name : DottedName) : name.text ≠ [] := by
  intro nothing
  have base := name.afterLast_text
  rw [nothing] at base
  exact name.nonempty base.symm

theorem text_ne_none (name : DottedName) : name.text ≠ "None".toList := by
  intro isNone
  have base := name.afterLast_text
  rw [isNone] at base
  exact name.notNone base.symm

end DottedName

/-- What a wrapper makes of the type inside it. -/
inductive WrapperKind where
  | optional
  | collection
  | tuple
  deriving DecidableEq, Repr

def WrapperKind.names : WrapperKind → List String
  | .optional => ["Optional"]
  | .collection => collections
  | .tuple => ["tuple", "Tuple"]

theorem WrapperKind.words (kind : WrapperKind) :
    (kind.names.all fun name => !name.isEmpty && name.toList.all Text.isWord) = true := by
  cases kind <;> decide

theorem WrapperKind.eq_of_common {kind other : WrapperKind} {name : String}
    (listed : name ∈ kind.names) (otherListed : name ∈ other.names) : other = kind := by
  have separate : ∀ first second : WrapperKind,
      (first.names.all fun name => !second.names.contains name || second == first) = true := by
    intro first second
    cases first <;> cases second <;> decide
  simpa [otherListed] using List.all_eq_true.1 (separate kind other) name listed

/-- A wrapper of one kind, with or without its module. -/
structure Wrapper (kind : WrapperKind) where
  qualifier : List Char
  name : String
  qualified : qualifier.all isNameChar = true
  listed : name ∈ kind.names

namespace Wrapper

variable {kind : WrapperKind}

def head (wrapper : Wrapper kind) : List Char :=
  qualify wrapper.qualifier wrapper.name.toList

/-- A type inside the brackets. -/
def on (wrapper : Wrapper kind) (inner : List Char) : List Char :=
  wrapper.head ++ '[' :: (inner ++ [']'])

theorem word (wrapper : Wrapper kind) : wrapper.name.toList.all Text.isWord = true := by
  have word := List.all_eq_true.1 kind.words wrapper.name wrapper.listed
  rw [Bool.and_eq_true] at word
  exact word.2

theorem undotted (wrapper : Wrapper kind) : '.' ∉ wrapper.name.toList := by
  intro dot
  exact absurd (List.all_eq_true.1 wrapper.word '.' dot) (by decide)

theorem named (wrapper : Wrapper kind) : wrapper.head.all isNameChar = true := by
  apply isNameChar_qualify wrapper.qualified
  rw [List.all_eq_true]
  intro c listed
  simp [isNameChar, List.all_eq_true.1 wrapper.word c listed]

theorem afterLast_head (wrapper : Wrapper kind) :
    Text.afterLast '.' wrapper.head = wrapper.name.toList :=
  afterLast_qualify wrapper.qualifier wrapper.undotted

theorem head_ne_nil (wrapper : Wrapper kind) : wrapper.head ≠ [] := by
  have nonempty := List.all_eq_true.1 kind.words wrapper.name wrapper.listed
  rw [Bool.and_eq_true] at nonempty
  intro nothing
  have name := wrapper.afterLast_head
  rw [nothing] at name
  have empty : wrapper.name = "" := String.toList_inj.1 name.symm
  simp [empty] at nonempty

/-- A wrapper is recognised with its module and without it. -/
theorem isWrapper_head (wrapper : Wrapper kind) : isWrapper kind.names wrapper.head = true := by
  rw [isWrapper, List.any_eq_true]
  refine ⟨wrapper.name, wrapper.listed, ?_⟩
  have named := wrapper.named
  unfold head qualify at named ⊢
  split
  · simp
  · rename_i qualifier
    rw [if_neg qualifier] at named
    have suffix : ('.' :: wrapper.name.toList).isSuffixOf
        (wrapper.qualifier ++ '.' :: wrapper.name.toList) = true := by
      rw [List.isSuffixOf_iff_suffix]
      exact List.suffix_append _ _
    have longer : 0 < wrapper.qualifier.length :=
      List.length_pos_iff.2 (by simpa using qualifier)
    simp only [suffix, named, Bool.and_true, Bool.true_and, Bool.or_eq_true, decide_eq_true_eq,
      List.length_append, List.length_cons, String.length_toList]
    omega

theorem afterLast_of_isWrapper {head : List Char} (isOne : isWrapper kind.names head = true) :
    ∃ name ∈ kind.names, Text.afterLast '.' head = name.toList := by
  rw [isWrapper, List.any_eq_true] at isOne
  obtain ⟨name, listed, whole⟩ := isOne
  have undotted : '.' ∉ name.toList := Wrapper.undotted ⟨[], name, rfl, listed⟩
  refine ⟨name, listed, ?_⟩
  simp only [Bool.or_eq_true, Bool.and_eq_true, beq_iff_eq, List.isSuffixOf_iff_suffix] at whole
  rcases whole with rfl | ⟨⟨⟨before, rfl⟩, _⟩, _⟩
  · exact Text.afterLast_of_not_mem undotted
  · exact Text.afterLast_append_cons before undotted

/-- What stands before the brackets of a wrapper is a name. -/
theorem named_of_isWrapper {head : List Char} (isOne : isWrapper kind.names head = true) :
    head.all isNameChar = true := by
  rw [isWrapper, List.any_eq_true] at isOne
  obtain ⟨name, listed, whole⟩ := isOne
  simp only [Bool.or_eq_true, Bool.and_eq_true, beq_iff_eq] at whole
  rcases whole with rfl | ⟨⟨_, named⟩, _⟩
  · exact Wrapper.named ⟨[], name, rfl, listed⟩
  · exact named

/-- Wrappers of different kinds are never taken for each other. -/
theorem isWrapper_head_iff (wrapper : Wrapper kind) (other : WrapperKind) :
    isWrapper other.names wrapper.head = true ↔ other = kind := by
  constructor
  · intro isOne
    obtain ⟨name, listed, same⟩ := afterLast_of_isWrapper isOne
    rw [wrapper.afterLast_head, String.toList_inj] at same
    exact WrapperKind.eq_of_common wrapper.listed (same ▸ listed)
  · rintro rfl
    exact wrapper.isWrapper_head

theorem not_mem_head (wrapper : Wrapper kind) {c : Char} (other : isNameChar c = false) :
    c ∉ wrapper.head :=
  not_mem_of_named wrapper.named other

theorem before_head (wrapper : Wrapper kind) (rest : List Char) :
    Text.before '[' (wrapper.head ++ '[' :: rest) = wrapper.head :=
  Text.before_append (wrapper.not_mem_head (by decide)) rest

end Wrapper

section Reading

variable {kind : WrapperKind} {text inner : List Char}

/-- Brackets that enclose the rest of the text are read by the wrapper before them. -/
theorem inside?_on (wrapper : Wrapper kind) (nonempty : inner ≠ []) (oneLine : '\n' ∉ inner) :
    inside? kind.names (wrapper.on inner) = some inner := by
  have head := wrapper.before_head (inner ++ [']'])
  have tail : (wrapper.on inner).drop wrapper.head.length = '[' :: (inner ++ [']']) := by
    rw [Wrapper.on, List.drop_left]
  have last : ('[' :: (inner ++ [']'])).getLast? = some ']' := by
    rw [← List.cons_append, List.getLast?_concat]
  rw [← Wrapper.on] at head
  simp [inside?, head, tail, last, wrapper.isWrapper_head, nonempty, oneLine]

theorem inside?_eq_none_of_head {names : List String}
    (notWrapper : isWrapper names (Text.before '[' text) = false) : inside? names text = none := by
  simp [inside?, notWrapper]

theorem inside?_eq_none_of_last {names : List String} (unclosed : text.getLast? ≠ some ']') :
    inside? names text = none := by
  have tail : (text.drop (Text.before '[' text).length).getLast? ≠ some ']' := by
    intro closed
    apply unclosed
    rw [← List.take_append_drop (Text.before '[' text).length text, List.getLast?_append, closed]
    rfl
  simp [inside?, tail]

theorem tupleElement?_eq_none_of_head
    (notTuple : isWrapper WrapperKind.tuple.names (Text.before '[' text) = false) :
    tupleElement? text = none := by
  rw [WrapperKind.names] at notTuple
  simp [tupleElement?, notTuple]

/-- What follows the element of a tuple of any length. -/
def ellipsis : String :=
  ", ..."

/-- A tuple of any length has the type before the comma as its element. -/
theorem tupleElement?_on (wrapper : Wrapper .tuple) (nonempty : inner ≠ []) (noComma : ',' ∉ inner)
    (noBracket : ']' ∉ inner) :
    tupleElement? (wrapper.on (inner ++ ellipsis.toList)) = some inner := by
  have rest : inner ++ ellipsis.toList ++ [']'] = inner ++ ',' :: " ...]".toList := by
    rw [List.append_assoc]
    rfl
  have head := wrapper.before_head (inner ++ ellipsis.toList ++ [']'])
  have isTuple : isWrapper ["tuple", "Tuple"] wrapper.head = true := wrapper.isWrapper_head
  have drop : (wrapper.head ++ '[' :: (inner ++ ',' :: " ...]".toList)).drop
      (wrapper.head.length + 1) = inner ++ ',' :: " ...]".toList := by
    simp
  have element : (inner ++ ',' :: " ...]".toList).takeWhile (fun c => c != ',' && c != ']') =
      inner := by
    rw [List.takeWhile_append_of_pos]
    · simp
    · intro c listed
      have notComma : c ≠ ',' := fun same => noComma (same ▸ listed)
      have notBracket : c ≠ ']' := fun same => noBracket (same ▸ listed)
      simp [notComma, notBracket]
  have closed : (" ...]".toList.dropWhile Text.isBlank == "...]".toList) = true := by decide
  rw [rest] at head
  rw [Wrapper.on, rest, tupleElement?]
  simp only [head, isTuple, drop, element, List.drop_left, closed, if_true, Bool.and_true]
  simp [nonempty]

/-- A text that does not begin with brackets is a slice if it is a collection or a tuple. -/
theorem element?_of_ne {c : Char} (notBracket : c ≠ '[') (rest : List Char) :
    element? (c :: rest) = (inside? collections (c :: rest)).or (tupleElement? (c :: rest)) := by
  unfold element?
  split
  · simp_all
  · cases inside? collections (c :: rest) <;> rfl

/-- Without a bracket there is nothing to unwrap. -/
theorem inside?_of_not_mem {names : List String} (plain : '[' ∉ text) :
    inside? names text = none := by
  have head := Text.before_of_not_mem plain
  simp [inside?, head]

theorem tupleElement?_of_not_mem (plain : '[' ∉ text) : tupleElement? text = none := by
  have head := Text.before_of_not_mem plain
  have nothing : text.drop (text.length + 1) = [] := by simp
  simp [tupleElement?, head, nothing]

theorem element?_of_not_mem (plain : '[' ∉ text) : element? text = none := by
  cases text with
  | nil => rfl
  | cons c rest =>
    have notBracket : c ≠ '[' := fun same => plain (same ▸ List.mem_cons_self)
    rw [element?_of_ne notBracket, inside?_of_not_mem plain, tupleElement?_of_not_mem plain]
    rfl

theorem inside?_brackets (kind : WrapperKind) (rest : List Char) :
    inside? kind.names ('[' :: rest) = none := by
  apply inside?_eq_none_of_head
  rw [Text.before, List.takeWhile_cons_of_neg (by decide)]
  cases kind <;> decide

theorem isWrapper_head_of_ne (wrapper : Wrapper kind) {other : WrapperKind}
    (differs : other ≠ kind) : isWrapper other.names wrapper.head = false := by
  rw [Bool.eq_false_iff]
  exact fun isOne => differs ((wrapper.isWrapper_head_iff other).1 isOne)

/-- A text that begins with a wrapper is a slice if it is a collection or a tuple. -/
theorem element?_head (wrapper : Wrapper kind) (rest : List Char) :
    element? (wrapper.head ++ '[' :: rest) =
      (inside? collections (wrapper.head ++ '[' :: rest)).or
        (tupleElement? (wrapper.head ++ '[' :: rest)) := by
  obtain ⟨c, tail, shape⟩ := List.exists_cons_of_ne_nil wrapper.head_ne_nil
  have notBracket : c ≠ '[' := by
    rintro rfl
    exact wrapper.not_mem_head (c := '[') (by decide) (shape ▸ List.mem_cons_self)
  rw [shape, List.cons_append]
  exact element?_of_ne notBracket _

theorem inside?_head_of_ne (wrapper : Wrapper kind) (other : WrapperKind) (differs : other ≠ kind)
    (rest : List Char) : inside? other.names (wrapper.head ++ '[' :: rest) = none := by
  apply inside?_eq_none_of_head
  rw [wrapper.before_head]
  exact isWrapper_head_of_ne wrapper differs

theorem tupleElement?_head_of_ne (wrapper : Wrapper kind) (differs : .tuple ≠ kind)
    (rest : List Char) : tupleElement? (wrapper.head ++ '[' :: rest) = none := by
  apply tupleElement?_eq_none_of_head
  rw [wrapper.before_head]
  exact isWrapper_head_of_ne wrapper differs

theorem element?_optional (wrapper : Wrapper .optional) (rest : List Char) :
    element? (wrapper.head ++ '[' :: rest) = none := by
  have notCollection : inside? collections (wrapper.head ++ '[' :: rest) = none :=
    inside?_head_of_ne wrapper .collection (by decide) rest
  rw [element?_head, notCollection, tupleElement?_head_of_ne wrapper (by decide)]
  rfl

theorem element?_collection (wrapper : Wrapper .collection) (nonempty : inner ≠ [])
    (oneLine : '\n' ∉ inner) : element? (wrapper.on inner) = some inner := by
  have found : inside? collections (wrapper.on inner) = some inner :=
    inside?_on wrapper nonempty oneLine
  rw [Wrapper.on] at found ⊢
  rw [element?_head, found]
  rfl

theorem element?_tuple (wrapper : Wrapper .tuple) (nonempty : inner ≠ []) (noComma : ',' ∉ inner)
    (noBracket : ']' ∉ inner) : element? (wrapper.on (inner ++ ellipsis.toList)) = some inner := by
  have found := tupleElement?_on wrapper nonempty noComma noBracket
  rw [Wrapper.on] at found ⊢
  have notCollection : inside? collections
      (wrapper.head ++ '[' :: (inner ++ ellipsis.toList ++ [']'])) = none :=
    inside?_head_of_ne wrapper .collection (by decide) _
  rw [element?_head, notCollection, found]
  rfl

end Reading

end EndpointDocs.FieldType
