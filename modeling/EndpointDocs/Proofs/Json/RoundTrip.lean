import EndpointDocs.Proofs.Json.Scalars

/-!
Documents are read back as they were written, with the members of every object in their order. A
value has its tokens; the text that is written for it is cut into them, whatever the layout, and
they build the value again, whatever containers are open.
-/
namespace EndpointDocs.Json

mutual

def Value.tokens : Value → List Token
  | .null => [.scalar .null]
  | .bool value => [.scalar (.bool value)]
  | .number mantissa places => [.scalar (.number mantissa places)]
  | .string text => [.scalar (.string text)]
  | .array [] => [.openArray, .closeArray]
  | .array (item :: rest) => .openArray :: (item.tokens ++ (itemTokens rest ++ [.closeArray]))
  | .object [] => [.openObject, .closeObject]
  | .object ((name, value) :: rest) =>
    .openObject :: .scalar (.string name) :: .colon ::
      (value.tokens ++ (memberTokens rest ++ [.closeObject]))

def itemTokens : List Value → List Token
  | [] => []
  | item :: rest => .comma :: (item.tokens ++ itemTokens rest)

def memberTokens : List (String × Value) → List Token
  | [] => []
  | (name, value) :: rest =>
    .comma :: .scalar (.string name) :: .colon :: (value.tokens ++ memberTokens rest)

end

section Scanning

/-- Whether only blanks are written between the tokens. -/
def Layout.IsBlank (layout : Layout) : Prop :=
  ∀ level, (layout.start level).all isSpace = true ∧ (layout.between level).all isSpace = true

theorem Layout.isBlank_indented : Layout.indented.IsBlank := by
  intro level
  simp [Layout.indented, indentation, isSpace]

theorem tokens?_blanks {blanks : List Char} (blank : blanks.all isSpace = true)
    (rest : List Char) : tokens? .between (blanks ++ rest) = tokens? .between rest := by
  induction blanks with
  | nil => rfl
  | cons c others ih =>
    simp only [List.all_cons, Bool.and_eq_true] at blank
    have skipped : Scan.between.step c = some (.between, []) := by
      simp [Scan.step, Scan.start, blank.1]
    rw [List.cons_append, tokens?_silent _ skipped, ih blank.2]

theorem Stops.blanks {blanks rest : List Char} (blank : blanks.all isSpace = true)
    (stops : Stops rest) : Stops (blanks ++ rest) := by
  cases blanks with
  | nil => exact stops
  | cons c others =>
    simp only [List.all_cons, Bool.and_eq_true] at blank
    intro first same
    rw [← Option.some.inj same]
    exact not_isWordChar_of_isSpace blank.1

theorem stops_cons {c : Char} (other : isWordChar c = false) (rest : List Char) :
    Stops (c :: rest) := by
  intro first same
  rw [← Option.some.inj same]
  exact other

theorem Stops.writeItems {rest : List Char} (stops : Stops rest) (layout : Layout) (level : Nat)
    (items : List Value) : Stops (writeItems layout level items ++ rest) := by
  cases items with
  | nil => simpa [Json.writeItems] using stops
  | cons item others =>
    rw [Json.writeItems]
    exact stops_cons rfl _

theorem Stops.writeMembers {rest : List Char} (stops : Stops rest) (layout : Layout) (level : Nat)
    (members : List (String × Value)) : Stops (writeMembers layout level members ++ rest) := by
  cases members with
  | nil => simpa [Json.writeMembers] using stops
  | cons member others =>
    rw [Json.writeMembers]
    exact stops_cons rfl _

variable {layout : Layout} (blank : layout.IsBlank)
include blank

mutual

/-- What is written for a value is cut into its tokens. The induction is on the value; behind it
nothing may stand that would continue a number or a constant. -/
theorem tokens?_write (level : Nat) (value : Value) (rest : List Char) (stops : Stops rest) :
    tokens? .between (write layout level value ++ rest) =
      (tokens? .between rest).map (value.tokens ++ ·) := by
  match value with
  | .null | .bool true | .bool false =>
    rw [write, Value.tokens]
    exact tokens?_word (by decide) (List.all_eq_true.1 rfl) rfl stops
  | .number mantissa places =>
    rw [write, Value.tokens]
    exact tokens?_numberText mantissa places stops
  | .string text =>
    rw [write, Value.tokens]
    exact tokens?_stringText text rest
  | .array [] =>
    have written : write layout level (.array []) ++ rest = '[' :: ']' :: rest := by
      rw [write]
      rfl
    rw [written, tokens?_token rfl, tokens?_token rfl]
    simp [Value.tokens, Function.comp_def]
  -- The blanks of the layout stand behind every element, so words end where they should.
  | .array (item :: others) =>
    have closing : Stops (layout.start level ++ ']' :: rest) :=
      (stops_cons rfl rest).blanks (blank _).1
    simp only [write, Value.tokens, List.append_assoc, List.cons_append, List.nil_append]
    rw [tokens?_token rfl, tokens?_blanks (blank _).1,
      tokens?_write _ item _ (closing.writeItems layout _ others),
      tokens?_writeItems _ others _ closing, tokens?_blanks (blank _).1, tokens?_token rfl]
    simp [Function.comp_def]
  | .object [] =>
    have written : write layout level (.object []) ++ rest = '\x7b' :: '\x7d' :: rest := by
      rw [write]
      rfl
    rw [written, tokens?_token rfl, tokens?_token rfl]
    simp [Value.tokens, Function.comp_def]
  | .object ((name, value) :: others) =>
    have closing : Stops (layout.start level ++ '\x7d' :: rest) :=
      (stops_cons rfl rest).blanks (blank _).1
    simp only [write, Value.tokens, List.append_assoc, List.cons_append, List.nil_append]
    rw [tokens?_token rfl, tokens?_blanks (blank _).1, tokens?_stringText, tokens?_token rfl,
      tokens?_silent .between rfl, tokens?_write _ value _ (closing.writeMembers layout _ others),
      tokens?_writeMembers _ others _ closing, tokens?_blanks (blank _).1, tokens?_token rfl]
    simp [Function.comp_def]

theorem tokens?_writeItems (level : Nat) (items : List Value) (rest : List Char)
    (stops : Stops rest) :
    tokens? .between (writeItems layout level items ++ rest) =
      (tokens? .between rest).map (itemTokens items ++ ·) := by
  match items with
  | [] => simp [writeItems, itemTokens]
  | item :: others =>
    simp only [writeItems, itemTokens, List.append_assoc, List.cons_append]
    rw [tokens?_token rfl, tokens?_blanks (blank _).2,
      tokens?_write _ item _ (stops.writeItems layout _ others),
      tokens?_writeItems _ others _ stops]
    simp [Function.comp_def]

theorem tokens?_writeMembers (level : Nat) (members : List (String × Value)) (rest : List Char)
    (stops : Stops rest) :
    tokens? .between (writeMembers layout level members ++ rest) =
      (tokens? .between rest).map (memberTokens members ++ ·) := by
  match members with
  | [] => simp [writeMembers, memberTokens]
  | (name, value) :: others =>
    simp only [writeMembers, memberTokens, List.append_assoc, List.cons_append, List.nil_append]
    rw [tokens?_token rfl, tokens?_blanks (blank _).2, tokens?_stringText, tokens?_token rfl,
      tokens?_silent .between rfl, tokens?_write _ value _ (stops.writeMembers layout _ others),
      tokens?_writeMembers _ others _ stops]
    simp [Function.comp_def]

end

end Scanning

section Building

mutual

/-- No object in the document has two members of one name. -/
def Value.IsUnambiguous : Value → Prop
  | .array items => itemsUnambiguous items
  | .object members => (members.map (·.1)).Nodup ∧ membersUnambiguous members
  | _ => True

def itemsUnambiguous : List Value → Prop
  | [] => True
  | item :: rest => item.IsUnambiguous ∧ itemsUnambiguous rest

def membersUnambiguous : List (String × Value) → Prop
  | [] => True
  | (_, value) :: rest => value.IsUnambiguous ∧ membersUnambiguous rest

end

theorem membersUnambiguous_iff {members : List (String × Value)} :
    membersUnambiguous members ↔ ∀ member ∈ members, member.2.IsUnambiguous := by
  induction members with
  | nil => simp [membersUnambiguous]
  | cons member rest ih => simp [membersUnambiguous, ih]

theorem foldlM_step {reader next : Reader} {token : Token} (step : reader.step token = some next)
    (rest : List Token) :
    (token :: rest).foldlM Reader.step reader = rest.foldlM Reader.step next := by
  rw [List.foldlM_cons, step]
  rfl

/-- The first token of a value does not close an array: the value becomes its first item. -/
theorem foldlM_firstItem (value : Value) (frames : List Frame) (rest : List Token) :
    (value.tokens ++ rest).foldlM Reader.step ⟨.item, frames⟩ =
      (value.tokens ++ rest).foldlM Reader.step ⟨.value, .items [] :: frames⟩ := by
  match value with
  | .null | .bool _ | .number _ _ | .string _ => rfl
  | .array [] | .array (_ :: _) | .object [] | .object (_ :: _) => rw [Value.tokens]; rfl

mutual

/-- The tokens of a value build it, whatever containers are open. -/
theorem foldlM_tokens (value : Value) (unambiguous : value.IsUnambiguous) (frames : List Frame)
    (rest : List Token) :
    (value.tokens ++ rest).foldlM Reader.step ⟨.value, frames⟩ =
      rest.foldlM Reader.step ⟨.complete value, frames⟩ := by
  match value with
  | .null | .bool _ | .number _ _ | .string _ =>
    rw [Value.tokens]
    exact foldlM_step rfl rest
  | .array [] | .object [] =>
    rw [Value.tokens]
    exact (foldlM_step rfl _).trans (foldlM_step rfl rest)
  | .array (item :: others) =>
    simp only [Value.IsUnambiguous, itemsUnambiguous] at unambiguous
    simp only [Value.tokens, List.cons_append, List.append_assoc, List.nil_append]
    rw [foldlM_step rfl, foldlM_firstItem, foldlM_tokens item unambiguous.1]
    exact foldlM_itemTokens others unambiguous.2 [] item frames rest
  | .object ((name, value) :: others) =>
    simp only [Value.IsUnambiguous, membersUnambiguous] at unambiguous
    obtain ⟨distinct, valueUnambiguous, othersUnambiguous⟩ := unambiguous
    simp only [Value.tokens, List.cons_append, List.append_assoc, List.nil_append]
    rw [foldlM_step rfl, foldlM_step rfl, foldlM_step rfl, foldlM_tokens value valueUnambiguous]
    exact foldlM_memberTokens others othersUnambiguous [] name value frames distinct rest

/-- The elements of a list are read one after another into the list that is open. -/
theorem foldlM_itemTokens (items : List Value) (unambiguous : itemsUnambiguous items)
    (before : List Value) (value : Value) (frames : List Frame) (rest : List Token) :
    (itemTokens items ++ Token.closeArray :: rest).foldlM Reader.step
        ⟨.complete value, .items before :: frames⟩ =
      rest.foldlM Reader.step ⟨.complete (.array (before ++ value :: items)), frames⟩ := by
  match items with
  | [] =>
    rw [itemTokens]
    exact foldlM_step rfl rest
  | item :: others =>
    simp only [itemsUnambiguous] at unambiguous
    have behind : before ++ value :: item :: others = (before ++ [value]) ++ item :: others := by
      simp
    rw [itemTokens, List.cons_append, List.append_assoc, foldlM_step rfl,
      foldlM_tokens item unambiguous.1, behind]
    exact foldlM_itemTokens others unambiguous.2 _ item frames rest

/-- Members are put behind those that were read before, as none of them has the same name. -/
theorem foldlM_memberTokens (members : List (String × Value))
    (unambiguous : membersUnambiguous members) (before : List (String × Value)) (name : String)
    (value : Value) (frames : List Frame)
    (distinct : ((before ++ (name, value) :: members).map (·.1)).Nodup) (rest : List Token) :
    (memberTokens members ++ Token.closeObject :: rest).foldlM Reader.step
        ⟨.complete value, .member before name :: frames⟩ =
      rest.foldlM Reader.step
        ⟨.complete (.object (before ++ (name, value) :: members)), frames⟩ := by
  have put : OrderedMap.putEntry name value before = before ++ [(name, value)] := by
    apply OrderedMap.putEntry_of_absent
    intro listed
    rw [List.map_append] at distinct
    exact (List.nodup_append.1 distinct).2.2 name listed name List.mem_cons_self rfl
  match members with
  | [] =>
    rw [memberTokens]
    exact (foldlM_step rfl rest).trans (by rw [put])
  | (next, nextValue) :: others =>
    simp only [membersUnambiguous] at unambiguous
    have behind : before ++ (name, value) :: (next, nextValue) :: others =
        (before ++ [(name, value)]) ++ (next, nextValue) :: others := by simp
    rw [behind] at distinct ⊢
    simp only [memberTokens, List.cons_append]
    rw [List.append_assoc, foldlM_step rfl, put, foldlM_step rfl, foldlM_step rfl,
      foldlM_tokens nextValue unambiguous.1]
    exact foldlM_memberTokens others unambiguous.2 _ next nextValue frames distinct rest

end

end Building

section Ascii

theorem isAscii_of_all {text : List Char}
    (all : text.all (fun c => decide (c.toNat < 128)) = true) : IsAscii text := fun c listed =>
  of_decide_eq_true (List.all_eq_true.1 all c listed)

theorem isAscii_blanks {blanks : List Char} (blank : blanks.all isSpace = true) :
    IsAscii blanks := by
  intro c listed
  have space := List.all_eq_true.1 blank c listed
  simp only [isSpace, Bool.or_eq_true, beq_iff_eq] at space
  rcases space with ((rfl | rfl) | rfl) | rfl <;> decide

theorem isAscii_numberText (mantissa : Int) (places : Nat) :
    IsAscii (numberText mantissa places) := fun _ listed =>
  toNat_lt_of_isWordChar (isWordChar_of_mem_numberText listed)

variable {layout : Layout} (blank : layout.IsBlank)
include blank

mutual

/-- A document is written in ASCII, whatever its texts hold. -/
theorem isAscii_write (level : Nat) (value : Value) : IsAscii (write layout level value) := by
  match value with
  | .null | .bool true | .bool false | .array [] | .object [] =>
    rw [write]
    exact isAscii_of_all rfl
  | .number mantissa places =>
    rw [write]
    exact isAscii_numberText mantissa places
  | .string text =>
    rw [write]
    exact isAscii_stringText text
  | .array (item :: others) =>
    simp [write, isAscii_write _ item, isAscii_writeItems _ others, isAscii_blanks (blank _).1]
  | .object ((name, value) :: others) =>
    simp [write, isAscii_write _ value, isAscii_writeMembers _ others, isAscii_stringText,
      isAscii_blanks (blank _).1]

theorem isAscii_writeItems (level : Nat) (items : List Value) :
    IsAscii (writeItems layout level items) := by
  match items with
  | [] => simp [writeItems]
  | item :: others =>
    simp [writeItems, isAscii_write _ item, isAscii_writeItems _ others,
      isAscii_blanks (blank _).2]

theorem isAscii_writeMembers (level : Nat) (members : List (String × Value)) :
    IsAscii (writeMembers layout level members) := by
  match members with
  | [] => simp [writeMembers]
  | (name, value) :: others =>
    simp [writeMembers, isAscii_write _ value, isAscii_writeMembers _ others, isAscii_stringText,
      isAscii_blanks (blank _).2]

end

end Ascii

/-- A document is read back, with the members of every object in their order. -/
theorem read_write {layout : Layout} (blank : layout.IsBlank) (level : Nat) (value : Value)
    (unambiguous : value.IsUnambiguous) :
    read (String.ofList (write layout level value)) = some value := by
  have cut := tokens?_write blank level value [] (fun _ none => nomatch none)
  have built := foldlM_tokens value unambiguous [] []
  rw [List.append_nil] at cut built
  rw [read, String.toList_ofList, cut]
  simp only [tokens?, Option.map_some, Option.bind_some, List.append_nil, built]
  rfl

-- Forms that are never written are read as well.
example : (read " \x7b\"a\" :[-2.50e1,null , \"\\/\\u00E9\"]\x7d").map Value.compact =
    some "\x7b\"a\": [-25.0, null, \"/\\u00e9\"]\x7d" := by
  decide +kernel

example : (["[1,]", "01", "1.", "\"\\ud83d\"", "\x7b\"a\" 1\x7d", "[1] 2", "nul", "\"\n\""].map
    read).all Option.isNone = true := by
  decide +kernel

end EndpointDocs.Json
