import EndpointDocs.Proofs.Config.Keys

/-!
One text where a list of texts is wanted. A text that stands alone is taken as it is, with the
blanks around it, and the text of a list without them. So the two ways of writing one text mean the
same if there are no blanks around it, or nothing else.
-/
namespace EndpointDocs

namespace Setting

theorem sameKey_text (key : Setting) (name : String) :
    key.sameKey (.text name) = key.isText name := by
  cases key with
  | float value => cases value <;> rfl
  | _ => rfl

/-- A value that is put in the place of another leaves the keys as they are. -/
theorem find?_putMember {members : List (Setting × Setting)} {name : String} (other : String)
    (value : Setting) (present : members.any (·.1.sameKey (.text name)) = true) :
    (putMember members (.text name) value).find? (fun member => member.1.isText other) =
      (members.find? fun member => member.1.isText other).map fun member =>
        if member.1.sameKey (.text name) then (member.1, value) else member := by
  have test : ((fun member : Setting × Setting => member.1.isText other) ∘ fun member =>
      if member.1.sameKey (.text name) = true then (member.1, value) else member) =
        fun member => member.1.isText other := by
    funext member
    simp only [Function.comp]
    split <;> rfl
  rw [putMember, if_pos present, List.find?_map, test]

theorem get?_putMember (members : List (Setting × Setting)) (name : String) (value : Setting) :
    get? (putMember members (.text name) value) name = some value := by
  rw [get?_eq]
  by_cases present : members.any (·.1.sameKey (.text name)) = true
  · rw [find?_putMember name value present]
    simp only [sameKey_text] at present
    obtain ⟨member, found⟩ :=
      Option.isSome_iff_exists.1 (List.find?_isSome.2 (List.any_eq_true.1 present))
    have here : member.1.isText name = true := by simpa using List.find?_some found
    rw [found, Option.map_some, Option.map_some, sameKey_text, if_pos here]
  · have none : members.find? (fun member => member.1.isText name) = none := by
      simpa [sameKey_text] using present
    rw [putMember, if_neg present, List.find?_append, none]
    simp [isText]

theorem get?_putMember_of_ne (members : List (Setting × Setting)) {name other : String}
    (different : other ≠ name) (value : Setting) :
    get? (putMember members (.text name) value) other = get? members other := by
  rw [get?_eq, get?_eq]
  by_cases present : members.any (·.1.sameKey (.text name)) = true
  · rw [find?_putMember other value present]
    cases found : members.find? (fun member => member.1.isText other) with
    | none => rfl
    | some member =>
      have there : member.1.isText other = true := by simpa using List.find?_some found
      have kept : ¬ member.1.isText name = true := fun here => different (eq_of_isText here there)
      rw [Option.map_some, sameKey_text, if_neg kept]
  · have last : ¬ (Setting.text name).isText other = true := by
      simpa [isText] using different.symm
    simp [putMember, if_neg present, List.find?_append, last]

end Setting

namespace Wide

theorem isBlank_trim (text : Wide) : text.trim.isBlank = text.isBlank := by
  rw [isBlank, isBlank, Bool.eq_iff_iff, List.all_eq_true, List.all_eq_true]
  constructor
  · intro blank point listed
    by_contra kept
    exact kept (blank point (Text.mem_trimBy_of_neg listed (Bool.eq_false_iff.2 kept)))
  · intro blank point listed
    exact blank point (Text.mem_of_mem_trimBy listed)

/-- Nothing is left of a text exactly if it has blanks only. -/
theorem isEmpty_trim (text : Wide) : text.trim.isEmpty = text.isBlank := by
  rw [← isBlank_trim, Bool.eq_iff_iff, List.isEmpty_iff]
  constructor
  · intro empty
    rw [empty]
    rfl
  · intro blank
    have trimmed : Text.trimBy CodePoint.isBlank text.trim = text.trim :=
      Text.trimBy_of_isTrimmed (Text.trimBy_isTrimmed CodePoint.isBlank _)
    rw [Text.trimBy_eq_nil (List.all_eq_true.1 blank)] at trimmed
    exact trimmed.symm

end Wide

namespace Config

/-- The texts that one text alone gives. -/
def textsOf (text : Wide) : List Wide :=
  if text.isBlank then [] else [text]

theorem textList_singleton (key : String) (text : Wide) :
    textList key (.list [.text text]) = .ok (some (textsOf text.trim)) := by
  have trimmed : trimmedText (.text text) = .ok text.trim := rfl
  have items : (Setting.list [.text text]).items? = some [.text text] := rfl
  simp only [textList, items, itemTexts, trimmed, textsOf, Wide.isEmpty_trim, Wide.isBlank_trim]
  rfl

def put (members : List (Setting × Setting)) (key : Key) (value : Setting) :
    List (Setting × Setting) :=
  Setting.putMember members (.text key.name) value

theorem get?_put_of_ne (members : List (Setting × Setting)) {key other : Key}
    (different : other ≠ key) (value : Setting) :
    Setting.get? (put members key value) other.name = Setting.get? members other.name :=
  Setting.get?_putMember_of_ne members (fun names => different (Key.name_injective names)) value

theorem get?_put_congr (members : List (Setting × Setting)) {key other : Key}
    (different : other ≠ key) (value value' : Setting) :
    Setting.get? (put members key value) other.name =
      Setting.get? (put members key value') other.name := by
  rw [get?_put_of_ne members different, get?_put_of_ne members different]

theorem textsAt_put_text (members : List (Setting × Setting)) (key : Key) (text : Wide)
    (standard : List Wide) :
    textsAt (put members key (.text text)) key.name standard = .ok (textsOf text) := by
  rw [textsAt, valueAt, put, Setting.get?_putMember]
  rfl

theorem textsAt_put_list (members : List (Setting × Setting)) (key : Key) (text : Wide)
    (standard : List Wide) :
    textsAt (put members key (.list [.text text])) key.name standard =
      .ok (textsOf text.trim) := by
  rw [textsAt, valueAt, put, Setting.get?_putMember, Option.getD_some, textList_singleton,
    Except.map, Option.getD_some]

/-- Two values with the same texts mean the same for a key that takes a list. -/
theorem ofMapping_put_congr {homes : Homes} {base : Path} {members : List (Setting × Setting)}
    {key : Key}
    (isList : key ∈ listKeys) {value value' : Setting}
    (same : ∀ standard, textsAt (put members key value) key.name standard =
      textsAt (put members key value') key.name standard) :
    ofMapping homes base (put members key value) =
      ofMapping homes base (put members key value') := by
  refine ofMapping_congr (fun other _ standard => ?_) fun other noList => ?_
  · by_cases here : other = key
    · rw [here, same]
    · exact textsAt_congr (get?_put_congr members here value value') standard
  · have different : other ≠ key := by
      rintro rfl
      exact noList isList
    exact get?_put_congr members different value value'

/-- Two steps that fail alike, or give results that are related. -/
inductive Alike {α β : Type} (related : α → β → Prop) :
    Except ConfigError α → Except ConfigError β → Prop where
  | ok {value : α} {value' : β} : related value value' → Alike related (.ok value) (.ok value')
  | error (error : ConfigError) : Alike related (.error error) (.error error)

theorem Alike.bind {α β γ δ : Type} {related : α → β → Prop} {related' : γ → δ → Prop}
    {step : Except ConfigError α} {step' : Except ConfigError β}
    {next : α → Except ConfigError γ} {next' : β → Except ConfigError δ}
    (steps : Alike related step step')
    (nexts : ∀ value value', related value value' → Alike related' (next value) (next' value')) :
    Alike related' (step >>= next) (step' >>= next') := by
  cases steps with
  | ok both => exact nexts _ _ both
  | error error => exact .error error

theorem Alike.after {α γ δ : Type} {related : γ → δ → Prop} (step : Except ConfigError α)
    {next : α → Except ConfigError γ} {next' : α → Except ConfigError δ}
    (nexts : ∀ value, Alike related (next value) (next' value)) :
    Alike related (step >>= next) (step >>= next') := by
  cases step with
  | ok value => exact nexts value
  | error error => exact .error error

theorem Alike.refl {α : Type} {related : α → α → Prop} (reflexive : ∀ value, related value value)
    (step : Except ConfigError α) : Alike related step step := by
  cases step with
  | ok value => exact .ok (reflexive value)
  | error error => exact .error error

theorem Alike.error_iff {α β : Type} {related : α → β → Prop} {step : Except ConfigError α}
    {step' : Except ConfigError β} (alike : Alike related step step') (error : ConfigError) :
    step = .error error ↔ step' = .error error := by
  cases alike with
  | ok both => simp
  | error other => simp

/-- Whether a configuration can be made does not depend on the patterns, the modules and the
suffixes, if there is some suffix. -/
theorem ofTexts_alike (homes : Homes) (base : Path) (members : List (Setting × Setting))
    {extensions extensions' : List Wide} (same : extensions.isEmpty = extensions'.isEmpty)
    (exclude exclude' glossary typeModules typeModules' : List Wide) :
    Alike (fun _ _ => True) (ofTexts homes base members extensions exclude glossary typeModules)
      (ofTexts homes base members extensions' exclude' glossary typeModules') := by
  rw [ofTexts, ofTexts, same]
  split
  · exact .error _
  · refine .after _ fun _ => .after _ fun _ => .after _ fun _ => .after _ fun _ => ?_
    refine .after _ fun _ => .after _ fun _ => .after _ fun _ => .after _ fun _ => ?_
    exact .ok trivial

theorem ofMapping_alike {homes : Homes} {base : Path} {members others : List (Setting × Setting)}
    (texts : ∀ key ∈ listKeys, ∀ standard, Alike (fun a b => a.isEmpty = b.isEmpty)
      (textsAt others key.name standard) (textsAt members key.name standard))
    (values : ∀ key, key ∉ listKeys ∨ key = .glossary →
      Setting.get? others key.name = Setting.get? members key.name) :
    Alike (fun _ _ => True) (ofMapping homes base others) (ofMapping homes base members) := by
  rw [ofMapping_eq, ofMapping_eq, textsAt_congr (values .glossary (.inr rfl)),
    ofTexts_congr fun key noList => values key (.inl noList)]
  refine (texts .extensions (by decide) _).bind fun extensions extensions' same => ?_
  refine (texts .exclude (by decide) _).bind fun exclude exclude' _ => .after _ fun glossary => ?_
  refine (texts .typeModules (by decide) _).bind fun typeModules typeModules' _ => ?_
  exact ofTexts_alike homes base members same ..

/-- What a key says leaves the fields of the others as they are. -/
theorem get_eq_of_put {homes : Homes} {base : Path} {members : List (Setting × Setting)}
    {key other : Key}
    {value value' : Setting} {config config' : Config}
    (loaded : ofMapping homes base (put members key value) = .ok config)
    (loaded' : ofMapping homes base (put members key value') = .ok config')
    (different : other ≠ key) : config.get other = config'.get other := by
  have said := read_of_ofMapping loaded other
  rw [read_congr (get?_put_congr members different value value')] at said
  exact Except.ok.inj (said.symm.trans (read_of_ofMapping loaded' other))

theorem extensions_eq_of_ofMapping {homes : Homes} {base : Path}
    {members : List (Setting × Setting)}
    {config : Config} {texts : List Wide} (loaded : ofMapping homes base members = .ok config)
    (given : textsAt members Key.extensions.name ({} : Config).extensions = .ok texts) :
    config.extensions = texts := by
  have said := read_of_ofMapping loaded .extensions
  rw [read, given] at said
  by_cases empty : texts.isEmpty = true
  · cases (if_pos empty).symm.trans said
  · exact (Except.ok.inj ((if_neg empty).symm.trans said)).symm

theorem resolvePaths_of_ofMapping {homes : Homes} {base : Path} {members : List (Setting × Setting)}
    {config : Config} {texts : List Wide} (loaded : ofMapping homes base members = .ok config)
    (given : textsAt members Key.glossary.name [] = .ok texts) :
    resolvePaths homes base texts = .ok config.glossary := by
  have said := read_of_ofMapping loaded .glossary
  rw [read, given] at said
  exact said

/-- The texts of a list that is not resolved are a field as they are. -/
theorem eq_iff_textsOf {homes : Homes} {base : Path} {members : List (Setting × Setting)}
    {key : Key}
    {text text' : Wide} {config config' : Config} (isList : key ∈ listKeys)
    (unresolved : key ≠ .glossary)
    (loaded : ofMapping homes base (put members key (.text text)) = .ok config)
    (loaded' : ofMapping homes base (put members key (.text text')) = .ok config') :
    config = config' ↔ textsOf text = textsOf text' := by
  constructor
  · rintro rfl
    have given (standard) := textsAt_put_text members key text standard
    have given' (standard) := textsAt_put_text members key text' standard
    cases key with
    | extensions =>
      exact (extensions_eq_of_ofMapping loaded (given _)).symm.trans
        (extensions_eq_of_ofMapping loaded' (given' _))
    | exclude =>
      have said := (given _).symm.trans (read_of_ofMapping loaded .exclude)
      have said' := (given' _).symm.trans (read_of_ofMapping loaded' .exclude)
      exact Except.ok.inj (said.trans said'.symm)
    | typeModules =>
      have said := (given _).symm.trans (read_of_ofMapping loaded .typeModules)
      have said' := (given' _).symm.trans (read_of_ofMapping loaded' .typeModules)
      exact Except.ok.inj (said.trans said'.symm)
    | glossary => exact absurd rfl unresolved
    | _ => exact absurd isList (by decide)
  · intro same
    have equal : ofMapping homes base (put members key (.text text)) =
        ofMapping homes base (put members key (.text text')) :=
      ofMapping_put_congr isList fun standard => by rw [textsAt_put_text, textsAt_put_text, same]
    rw [equal] at loaded
    exact Except.ok.inj (loaded.symm.trans loaded')

theorem isEmpty_textsOf (text : Wide) : (textsOf text).isEmpty = text.isBlank := by
  rw [textsOf]
  split
  · rename_i blank
    rw [blank]
    rfl
  · rename_i content
    rw [Bool.eq_false_iff.2 content]
    rfl

/-- Blanks around a text that is not resolved do not make a configuration fail. -/
theorem ofMapping_put_alike (homes : Homes) (base : Path) (members : List (Setting × Setting))
    {key : Key}
    (isList : key ∈ listKeys) (unresolved : key ≠ .glossary) (text : Wide) :
    Alike (fun _ _ => True) (ofMapping homes base (put members key (.text text)))
      (ofMapping homes base (put members key (.list [.text text]))) := by
  refine ofMapping_alike (fun other _ standard => ?_) fun other place =>
    get?_put_congr members ?_ _ _
  · by_cases here : other = key
    · subst here
      rw [textsAt_put_text, textsAt_put_list]
      exact .ok (by rw [isEmpty_textsOf, isEmpty_textsOf, Wide.isBlank_trim])
    · rw [textsAt_congr (get?_put_congr members here (.text text) (.list [.text text]))]
      refine .refl (fun texts => ?_) _
      rfl
  · rintro rfl
    exact place.elim (fun noList => noList isList) unresolved

theorem textsOf_trim_iff {text : Wide} :
    textsOf text = textsOf text.trim ↔
      text.trim = text ∨ text.isBlank = true := by
  rw [textsOf, textsOf, Wide.isBlank_trim]
  by_cases blank : text.isBlank = true
  · simp [blank]
  · simp [blank, eq_comm]

/-- The text of a list is trimmed, and then means what it means alone. So the two ways of writing
one text mean the same if it has no blanks around it or nothing else, and otherwise they set
different fields. -/
theorem load_text_or_list {key : Key} (isList : key ∈ listKeys) (homes : Homes) (path : Path)
    (members : List (Setting × Setting)) (text : Wide) :
    ofMapping homes path.parent (put members key (.list [.text text])) =
      ofMapping homes path.parent (put members key (.text text.trim)) ∧
    (text.trim = text ∨ text.isBlank = true →
      ofMapping homes path.parent (put members key (.text text)) =
        ofMapping homes path.parent (put members key (.list [.text text]))) ∧
    (key ≠ .glossary → ∀ error,
      ofMapping homes path.parent (put members key (.text text)) = .error error ↔
        ofMapping homes path.parent (put members key (.list [.text text])) = .error error) ∧
    (∀ bare listed,
      ofMapping homes path.parent (put members key (.text text)) = .ok bare →
      ofMapping homes path.parent (put members key (.list [.text text])) = .ok listed →
        (∀ other, other ≠ key → bare.get other = listed.get other) ∧
        (key ≠ .glossary →
          (bare = listed ↔ text.trim = text ∨ text.isBlank = true)) ∧
        (key = .glossary →
          resolvePaths homes path.parent (textsOf text) = .ok bare.glossary ∧
            resolvePaths homes path.parent (textsOf text.trim) = .ok listed.glossary)) ∧
    ∀ tree value, Holds tree path (put members key value) →
      load tree homes (some path) = ofMapping homes path.parent (put members key value) := by
  have trimmed : ofMapping homes path.parent (put members key (.list [.text text])) =
      ofMapping homes path.parent (put members key (.text text.trim)) :=
    ofMapping_put_congr isList fun standard => by rw [textsAt_put_list, textsAt_put_text]
  refine ⟨trimmed, ?_, ?_, ?_, ?_⟩
  · intro plain
    exact ofMapping_put_congr isList fun standard => by
      rw [textsAt_put_list, textsAt_put_text, textsOf_trim_iff.2 plain]
  · intro unresolved error
    exact (ofMapping_put_alike homes path.parent members isList unresolved text).error_iff error
  · intro bare listed bareLoaded listLoaded
    refine ⟨fun other different => get_eq_of_put bareLoaded listLoaded different, ?_, ?_⟩
    · intro unresolved
      rw [trimmed] at listLoaded
      rw [eq_iff_textsOf isList unresolved bareLoaded listLoaded, textsOf_trim_iff]
    · rintro rfl
      exact ⟨resolvePaths_of_ofMapping bareLoaded (textsAt_put_text members .glossary text []),
        resolvePaths_of_ofMapping listLoaded (textsAt_put_list members .glossary text [])⟩
  · intro tree value holds
    exact load_eq_ofMapping holds homes

theorem load_text_or_list_suffix :
    Key.extensions ∈ listKeys ∧ Wide.trim ".go" = ".go" ∧
      ofMapping documentHomes documentPath.parent (put [] .extensions (.text ".go")) =
        ofMapping documentHomes documentPath.parent (put [] .extensions (.list [.text ".go"])) := by
  have isList : Key.extensions ∈ listKeys := by decide
  have trimmed : Wide.trim ".go" = ".go" := by decide +kernel
  exact ⟨isList, trimmed, (load_text_or_list isList documentHomes documentPath [] ".go").2.1
    (.inl trimmed)⟩

/-- A suffix with a blank before it is another one alone than in a list. -/
theorem load_blank_suffix :
    load (documentTree "extensions: \" .py\"\n") documentHomes (some documentPath) =
        .ok { extensions := [" .py"] } ∧
      load (documentTree "extensions: [\" .py\"]\n") documentHomes (some documentPath) =
        .ok { extensions := [".py"] } ∧
      load (documentTree "extensions: \" .py\"\n") documentHomes (some documentPath) ≠
        load (documentTree "extensions: [\" .py\"]\n") documentHomes (some documentPath) := by
  have bare : load (documentTree "extensions: \" .py\"\n") documentHomes (some documentPath) =
      .ok { extensions := [" .py"] } := by decide +kernel
  have listed : load (documentTree "extensions: [\" .py\"]\n") documentHomes (some documentPath) =
      .ok { extensions := [".py"] } := by decide +kernel
  refine ⟨bare, listed, ?_⟩
  rw [bare, listed]
  decide

end Config

end EndpointDocs
