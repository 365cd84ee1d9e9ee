import EndpointDocs.Proofs.Config.Texts
import Mathlib.Data.List.Basic

/-!
The keys of a configuration are independent. Each of the eleven keys sets one field and can be read
alone: a mapping is a configuration exactly if each of its keys alone is one, each field is what its
own key says, and nothing else in the mapping has an effect.
-/
namespace EndpointDocs

namespace Setting

def isText (name : String) : Setting → Bool
  | .text other => other == Wide.ofString name
  | _ => false

theorem eq_of_isText {key : Setting} {name other : String} (here : key.isText name = true)
    (there : key.isText other = true) : other = name := by
  cases key with
  | text written =>
    exact Wide.ofString_injective ((eq_of_beq there).symm.trans (eq_of_beq here))
  | _ => cases here

theorem get?_eq (members : List (Setting × Setting)) (name : String) :
    get? members name = (members.find? fun member => member.1.isText name).map (·.2) := by
  refine congrArg (Option.map _)
    (congrArg (fun test => members.find? test) (funext fun member => ?_))
  obtain ⟨key, value⟩ := member
  cases key <;> rfl

def only (name : String) (members : List (Setting × Setting)) : List (Setting × Setting) :=
  members.filter fun member => member.1.isText name

/-- Members that are taken away leave a key as it was if they are not under it. -/
theorem get?_filter {name : String} {keep : Setting × Setting → Bool}
    (kept : ∀ member, member.1.isText name = true → keep member = true)
    (members : List (Setting × Setting)) :
    get? (members.filter keep) name = get? members name := by
  have test : (fun member : Setting × Setting =>
      decide (keep member = true ∧ member.1.isText name = true)) =
        fun member => member.1.isText name := by
    funext member
    rw [Bool.eq_iff_iff, decide_eq_true_eq]
    exact ⟨And.right, fun here => ⟨kept member here, here⟩⟩
  rw [get?_eq, get?_eq, List.find?_filter, test]

theorem get?_only (name : String) (members : List (Setting × Setting)) :
    get? (only name members) name = get? members name :=
  get?_filter (fun _ here => here) members

theorem get?_only_of_ne {name other : String} (different : other ≠ name)
    (members : List (Setting × Setting)) : get? (only name members) other = none := by
  have none : ∀ member ∈ only name members, ¬ member.1.isText other = true := by
    intro member listed elsewhere
    have here : member.1.isText name = true := (List.mem_filter.1 listed).2
    exact different (eq_of_isText here elsewhere)
  rw [get?_eq, List.find?_eq_none.2 none, Option.map_none]

end Setting

namespace Config

inductive Key where
  | outputDirectory
  | indexFilename
  | version
  | style
  | marker
  | opening
  | closing
  | extensions
  | exclude
  | glossary
  | typeModules
  deriving DecidableEq, Repr

namespace Key

def name : Key → String
  | outputDirectory => "output_dir"
  | indexFilename => "index_filename"
  | version => "version"
  | style => "pygments_style"
  | marker => "comment_marker"
  | opening => "start_sentinel"
  | closing => "end_sentinel"
  | extensions => "extensions"
  | exclude => "exclude"
  | glossary => "glossary"
  | typeModules => "type_modules"

theorem name_injective {key other : Key} (same : key.name = other.name) : key = other := by
  revert same
  cases key <;> cases other <;> decide

def all : List Key :=
  [outputDirectory, indexFilename, version, style, marker, opening, closing, extensions, exclude,
    glossary, typeModules]

theorem mem_all (key : Key) : key ∈ all := by
  cases key <;> decide

abbrev Value : Key → Type
  | outputDirectory => Path
  | glossary => List Path
  | extensions | exclude | typeModules => List Wide
  | _ => Wide

end Key

def get (config : Config) : (key : Key) → key.Value
  | .outputDirectory => config.outputDirectory
  | .indexFilename => config.indexFilename
  | .version => config.version
  | .style => config.style
  | .marker => config.sentinels.marker
  | .opening => config.sentinels.opening
  | .closing => config.sentinels.closing
  | .extensions => config.extensions
  | .exclude => config.exclude
  | .glossary => config.glossary
  | .typeModules => config.typeModules

/-- The fields are all of a configuration. -/
theorem eq_of_get {config other : Config} (same : ∀ key, config.get key = other.get key) :
    config = other := by
  obtain ⟨directory, index, version, style, ⟨marker, opening, closing⟩, extensions, exclude,
    glossary, typeModules⟩ := config
  obtain ⟨directory', index', version', style', ⟨marker', opening', closing'⟩, extensions',
    exclude', glossary', typeModules'⟩ := other
  obtain rfl : directory = directory' := same .outputDirectory
  obtain rfl : index = index' := same .indexFilename
  obtain rfl : version = version' := same .version
  obtain rfl : style = style' := same .style
  obtain rfl : marker = marker' := same .marker
  obtain rfl : opening = opening' := same .opening
  obtain rfl : closing = closing' := same .closing
  obtain rfl : extensions = extensions' := same .extensions
  obtain rfl : exclude = exclude' := same .exclude
  obtain rfl : glossary = glossary' := same .glossary
  obtain rfl : typeModules = typeModules' := same .typeModules
  rfl

/-- What a mapping says under one key. -/
def read (homes : Homes) (base : Path) (members : List (Setting × Setting)) :
    (key : Key) → Except ConfigError key.Value
  | .outputDirectory => outputDirectoryOf members
  | .indexFilename => textAt members Key.indexFilename.name ({} : Config).indexFilename
  | .version => textAt members Key.version.name ({} : Config).version
  | .style => textAt members Key.style.name ({} : Config).style
  | .marker => textAt members Key.marker.name ({} : Config).sentinels.marker
  | .opening => textAt members Key.opening.name ({} : Config).sentinels.opening
  | .closing => textAt members Key.closing.name ({} : Config).sentinels.closing
  | .extensions => do
    let texts ← textsAt members Key.extensions.name ({} : Config).extensions
    if texts.isEmpty then
      throw .noExtension
    return texts
  | .exclude => textsAt members Key.exclude.name ({} : Config).exclude
  | .glossary => do
    let texts ← textsAt members Key.glossary.name []
    resolvePaths homes base texts
  | .typeModules => textsAt members Key.typeModules.name []

/-- What a mapping describes once the texts of its lists are known. -/
def ofTexts (homes : Homes) (base : Path) (members : List (Setting × Setting))
    (extensions exclude glossary typeModules : List Wide) : Except ConfigError Config := do
  let standard : Config := {}
  if extensions.isEmpty then
    throw .noExtension
  let outputDirectory ← outputDirectoryOf members
  let indexFilename ← textAt members Key.indexFilename.name standard.indexFilename
  let version ← textAt members Key.version.name standard.version
  let style ← textAt members Key.style.name standard.style
  let marker ← textAt members Key.marker.name standard.sentinels.marker
  let opening ← textAt members Key.opening.name standard.sentinels.opening
  let closing ← textAt members Key.closing.name standard.sentinels.closing
  let glossary ← resolvePaths homes base glossary
  return { outputDirectory, indexFilename, version, style, sentinels := ⟨marker, opening, closing⟩,
           extensions, exclude, glossary, typeModules }

theorem ofMapping_eq (homes : Homes) (base : Path) (members : List (Setting × Setting)) :
    ofMapping homes base members = (do
      let extensions ← textsAt members Key.extensions.name ({} : Config).extensions
      let exclude ← textsAt members Key.exclude.name ({} : Config).exclude
      let glossary ← textsAt members Key.glossary.name []
      let typeModules ← textsAt members Key.typeModules.name []
      ofTexts homes base members extensions exclude glossary typeModules) :=
  rfl

theorem textAt_of_none {members : List (Setting × Setting)} {name : String}
    (none : Setting.get? members name = none) (standard : Wide) :
    textAt members name standard = .ok standard := by
  rw [textAt, valueAt, none]
  rfl

theorem textsAt_of_none {members : List (Setting × Setting)} {name : String}
    (none : Setting.get? members name = none) (standard : List Wide) :
    textsAt members name standard = .ok standard := by
  rw [textsAt, valueAt, none]
  rfl

/-- A key that is not there is read as its standard value, which passes every test. -/
theorem read_of_none {homes : Homes} {base : Path} {members : List (Setting × Setting)} {key : Key}
    (none : Setting.get? members key.name = none) :
    read homes base members key = .ok (({} : Config).get key) := by
  cases key with
  | outputDirectory =>
    have none : Setting.get? members "output_dir" = Option.none := none
    rw [read, outputDirectoryOf, none]
    rfl
  | extensions =>
    rw [read, textsAt_of_none none]
    rfl
  | glossary =>
    rw [read, textsAt_of_none none]
    rfl
  | exclude | typeModules => exact textsAt_of_none none _
  | indexFilename | version | style | marker | opening | closing => exact textAt_of_none none _

theorem textsAt_congr {members others : List (Setting × Setting)} {name : String}
    (same : Setting.get? others name = Setting.get? members name) (standard : List Wide) :
    textsAt others name standard = textsAt members name standard := by
  rw [textsAt, textsAt, valueAt, valueAt, same]

/-- What a key says depends on its own value only. -/
theorem read_congr {homes : Homes} {base : Path} {members others : List (Setting × Setting)}
    {key : Key}
    (same : Setting.get? others key.name = Setting.get? members key.name) :
    read homes base others key = read homes base members key := by
  cases key with
  | outputDirectory =>
    have same : Setting.get? others "output_dir" = Setting.get? members "output_dir" := same
    rw [read, read, outputDirectoryOf, outputDirectoryOf, same]
  | _ => simp only [read, textAt, textsAt, valueAt, same]

theorem bind_error {α β : Type} {step : Except ConfigError α} {next : α → Except ConfigError β}
    {error : ConfigError} (failed : (step >>= next) = .error error) :
    step = .error error ∨ ∃ value, step = .ok value ∧ next value = .error error := by
  cases step with
  | error other =>
    cases failed
    exact .inl rfl
  | ok value => exact .inr ⟨value, rfl, failed⟩

/-- Each field of a configuration is what its key says. -/
theorem read_of_ofMapping {homes : Homes} {base : Path} {members : List (Setting × Setting)}
    {config : Config}
    (done : ofMapping homes base members = .ok config) (key : Key) :
    read homes base members key = .ok (config.get key) := by
  rw [ofMapping_eq] at done
  obtain ⟨extensions, extensionsRead, done⟩ := bind_ok done
  obtain ⟨exclude, excludeRead, done⟩ := bind_ok done
  obtain ⟨glossary, glossaryRead, done⟩ := bind_ok done
  obtain ⟨typeModules, typeModulesRead, done⟩ := bind_ok done
  unfold ofTexts at done
  split at done
  · cases done
  · rename_i nonempty
    obtain ⟨outputDirectory, outputDirectoryRead, done⟩ := bind_ok done
    obtain ⟨indexFilename, indexRead, done⟩ := bind_ok done
    obtain ⟨version, versionRead, done⟩ := bind_ok done
    obtain ⟨style, styleRead, done⟩ := bind_ok done
    obtain ⟨marker, markerRead, done⟩ := bind_ok done
    obtain ⟨opening, openingRead, done⟩ := bind_ok done
    obtain ⟨closing, closingRead, done⟩ := bind_ok done
    obtain ⟨paths, resolved, done⟩ := bind_ok done
    cases done
    cases key with
    | extensions =>
      rw [read, extensionsRead]
      exact if_neg nonempty
    | glossary =>
      rw [read, glossaryRead]
      exact resolved
    | outputDirectory => exact outputDirectoryRead
    | indexFilename => exact indexRead
    | version => exact versionRead
    | style => exact styleRead
    | marker => exact markerRead
    | opening => exact openingRead
    | closing => exact closingRead
    | exclude => exact excludeRead
    | typeModules => exact typeModulesRead

/-- What stops a configuration is what one of its keys says. -/
theorem exists_read_of_error {homes : Homes} {base : Path} {members : List (Setting × Setting)}
    {error : ConfigError} (failed : ofMapping homes base members = .error error) :
    ∃ key, read homes base members key = .error error := by
  rw [ofMapping_eq] at failed
  -- The first key that fails is the one; its place in the order of reading does not matter.
  rcases bind_error failed with failed | ⟨extensions, extensionsRead, failed⟩
  · refine ⟨.extensions, ?_⟩
    rw [read, failed]
    rfl
  rcases bind_error failed with failed | ⟨exclude, -, failed⟩
  · exact ⟨.exclude, failed⟩
  rcases bind_error failed with failed | ⟨glossary, glossaryRead, failed⟩
  · refine ⟨.glossary, ?_⟩
    rw [read, failed]
    rfl
  rcases bind_error failed with failed | ⟨typeModules, -, failed⟩
  · exact ⟨.typeModules, failed⟩
  unfold ofTexts at failed
  split at failed
  · rename_i empty
    cases failed
    refine ⟨.extensions, ?_⟩
    rw [read, extensionsRead]
    exact if_pos empty
  rcases bind_error failed with failed | ⟨outputDirectory, -, failed⟩
  · exact ⟨.outputDirectory, failed⟩
  rcases bind_error failed with failed | ⟨indexFilename, -, failed⟩
  · exact ⟨.indexFilename, failed⟩
  rcases bind_error failed with failed | ⟨version, -, failed⟩
  · exact ⟨.version, failed⟩
  rcases bind_error failed with failed | ⟨style, -, failed⟩
  · exact ⟨.style, failed⟩
  rcases bind_error failed with failed | ⟨marker, -, failed⟩
  · exact ⟨.marker, failed⟩
  rcases bind_error failed with failed | ⟨opening, -, failed⟩
  · exact ⟨.opening, failed⟩
  rcases bind_error failed with failed | ⟨closing, -, failed⟩
  · exact ⟨.closing, failed⟩
  rcases bind_error failed with failed | ⟨paths, -, failed⟩
  · refine ⟨.glossary, ?_⟩
    rw [read, glossaryRead]
    exact failed
  · cases failed

/-- One key alone is read as it is in the whole mapping, and nothing else can stop it. -/
theorem ofMapping_only (homes : Homes) (base : Path) (members : List (Setting × Setting))
    (key : Key) :
    (ofMapping homes base (Setting.only key.name members)).map (·.get key) =
      read homes base members key := by
  have same : read homes base (Setting.only key.name members) key = read homes base members key :=
    read_congr (Setting.get?_only key.name members)
  cases outcome : ofMapping homes base (Setting.only key.name members) with
  | ok alone => exact (read_of_ofMapping outcome key).symm.trans same
  | error error =>
    obtain ⟨other, failed⟩ := exists_read_of_error outcome
    by_cases here : other = key
    · subst here
      exact failed.symm.trans same
    · have missing : Setting.get? (Setting.only key.name members) other.name = none :=
        Setting.get?_only_of_ne (fun names => here (Key.name_injective names)) members
      cases failed.symm.trans (read_of_none missing)

/-- What can be read under a key is what a mapping with that key alone sets. -/
theorem exists_only_of_read {homes : Homes} {base : Path} {members : List (Setting × Setting)}
    {key : Key}
    {value : key.Value} (said : read homes base members key = .ok value) :
    ∃ alone, ofMapping homes base (Setting.only key.name members) = .ok alone ∧
      value = alone.get key := by
  rw [← ofMapping_only] at said
  cases outcome : ofMapping homes base (Setting.only key.name members) with
  | error error =>
    rw [outcome] at said
    cases said
  | ok alone =>
    rw [outcome] at said
    exact ⟨alone, rfl, (Except.ok.inj said).symm⟩

theorem only_of_read_error {homes : Homes} {base : Path} {members : List (Setting × Setting)}
    {key : Key}
    {error : ConfigError} (said : read homes base members key = .error error) :
    ofMapping homes base (Setting.only key.name members) = .error error := by
  rw [← ofMapping_only] at said
  cases outcome : ofMapping homes base (Setting.only key.name members) with
  | error other =>
    rw [outcome] at said
    exact congrArg Except.error (Except.error.inj said)
  | ok alone =>
    rw [outcome] at said
    cases said

/-- A mapping is a configuration exactly if each of its keys alone is one. -/
theorem ofMapping_loads_iff (homes : Homes) (base : Path) (members : List (Setting × Setting)) :
    (∃ config, ofMapping homes base members = .ok config) ↔
      ∀ key : Key, ∃ alone, ofMapping homes base (Setting.only key.name members) = .ok alone := by
  constructor
  · rintro ⟨config, loaded⟩ key
    obtain ⟨alone, aloneLoaded, -⟩ := exists_only_of_read (read_of_ofMapping loaded key)
    exact ⟨alone, aloneLoaded⟩
  · intro each
    cases outcome : ofMapping homes base members with
    | ok config => exact ⟨config, rfl⟩
    | error error =>
      obtain ⟨key, said⟩ := exists_read_of_error outcome
      obtain ⟨alone, loaded⟩ := each key
      cases (only_of_read_error said).symm.trans loaded

def listKeys : List Key :=
  [.extensions, .exclude, .glossary, .typeModules]

/-- Apart from its lists a configuration depends on the values of the other keys. -/
theorem ofTexts_congr {homes : Homes} {base : Path} {members others : List (Setting × Setting)}
    (values : ∀ key, key ∉ listKeys →
      Setting.get? others key.name = Setting.get? members key.name) :
    ofTexts homes base others = ofTexts homes base members := by
  have directory : Setting.get? others "output_dir" = Setting.get? members "output_dir" :=
    values .outputDirectory (by decide)
  funext extensions exclude glossary typeModules
  rw [ofTexts, ofTexts]
  simp only [outputDirectoryOf, directory, textAt, valueAt, values .indexFilename (by decide),
    values .version (by decide), values .style (by decide), values .marker (by decide),
    values .opening (by decide), values .closing (by decide)]

/-- A configuration depends on the texts of the keys that take lists and on the values of the
others. -/
theorem ofMapping_congr {homes : Homes} {base : Path} {members others : List (Setting × Setting)}
    (texts : ∀ key ∈ listKeys, ∀ standard,
      textsAt others key.name standard = textsAt members key.name standard)
    (values : ∀ key, key ∉ listKeys →
      Setting.get? others key.name = Setting.get? members key.name) :
    ofMapping homes base others = ofMapping homes base members := by
  rw [ofMapping_eq, ofMapping_eq, texts .extensions (by decide), texts .exclude (by decide),
    texts .glossary (by decide), texts .typeModules (by decide), ofTexts_congr values]

/-- Whether a member of a mapping is under a key that a configuration knows. -/
def isKnown (member : Setting × Setting) : Bool :=
  Key.all.any fun key => member.1.isText key.name

/-- Members under other keys have no effect. -/
theorem ofMapping_filter_isKnown (homes : Homes) (base : Path)
    (members : List (Setting × Setting)) :
    ofMapping homes base (members.filter isKnown) = ofMapping homes base members := by
  have same (key : Key) :
      Setting.get? (members.filter isKnown) key.name = Setting.get? members key.name :=
    Setting.get?_filter (fun _ here => List.any_eq_true.2 ⟨key, key.mem_all, here⟩) members
  exact ofMapping_congr (fun key _ => textsAt_congr (same key)) fun key _ => same key

/-- The file at a path holds these members. -/
structure Holds (tree : Tree) (path : Path) (members : List (Setting × Setting)) : Prop where
  present : tree.exists? path = .ok true
  mapping : ∃ bytes, tree.read path = .ok bytes ∧ mappingOf bytes = .ok members

theorem load_eq_ofMapping {tree : Tree} {path : Path} {members : List (Setting × Setting)}
    (holds : Holds tree path members) (homes : Homes) :
    load tree homes (some path) = ofMapping homes path.parent members := by
  obtain ⟨present, bytes, content, mapping⟩ := holds
  simp only [load, present, content, mapping]

/-- A file is a configuration exactly if each of its keys alone is one, and then the one whose
fields are those that the keys alone set. Otherwise the error is the one of some key alone. Files
that differ in keys that are not known say the same. A key alone is loaded by any file that holds
nothing else. -/
theorem load_by_keys {tree : Tree} {path : Path} {members : List (Setting × Setting)}
    (holds : Holds tree path members) (homes : Homes) :
    ((∃ config, load tree homes (some path) = .ok config) ↔
      ∀ key : Key, ∃ alone,
        ofMapping homes path.parent (Setting.only key.name members) = .ok alone) ∧
    (∀ config, load tree homes (some path) = .ok config ↔
      ∀ key : Key, ∃ alone,
        ofMapping homes path.parent (Setting.only key.name members) = .ok alone ∧
          config.get key = alone.get key) ∧
    (∀ error, load tree homes (some path) = .error error → ∃ key : Key,
      ofMapping homes path.parent (Setting.only key.name members) = .error error) ∧
    (∀ other others, Holds other path others →
      others.filter isKnown = members.filter isKnown →
        load other homes (some path) = load tree homes (some path)) ∧
    ∀ other (key : Key), Holds other path (Setting.only key.name members) →
      load other homes (some path) =
        ofMapping homes path.parent (Setting.only key.name members) := by
  rw [load_eq_ofMapping holds homes]
  have loads := ofMapping_loads_iff homes path.parent members
  refine ⟨loads, fun config => ⟨?_, ?_⟩, ?_, ?_, ?_⟩
  · intro loaded key
    exact exists_only_of_read (read_of_ofMapping loaded key)
  · intro fields
    obtain ⟨config', loaded⟩ := loads.2 fun key => (fields key).imp fun _ => And.left
    have same : config = config' := eq_of_get fun key => by
      obtain ⟨alone, aloneLoaded, field⟩ := fields key
      obtain ⟨alone', aloneLoaded', field'⟩ := exists_only_of_read (read_of_ofMapping loaded key)
      cases aloneLoaded.symm.trans aloneLoaded'
      rw [field, field']
    rw [same, loaded]
  · intro error failed
    obtain ⟨key, said⟩ := exists_read_of_error failed
    exact ⟨key, only_of_read_error said⟩
  · intro other others otherHolds known
    rw [load_eq_ofMapping otherHolds homes, ← ofMapping_filter_isKnown, known,
      ofMapping_filter_isKnown]
  · intro other key otherHolds
    exact load_eq_ofMapping otherHolds homes

/-- A file that is there and is a configuration holds a mapping. -/
theorem exists_holds_of_load {tree : Tree} {homes : Homes} {path : Path} {config : Config}
    (present : tree.exists? path = .ok true)
    (loaded : load tree homes (some path) = .ok config) : ∃ members, Holds tree path members := by
  simp only [load, present] at loaded
  cases content : tree.read path with
  | error error =>
    rw [content] at loaded
    cases loaded
  | ok bytes =>
    rw [content] at loaded
    cases mapping : mappingOf bytes with
    | error error =>
      simp only [mapping] at loaded
      cases loaded
    | ok members => exact ⟨members, present, bytes, content, mapping⟩

def documentHomes : Homes :=
  .only ⟨.here, []⟩

def documentPath : Path :=
  ⟨.here, ["docs.yaml"]⟩

def documentTree (content : String) : Tree where
  workingDirectory := []
  entries := [(["docs.yaml"], .file (Text.Utf8.encode content.toList))]

def keyedTree : Tree :=
  documentTree "version: 2\nglossary: a.csv\nother: []\n"

theorem keyedTree_by_keys :
    ∃ members, Holds keyedTree documentPath members ∧
      load keyedTree documentHomes (some documentPath) =
        .ok { version := "2", glossary := [⟨.here, ["a.csv"]⟩] } ∧
      ∀ key : Key, ∃ alone,
        ofMapping documentHomes documentPath.parent (Setting.only key.name members) =
          .ok alone := by
  have loaded : load keyedTree documentHomes (some documentPath) =
      .ok { version := "2", glossary := [⟨.here, ["a.csv"]⟩] } := by decide +kernel
  obtain ⟨members, holds⟩ := exists_holds_of_load (by decide +kernel) loaded
  exact ⟨members, holds, loaded, (load_by_keys holds _).1.1 ⟨_, loaded⟩⟩

end Config

end EndpointDocs
