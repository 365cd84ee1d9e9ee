import EndpointDocs.Files.Tree
import EndpointDocs.Setting.Value
import EndpointDocs.Source.Block
import EndpointDocs.Text.Lines
import EndpointDocs.Text.Utf8
import EndpointDocs.Yaml.Document

/-!
The configuration of a run. A file holds a mapping; each key that is known has a shape of its own,
and a key that is missing has its standard value. Keys that are not known say nothing.
-/
namespace EndpointDocs

structure Config where
  outputDirectory : Path := ⟨.here, ["doc"]⟩
  indexFilename : Wide := "docs.html"
  version : Wide := "1.0"
  style : Wide := "monokai"
  sentinels : Sentinels := Sentinels.standard
  extensions : List Wide := [".py"]
  exclude : List Wide := ["test_*.py", "*_test.py"]
  glossary : List Path := []
  typeModules : List Wide := []
  deriving DecidableEq, Repr

/-- The home directories of the user who runs the program and of the accounts of the system. -/
structure Homes where
  own : Path
  ofAccount : Wide → Option Path

inductive ConfigError where
  | file (error : FileError)
  | undecodable (fault : Text.Utf8.Fault)
  | yaml (error : Yaml.Error)
  | notMapping
  | notListOfTexts (key : String)
  | emptyText (key : String)
  | noExtension
  | noPath (kindName : String)
  /-- A row of bytes where a path is wanted. -/
  | bytesPath
  /-- A number that is too long to be written. -/
  | longNumber
  | noHome
  deriving DecidableEq, Repr

def ConfigError.message : ConfigError → String
  | .file error => error.message
  | .undecodable fault => fault.message
  | .yaml error => error.message
  | .notMapping => "Top-level YAML structure must be a mapping."
  | .notListOfTexts key => "'" ++ key ++ "' must be a string or a list of strings."
  | .emptyText key => "'" ++ key ++ "' must not be empty."
  | .noExtension => "'extensions' must list at least one file suffix."
  | .noPath kindName => "expected str, bytes or os.PathLike object, not " ++ kindName
  | .bytesPath =>
    "argument should be a str object or an os.PathLike object returning str, " ++
      "not <class 'bytes'>"
  | .longNumber =>
    "Exceeds the limit (4300 digits) for integer string conversion; " ++
      "use sys.set_int_max_str_digits() to increase the limit"
  | .noHome => "Could not determine home directory."

namespace Config

def indexPath (config : Config) : Path :=
  config.outputDirectory.join (Path.ofText config.indexFilename)

/-- The plain text of a value without the blanks around it. -/
def trimmedText (value : Setting) : Except ConfigError Wide :=
  match value.plain? with
  | some text => .ok text.trim
  | none => .error .longNumber

/-- The trimmed text of a value, if there is any. -/
def optionalText (value : Setting) : Except ConfigError (Option Wide) :=
  match value with
  | .null => .ok none
  | value => (trimmedText value).map fun text => if text.isEmpty then none else some text

/-- The texts of the elements of a list, without those that are empty. -/
def itemTexts : List Setting → Except ConfigError (List Wide)
  | [] => .ok []
  | item :: rest =>
    match trimmedText item with
    | .error error => .error error
    | .ok text =>
      (itemTexts rest).map fun texts => if text.isEmpty then texts else text :: texts

/-- The texts of a value that is a text or a list; nothing where no value is set. -/
def textList (key : String) (value : Setting) : Except ConfigError (Option (List Wide)) :=
  match value with
  | .null => .ok none
  | .text text => .ok (some (if text.isBlank then [] else [text]))
  | value =>
    match value.items? with
    | some items => (itemTexts items).map some
    | none => .error (.notListOfTexts key)

/-- The trimmed text of a value, which must not be empty; the standard one where none is set. -/
def requiredText (key : String) (value : Setting) (standard : Wide) : Except ConfigError Wide :=
  match value with
  | .null => .ok standard
  | value =>
    match optionalText value with
    | .error error => .error error
    | .ok (some text) => .ok text
    | .ok none => .error (.emptyText key)

/-- The home directory that a name after a tilde asks for; no name asks for the user's own. -/
def homeOf (homes : Homes) (account : Wide) : Except ConfigError Path :=
  if account.isEmpty then .ok homes.own
  else
    match (⟨.here, [account]⟩ : Path).refusal? with
    | some error => .error (.file error)
    | none =>
      match homes.ofAccount account with
      | some home => .ok home
      | none => .error .noHome

/-- A path whose first name asks for a home directory starts there. -/
def expandHome (homes : Homes) (path : Path) : Except ConfigError Path :=
  match path with
  | ⟨.here, (.char '~' :: account) :: rest⟩ =>
    (homeOf homes account).map fun home => ⟨home.anchor, home.names ++ rest⟩
  | path => .ok path

/-- Paths that are not absolute start at `base`. -/
def resolvePaths (homes : Homes) (base : Path) : List Wide → Except ConfigError (List Path)
  | [] => .ok []
  | value :: rest =>
    match expandHome homes (Path.ofText value) with
    | .error error => .error error
    | .ok path =>
      match resolvePaths homes base rest with
      | .error error => .error error
      | .ok paths => .ok (base.join path :: paths)

def outputDirectoryOf (members : List (Setting × Setting)) : Except ConfigError Path :=
  match Setting.get? members "output_dir" with
  | none => .ok ({} : Config).outputDirectory
  | some (.text text) => .ok (Path.ofText text)
  | some (.bytes _) => .error .bytesPath
  | some value => .error (.noPath value.kindName)

/-- The value of a key; null where it is missing. -/
def valueAt (members : List (Setting × Setting)) (key : String) : Setting :=
  (Setting.get? members key).getD .null

/-- The texts of a key; the standard ones where none are set. -/
def textsAt (members : List (Setting × Setting)) (key : String) (standard : List Wide) :
    Except ConfigError (List Wide) :=
  (textList key (valueAt members key)).map (·.getD standard)

/-- The text of a key; the standard one where none is set. -/
def textAt (members : List (Setting × Setting)) (key : String) (standard : Wide) :
    Except ConfigError Wide :=
  requiredText key (valueAt members key) standard

/-- The configuration that a mapping describes. Paths of glossary sources start at the directory
`base` of its file. -/
def ofMapping (homes : Homes) (base : Path) (members : List (Setting × Setting)) :
    Except ConfigError Config := do
  let standard : Config := {}
  let extensions ← textsAt members "extensions" standard.extensions
  let exclude ← textsAt members "exclude" standard.exclude
  let glossary ← textsAt members "glossary" []
  let typeModules ← textsAt members "type_modules" []
  if extensions.isEmpty then
    throw .noExtension
  let outputDirectory ← outputDirectoryOf members
  let indexFilename ← textAt members "index_filename" standard.indexFilename
  let version ← textAt members "version" standard.version
  let style ← textAt members "pygments_style" standard.style
  let marker ← textAt members "comment_marker" standard.sentinels.marker
  let opening ← textAt members "start_sentinel" standard.sentinels.opening
  let closing ← textAt members "end_sentinel" standard.sentinels.closing
  let glossary ← resolvePaths homes base glossary
  return { outputDirectory, indexFilename, version, style, sentinels := ⟨marker, opening, closing⟩,
           extensions, exclude, glossary, typeModules }

/-- The mapping that a file's bytes hold. A document that says nothing is the empty mapping. -/
def mappingOf (bytes : List UInt8) : Except ConfigError (List (Setting × Setting)) :=
  match Text.Utf8.decodeStream bytes with
  | (_, some fault) => .error (.undecodable fault)
  | (text, none) =>
    match Yaml.load (Text.unifyBreaks text) with
    | .error error => .error (.yaml error)
    | .ok value =>
      if value.isEmpty then .ok []
      else
        match value with
        | .map members | .orderedMap members => .ok members
        | _ => .error .notMapping

/-- The configuration in the file at `path`; the standard one if there is no such file. -/
def load (tree : Tree) (homes : Homes) (path : Option Path) : Except ConfigError Config :=
  match path with
  | none => .ok {}
  | some path =>
    match tree.exists? path with
    | .error error => .error (.file error)
    | .ok false => .ok {}
    | .ok true =>
      match tree.read path with
      | .error error => .error (.file error)
      | .ok bytes =>
        match mappingOf bytes with
        | .error error => .error error
        | .ok members => ofMapping homes path.parent members

end Config

end EndpointDocs
