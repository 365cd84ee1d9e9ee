import EndpointDocs.Number.Numeral
import EndpointDocs.Site

/-!
The command line: one directory to scan, a configuration file, an output directory in place of the
configured one, and further modules with payload types. What is not given on the line may stand in
the environment.
-/
namespace EndpointDocs.Command

structure Request where
  root : Path := ⟨.here, []⟩
  config : Option Path := some ⟨.here, ["config", "wsdoc.yaml"]⟩
  outputDirectory : Option Path := none
  types : List String := []
  deriving DecidableEq, Repr

/-- What a command line gives, each at most once, except for types, and how often it asks for an
empty list of types. -/
structure Options where
  root : Option String := none
  config : Option String := none
  outputDirectory : Option String := none
  types : List String := []
  emptied : Nat := 0
  deriving DecidableEq, Repr

/-- Where the environment and the tree that a command works on come from. -/
structure Surroundings where
  environment : List (String × String)
  homes : Homes
  modules : List Module
  look : Look
  now : Moment

def setOnce (current : Option String) (value : String) : Option (Option String) :=
  match current with
  | none => some (some value)
  | some _ => none

/-- The options with one more; nothing if the name is not known or the option is set already. -/
def Options.set (options : Options) (name value : String) : Option Options :=
  if name = "--root" then
    (setOnce options.root value).map fun root => { options with root }
  else if name = "--config" then
    (setOnce options.config value).map fun config => { options with config }
  else if name = "--output-dir" then
    (setOnce options.outputDirectory value).map fun outputDirectory =>
      { options with outputDirectory }
  else if name = "--types" then some { options with types := options.types ++ [value] }
  else none

def isDashed (argument : String) : Bool :=
  argument.toList.head? = some '-'

/-- Whether an argument is an option rather than a value: a negative number is a value. -/
def isOption (argument : String) : Bool :=
  isDashed argument && !Numeral.isComplex argument.toList

/-- Whether a word says yes or no. -/
def answer? (word : String) : Option Bool :=
  let word := Text.lower word
  if ["yes", "y", "1", "true", "t"].contains word then some true
  else if ["no", "n", "0", "false", "f"].contains word then some false
  else none

def optionNames : List String :=
  ["--root", "--config", "--output-dir", "--types"]

/-- The option that asks for an empty list of types. It takes no value, but may be answered. -/
def emptyTypes : String :=
  "--empty-types"

/-- Reads the options among arguments, and gives the arguments that are left over; nothing if a
value is missing or an option is repeated. -/
def Options.readNamed (options : Options) : List String → Option (Options × List String)
  | [] => some (options, [])
  | argument :: rest =>
    let name := String.ofList (Text.before '=' argument.toList)
    let hasValue := argument.toList.contains '='
    let value := String.ofList (Text.behind '=' argument.toList)
    if isDashed argument && name = emptyTypes then
      match if hasValue then answer? value else some true with
      | some true => { options with emptied := options.emptied + 1 }.readNamed rest
      | some false => options.readNamed rest
      | none => none
    else if isDashed argument && optionNames.contains name then
      if hasValue then
        match options.set name value with
        | some options => options.readNamed rest
        | none => none
      else
        match rest with
        | value :: rest =>
          if isOption value then none
          else
            match options.set name value with
            | some options => options.readNamed rest
            | none => none
        | [] => none
    else (options.readNamed rest).map fun (options, left) => (options, argument :: left)

/-- The arguments before the one that ends the options, and those after it. -/
def splitAtEnd (arguments : List String) : List String × List String :=
  (arguments.takeWhile (· != "--"), (arguments.dropWhile (· != "--")).drop 1)

/-- Reads arguments; nothing if they are malformed. -/
def Options.read (arguments : List String) : Option Options :=
  let (before, after) := splitAtEnd arguments
  match Options.readNamed {} before with
  | none => none
  | some (options, left) =>
    if left.any isOption then none
    else
      match left ++ after with
      | [] => some options
      | [root] => options.set "--root" root
      | _ => none

/-- Whether an empty list of types is asked for more than once, or along with types. -/
def Options.isContradictory (options : Options) : Bool :=
  0 < options.emptied && 1 < options.emptied + options.types.length

def environmentNames : List String :=
  ["WSDOC_ROOT", "WSDOC_CONFIG", "WSDOC_OUTPUT_DIR", "WSDOC_TYPES"]

/-- What is asked for, with the environment where the options are silent. -/
def Options.request (options : Options) (environment : List (String × String)) : Request :=
  let standard : Request := {}
  let given (option : Option String) (name : String) : Option Path :=
    (option <|> environment.lookup name).map fun text => Path.ofText text
  { root := (given options.root "WSDOC_ROOT").getD standard.root
    config := (given options.config "WSDOC_CONFIG") <|> standard.config
    outputDirectory := given options.outputDirectory "WSDOC_OUTPUT_DIR"
    types :=
      if options.types.isEmpty && options.emptied = 0 then
        ((environment.lookup "WSDOC_TYPES").map Text.words).getD []
      else options.types }

inductive Error where
  /-- An empty list of types is asked for, and something else too. -/
  | contradictoryTypes
  | config (error : ConfigError)
  | setup (error : SetupError)
  | run (error : RunError)
  deriving DecidableEq, Repr

def Error.message : Error → Wide
  | .contradictoryTypes => ""
  | .config error => error.message
  | .setup error => error.message
  | .run error => error.message

/-- How a command ended: with a status, or with an error. -/
inductive Ending where
  | exited (status : Nat)
  | failed (error : Error)
  deriving DecidableEq, Repr

structure Outcome where
  ending : Ending
  output : Wide
  log : Log
  tree : Tree
  deriving DecidableEq, Repr

/-- A path as it is told to the user: from the working directory if it lies below it. -/
def shownPath (tree : Tree) (path : Path) : Wide :=
  if path.isAbsolute then
    match path.relativeTo? ⟨.root, tree.workingDirectory⟩ with
    | some relative => relative.text
    | none => path.text
  else path.text

def generate (surroundings : Surroundings) (tree : Tree) (request : Request) : Outcome :=
  match Config.load tree surroundings.homes request.config with
  | .error error => ⟨.failed (.config error), "", [], tree⟩
  | .ok config =>
    let config :=
      { config with
        outputDirectory := request.outputDirectory.getD config.outputDirectory
        typeModules := config.typeModules ++ request.types.map Wide.ofString }
    match Site.ofModules tree config surroundings.modules surroundings.look surroundings.now with
    | (log, .error error) => ⟨.failed (.setup error), "", log, tree⟩
    | (log, .ok site) =>
      match site.run ⟨Glossary.empty, [], tree, log⟩ request.root with
      | (.ok written, work) =>
        let lines := written.map fun path =>
          Wide.ofString "wrote " ++ shownPath work.tree path ++ "\n"
        ⟨.exited 0, lines.flatten, work.log, work.tree⟩
      | (.error (.root (.notDirectory root)), work) =>
        let entry := LogEntry.error
          (Wide.ofString "Error walking file path " ++ root.text ++ ": " ++
            (DiscoveryError.notDirectory root).message)
        ⟨.exited 1, "", work.log ++ [entry], work.tree⟩
      | (.error error, work) => ⟨.failed (.run error), "", work.log, work.tree⟩

/-- Runs a command line. One that is malformed does nothing. -/
def run (surroundings : Surroundings) (tree : Tree) (arguments : List String) : Outcome :=
  match Options.read arguments with
  | none => ⟨.exited 2, "", [], tree⟩
  | some options =>
    if options.isContradictory then ⟨.failed .contradictoryTypes, "", [], tree⟩
    else generate surroundings tree (options.request surroundings.environment)

end EndpointDocs.Command
