import EndpointDocs.Log
import EndpointDocs.Payload.Registry

/-!
Modules that define payload types. A module binds attribute names to classes; its payload types are
the record classes that it binds and that say they belong to it. A registry is filled from a list of
module names; a module that cannot be imported is reported and left out.
-/
namespace EndpointDocs

/-- How the type of a field is declared: as text, as a class, or as an object with a printed form.
-/
inductive Declared where
  | text (source : String)
  | className (name : String)
  | printed (form : String)
  deriving DecidableEq, Repr

/-- The text of a declared type. A printed form loses its standard qualifier in front. -/
def Declared.source : Declared → String
  | .text source => source
  | .className name => name
  | .printed form =>
    match "typing.".toList.isPrefixOf? form.toList with
    | some rest => String.ofList rest
    | none => form

/-- A class: its name, the module it says it belongs to, whether it is a record, and its fields. -/
structure ClassSpec where
  name : String
  owner : String
  isRecord : Bool
  fields : List Field
  deriving DecidableEq, Repr

def ClassSpec.shown (spec : ClassSpec) : String :=
  "<class '" ++ spec.owner ++ "." ++ spec.name ++ "'>"

/-- The classes that a module binds, by attribute name. -/
abbrev Attributes := OrderedMap String ClassSpec

/-- A module that can be asked for: its attributes, or the message with which its import fails. -/
structure Module where
  name : String
  content : Except String Attributes

/-- Why a module has no attributes to offer. -/
inductive ImportError where
  /-- The import fails, and says so. -/
  | failed (message : String)
  | absent (name : Wide)
  /-- The part of the name before the last dot belongs to a module that holds no other ones. -/
  | notPackage (name parent : Wide)
  | emptyName
  | relativeName (name : Wide)
  deriving DecidableEq, Repr

def ImportError.message : ImportError → String
  | .failed message => message
  | .absent name => "No module named " ++ Text.quoted name
  | .notPackage name parent =>
    "No module named " ++ Text.quoted name ++ "; " ++ Text.quoted parent ++ " is not a package"
  | .emptyName => "Empty module name"
  | .relativeName name =>
    "the 'package' argument is required to perform a relative import for " ++ Text.quoted name

/-- Whether a failing import is reported and passed over. A name that names no module ends the
work. -/
def ImportError.isReported : ImportError → Bool
  | .failed _ | .absent _ | .notPackage _ _ => true
  | .emptyName | .relativeName _ => false

/-- Refusing a class that is not a record, or any other value. -/
def notRecordMessage (shown : String) : String :=
  "Only dataclasses can be registered, got " ++ shown ++ "."

namespace Module

def find? (modules : List Module) (name : Wide) : Option Module :=
  modules.find? fun module => Wide.ofString module.name = name

/-- The attributes of the module with the dotted name `parts`, newest part first. A name that is not
listed is looked for in its parent, which is imported before. -/
def importParts (modules : List Module) : List Wide → Except ImportError Attributes
  | [] => .error .emptyName
  | last :: above =>
    let name := dotted (last :: above)
    match find? modules name with
    | some found => found.content.mapError .failed
    | none =>
      if above.isEmpty then .error (.absent name)
      else
        match importParts modules above with
        | .error error => .error error
        | .ok _ => .error (.notPackage name (dotted above))
where
  /-- The name with its parts in reading order. -/
  dotted (parts : List Wide) : Wide :=
    List.intercalate "." parts.reverse

def importNamed (modules : List Module) (name : Wide) : Except ImportError Attributes :=
  if name.isEmpty then .error .emptyName
  else if name.head? = some (.char '.') then .error (.relativeName name)
  else importParts modules (name.splitOn (.char '.')).reverse

end Module

namespace Registry

/-- Registers a class, or says how the class that is no record is shown. -/
def registerClass (registry : Registry) (spec : ClassSpec) : Except String Registry :=
  if spec.isRecord then .ok (registry.register spec.name spec.fields)
  else .error (notRecordMessage spec.shown)

/-- The payload types of a module in the order of their attribute names. -/
def payloadTypes (owner : Wide) (attributes : Attributes) : List ClassSpec :=
  let own := attributes.entries.filter fun binding =>
    Wide.ofString binding.2.owner = owner && binding.2.isRecord
  (own.mergeSort fun a b => decide (a.1 ≤ b.1)).map (·.2)

/-- Registers the payload types of a module, and how many there are. -/
def registerModule (registry : Registry) (owner : Wide) (attributes : Attributes) :
    Registry × Nat :=
  let types := payloadTypes owner attributes
  (types.foldl (fun registry spec => registry.register spec.name spec.fields) registry,
    types.length)

/-- Registers the payload types of modules in order, with a report for each. A name that no import
accepts ends the work. -/
def addModules (modules : List Module) (registry : Registry) :
    List Wide → Log × Except ImportError Registry
  | [] => ([], .ok registry)
  | name :: rest =>
    match Module.importNamed modules name with
    | .error error =>
      if error.isReported then
        let entry :=
          LogEntry.error
            (Wide.ofString "Error importing type module " ++ name ++ ": " ++ error.message)
        let (log, result) := addModules modules registry rest
        (entry :: log, result)
      else ([], .error error)
    | .ok attributes =>
      let (filled, count) := registry.registerModule name attributes
      let entry := LogEntry.info
        (Wide.ofString ("registered " ++ toString count ++ " types from ") ++ name)
      let (log, result) := addModules modules filled rest
      (entry :: log, result)

def ofModules (modules : List Module) (names : List Wide) :
    Log × Except ImportError Registry :=
  addModules modules empty names

end Registry

end EndpointDocs
