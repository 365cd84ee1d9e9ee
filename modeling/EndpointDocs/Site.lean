import EndpointDocs.Config
import EndpointDocs.Directive
import EndpointDocs.Glossary.Load
import EndpointDocs.Page.Layout
import EndpointDocs.Payload.Module
import EndpointDocs.Source.Discovery

/-!
Building a site of reference pages: the glossary is loaded, every block of every source gives a
record and a page, and an index lists the records. What fails is reported and left out; a record
whose page could not be written still stands in the index.
-/
namespace EndpointDocs

structure Site where
  config : Config
  registry : Registry
  pageLayout : Page.Layout Page.ReferenceData
  indexLayout : Page.Layout Page.IndexData
  stylesheet : CodeBlock.Stylesheet
  now : Moment

/-- What the pages of a site get from outside: templates, if there are any, and the rules of each
highlighting style. -/
structure Look where
  templates : Option Page.Templates
  stylesheetOf : Wide → CodeBlock.Stylesheet

/-- Why the building of a site cannot begin. -/
inductive SetupError where
  | imports (error : ImportError)
  | unknownStyle (name : Wide)
  | layout (error : Page.LayoutError)
  deriving DecidableEq, Repr

def SetupError.message : SetupError → Wide
  | .imports error => error.message
  | .unknownStyle name => CodeBlock.noStyleMessage name
  | .layout error => error.message

structure Work where
  glossary : Glossary
  /-- The records so far, in the order in which their blocks were met. -/
  contents : List Record
  tree : Tree
  log : Log
  deriving DecidableEq, Repr

/-- Why building a site stopped. -/
inductive RunError where
  | root (error : DiscoveryError)
  | source (error : SourceError)
  | file (error : FileError)
  deriving DecidableEq, Repr

def RunError.message : RunError → Wide
  | .root error => error.message
  | .source error => error.message
  | .file error => error.message

namespace Site

/-- The style and the layouts are looked up before a site is built. -/
def ofRegistry (tree : Tree) (config : Config) (registry : Registry) (look : Look)
    (now : Moment) : Except SetupError Site :=
  if CodeBlock.isStyle config.style then
    match Page.Layout.find tree look.templates Page.referenceTemplate (·.reference) with
    | .error error => .error (.layout error)
    | .ok pageLayout =>
      match Page.Layout.find tree look.templates Page.indexTemplate (·.index) with
      | .error error => .error (.layout error)
      | .ok indexLayout =>
        let stylesheet := look.stylesheetOf config.style
        .ok { config, registry, pageLayout, indexLayout, stylesheet, now }
  else .error (.unknownStyle config.style)

/-- The site whose types come from the modules of its configuration, and the reports on them. -/
def ofModules (tree : Tree) (config : Config) (modules : List Module) (look : Look)
    (now : Moment) : Log × Except SetupError Site :=
  match Registry.ofModules modules config.typeModules with
  | (log, .error error) => (log, .error (.imports error))
  | (log, .ok registry) => (log, ofRegistry tree config registry look now)

def report (work : Work) (entry : LogEntry) : Work :=
  { work with log := work.log ++ [entry] }

/-- Loads the glossary sources; those that failed come back. -/
def loadGlossary (site : Site) (work : Work) : Except RunError (List Path) × Work :=
  match work.glossary.loadAll work.tree site.config.glossary with
  | (glossary, log, .ok failed) => (.ok failed, { work with glossary, log := work.log ++ log })
  | (glossary, log, .error error) =>
    (.error (.file error), { work with glossary, log := work.log ++ log })

/-- Writes the page of a record and enters the record into the contents. -/
def addRecord (site : Site) (work : Work) (record : Record) : Option Path × Work :=
  match Page.writeReference work.tree site.pageLayout site.config.outputDirectory site.stylesheet
      site.now record with
  | (.ok path, tree) => (some path, { work with tree, contents := work.contents ++ [record] })
  | (.error error, tree) =>
    let entry := LogEntry.error
      (Wide.ofString ("Error generating reference page for " ++ Text.quoted record.title ++ ": ") ++
        error.message)
    (none, report { work with tree, contents := work.contents ++ [record] } entry)

/-- Documents one block: its record, and its page if that could be written. -/
def processBlock (site : Site) (work : Work) (lines : List String) (source : Option Path) :
    Except RunError (Record × Option Path) × Work :=
  match Record.ofLinesChecked work.glossary site.registry site.config.sentinels.marker lines
      source with
  | .error error => (.error (.source error), work)
  | .ok record =>
    let (page, work) := site.addRecord work record
    (.ok (record, page), work)

/-- Documents blocks in order, empty ones aside; the pages that were written come back. -/
def processBlocks (site : Site) (work : Work) (source : Option Path) :
    List (List String) → Except RunError (List Path) × Work
  | [] => (.ok [], work)
  | block :: rest =>
    if block.isEmpty then site.processBlocks work source rest
    else
      match site.processBlock work block source with
      | (.error error, work) => (.error error, work)
      | (.ok (_, page), work) =>
        match site.processBlocks work source rest with
        | (.error error, work) => (.error error, work)
        | (.ok pages, work) => (.ok (page.toList ++ pages), work)

/-- Documents the blocks of a file; one that cannot be read is reported. -/
def processFile (site : Site) (work : Work) (path : Path) :
    Except RunError (List Path) × Work :=
  match Block.ofFile work.tree site.config.sentinels path with
  | .ok blocks => site.processBlocks work (some path) blocks
  | .error .emptyMarker => (.error (.source .emptyMarker), work)
  | .error error =>
    match error.refusal? with
    | some refusal => (.error (.file refusal), work)
    | none =>
      let entry := LogEntry.error
        (Wide.ofString "Error scanning file " ++ path.text ++ ": " ++ error.message)
      (.ok [], report work entry)

def processFiles (site : Site) (work : Work) : List Path → Except RunError (List Path) × Work
  | [] => (.ok [], work)
  | path :: rest =>
    match site.processFile work path with
    | (.error error, work) => (.error error, work)
    | (.ok pages, work) =>
      match site.processFiles work rest with
      | (.error error, work) => (.error error, work)
      | (.ok more, work) => (.ok (pages ++ more), work)

/-- Writes the index; nothing comes back if it could not be written. -/
def writeIndex (site : Site) (work : Work) : Except RunError (Option Path) × Work :=
  match Page.writeIndex work.tree site.indexLayout site.config.indexPath site.config.version
      site.now work.contents with
  | (.ok path, tree) => (.ok (some path), { work with tree })
  | (.error error, tree) =>
    match error.refusal? with
    | some refusal => (.error (.file refusal), { work with tree })
    | none =>
      let entry := LogEntry.error (Wide.ofString "Error generating index page: " ++ error.message)
      (.ok none, report { work with tree } entry)

/-- Builds the site for the sources below `root`: the written pages in order, and the index. -/
def run (site : Site) (work : Work) (root : Path) : Except RunError (List Path) × Work :=
  match site.loadGlossary { work with contents := [] } with
  | (.error error, work) => (.error error, work)
  | (.ok _, work) =>
    match Discovery.sources work.tree site.config.extensions site.config.exclude root with
    | .error error => (.error (.root error), work)
    | .ok sources =>
      -- the sources are listed once, before the first page is written
      match site.processFiles work sources with
      | (.error error, work) => (.error error, work)
      | (.ok pages, work) =>
        match site.writeIndex work with
        | (.error error, work) => (.error error, work)
        | (.ok index, work) => (.ok (pages ++ index.toList), work)

end Site

end EndpointDocs
