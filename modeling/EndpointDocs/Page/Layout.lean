import EndpointDocs.Files.Tree
import EndpointDocs.Page.Index
import EndpointDocs.Page.Reference
import EndpointDocs.Text.Lines
import EndpointDocs.Text.Utf8

/-!
What pages look like, and writing them. The pages have a layout of their own; a directory of
templates may replace it. How such a template is read, and what it makes of a page's data, is up to
an engine: a template may be malformed, and it may fail where it is used.
-/
namespace EndpointDocs.Page

structure TemplateError where
  message : Wide
  deriving DecidableEq, Repr

/-- What a template makes of data. -/
abbrev Template (Data : Type) := Data → Except TemplateError Wide

/-- What the texts of templates stand for. -/
structure Engine where
  reference : String → Except TemplateError (Template ReferenceData)
  index : String → Except TemplateError (Template IndexData)

/-- A directory of templates and the engine that reads them. -/
structure Templates where
  directory : Path
  engine : Engine

/-- A layout: the pages' own, or a template. -/
inductive Layout (Data : Type) where
  | standard
  | custom (template : Template Data)

/-- Why a layout is not to be had. -/
inductive LayoutError where
  | notFound (template : String) (directory : Path)
  | undecodable (fault : Text.Utf8.Fault)
  | malformed (error : TemplateError)
  deriving DecidableEq, Repr

def LayoutError.message : LayoutError → Wide
  | .notFound template directory =>
    Text.quoted template ++ " not found in search path: " ++ Text.quoted directory.text
  | .undecodable fault => fault.message
  | .malformed error => error.message

def referenceTemplate : String :=
  "doc_page.jinja"

def indexTemplate : String :=
  "docs_index.jinja"

/-- The layout that a directory of templates gives, if there is one. -/
def Layout.find {Data : Type} (tree : Tree) (templates : Option Templates) (name : String)
    (compile : Engine → String → Except TemplateError (Template Data)) :
    Except LayoutError (Layout Data) :=
  match templates with
  | none => .ok .standard
  | some ⟨directory, engine⟩ =>
    match tree.read (directory.join ⟨.here, [name]⟩) with
    | .error _ => .error (.notFound name directory)
    | .ok bytes =>
      match Text.Utf8.decode bytes with
      | .error fault => .error (.undecodable fault)
      | .ok text =>
        match compile engine (String.ofList (Text.unifyBreaks text)) with
        | .error error => .error (.malformed error)
        | .ok template => .ok (.custom template)

/-- What a layout makes of data, where `standard` is the pages' own way. -/
def Layout.render {Data : Type} (layout : Layout Data) (standard : Data → Wide) :
    Template Data := fun data =>
  match layout with
  | .standard => .ok (finish (standard data))
  | .custom template => (template data).map finish

def referenceIn (layout : Layout ReferenceData) (record : Record)
    (stylesheet : CodeBlock.Stylesheet) (now : Moment) : Except TemplateError Wide :=
  layout.render (fun data => reference data) (.ofRecord record stylesheet now)

def indexIn (layout : Layout IndexData) (contents : List Record) (version : Wide)
    (now : Moment) : Except TemplateError Wide :=
  layout.render index (.ofContents contents version now)

/-- Why a page that is there to be written was not. -/
inductive WriteError where
  | file (error : FileError)
  | template (error : TemplateError)
  deriving DecidableEq, Repr

def WriteError.message : WriteError → Wide
  | .file error => error.message
  | .template error => error.message

def WriteError.refusal? : WriteError → Option FileError
  | .file error => error.refusal?
  | .template _ => none

inductive Error where
  | untitled
  | write (error : WriteError)
  deriving DecidableEq, Repr

def Error.message : Error → Wide
  | .untitled => "Cannot render a record without a @title."
  | .write error => error.message

/-- Writes `page` to `path` after creating `directory`. -/
def writeInto (tree : Tree) (directory path : Path) (page : Except TemplateError Wide) :
    Except WriteError Path × Tree :=
  match tree.createDirectories directory with
  | (some error, tree) => (.error (.file error), tree)
  | (none, tree) =>
    match page with
    | .error error => (.error (.template error), tree)
    | .ok page =>
      match Text.Utf8.encodeWide page with
      | .ok bytes =>
        match tree.write path bytes with
        | .error error => (.error (.file error), tree)
        | .ok written => (.ok path, written)
      | .error fault =>
        -- the file is there, and empty, before the page is encoded
        match tree.write path [] with
        | .error error => (.error (.file error), tree)
        | .ok emptied => (.error (.file (.unencodable fault)), emptied)

def referencePath (directory : Path) (record : Record) : Path :=
  directory.join (Path.ofText record.filename)

def writeReference (tree : Tree) (layout : Layout ReferenceData) (directory : Path)
    (stylesheet : CodeBlock.Stylesheet) (now : Moment) (record : Record) :
    Except Error Path × Tree :=
  if record.filename.isEmpty then (.error .untitled, tree)
  else
    match writeInto tree directory (referencePath directory record)
        (referenceIn layout record stylesheet now) with
    | (.error error, tree) => (.error (.write error), tree)
    | (.ok path, tree) => (.ok path, tree)

def writeIndex (tree : Tree) (layout : Layout IndexData) (path : Path) (version : Wide)
    (now : Moment) (contents : List Record) : Except WriteError Path × Tree :=
  writeInto tree path.parent path (indexIn layout contents version now)

end EndpointDocs.Page
