import EndpointDocs.Glossary.Highlight
import EndpointDocs.Payload.Example
import EndpointDocs.Record
import EndpointDocs.Source.Block

/-!
Directives: comment lines whose first word is a keyword. The lines of a block fill a record from
top to bottom; lines without a directive say nothing.
-/
namespace EndpointDocs

inductive Directive where
  | title
  | url
  | synopsis
  | method
  | description
  | input
  | response
  deriving DecidableEq, Repr

namespace Directive

def ofKeyword? (keyword : String) : Option Directive :=
  if keyword = "@title" then some .title
  else if keyword = "@url" then some .url
  else if keyword = "@synopsis" then some .synopsis
  else if keyword = "@method" then some .method
  else if keyword = "@description" || keyword = "@desc" then some .description
  else if keyword = "@input" then some .input
  else if keyword = "@response" then some .response
  else none

/-- The keyword of a line, in lower case, and the text after it, if the line has a directive. -/
def match? (marker : Wide) (line : String) : Option (String × String) :=
  match marker.after? line.toList with
  | none => none
  | some comment =>
    let text := Text.trimChars comment
    let keyword := String.ofList (Text.lowerChars (text.takeWhile (!Text.isBlank ·)))
    if (ofKeyword? keyword).isSome then
      some (keyword, String.ofList (Text.trimChars (text.dropWhile (!Text.isBlank ·))))
    else none

/-- The keyword and the text of a line's directive; an empty marker is refused. -/
def matchChecked (marker : Wide) (line : String) :
    Except SourceError (Option (String × String)) :=
  if marker.isEmpty then .error .emptyMarker else .ok (match? marker line)

/-- The identifier of a title: its lower case without spaces. -/
def slugOf (title : String) : String :=
  String.ofList ((Text.lowerChars title.toList).filter (· != ' '))

/-- What the names of pages end in. -/
def pageSuffix : String :=
  ".html"

def methodsIn (text : String) : List String :=
  let lowered := Text.lowerChars text.toList
  (if Text.occurs "get".toList lowered then ["GET"] else []) ++
    (if Text.occurs "post".toList lowered then ["POST"] else [])

def extendDescription (description paragraph : Html) : Html :=
  if description.isEmpty then paragraph else description ++ ⟨" "⟩ ++ paragraph

def apply (glossary : Glossary) (registry : Registry) (directive : Directive) (text : String)
    (record : Record) : Record :=
  match directive with
  | .title =>
    { record with title := text, slug := slugOf text, filename := slugOf text ++ pageSuffix }
  | .url => { record with urls := record.urls ++ [DocumentedUrl.parse glossary text] }
  | .synopsis => { record with synopsis := text }
  | .method => { record with methods := record.methods ++ methodsIn text }
  | .description =>
    { record with description := extendDescription record.description (glossary.highlight text) }
  | .input =>
    { record with
      input := registry.tableFor glossary text, inputExample := registry.exampleFor text }
  | .response =>
    { record with
      response := registry.tableFor glossary text, responseExample := registry.exampleFor text }

def applyLine (glossary : Glossary) (registry : Registry) (marker : Wide) (record : Record)
    (line : String) : Record :=
  match match? marker line with
  | none => record
  | some (keyword, text) =>
    match ofKeyword? keyword with
    | none => record
    | some directive => directive.apply glossary registry text record

end Directive

def Record.ofLines (glossary : Glossary) (registry : Registry) (marker : Wide)
    (lines : List String) (source : Option Path) : Record :=
  lines.foldl (Directive.applyLine glossary registry marker) { source }

/-- The record of a block; an empty marker is refused as soon as there is a line. -/
def Record.ofLinesChecked (glossary : Glossary) (registry : Registry) (marker : Wide)
    (lines : List String) (source : Option Path) : Except SourceError Record :=
  if marker.isEmpty && !lines.isEmpty then .error .emptyMarker
  else .ok (Record.ofLines glossary registry marker lines source)

end EndpointDocs
