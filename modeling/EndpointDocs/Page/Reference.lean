import EndpointDocs.Html.CodeBlock
import EndpointDocs.Page.Moment
import EndpointDocs.Page.Piece
import EndpointDocs.Record

/-!
The reference page of an endpoint.
-/
namespace EndpointDocs.Page

def methodPieces (methods : List String) : List Piece :=
  if methods.isEmpty then []
  else
    [.fixed "    <p class=\"ws-methods\">\n"] ++
      methods.flatMap (fun method =>
        [.fixed "      <span class=\"method method-", .shown (Text.lower method), .fixed "\">",
          .shown method, .fixed "</span>\n"]) ++
      [.fixed "    </p>\n"]

def urlPartPieces (parts : List UrlTerm) : List Piece :=
  if parts.isEmpty then []
  else
    [.fixed "      <table class=\"ws-url-terms\">\n        <tbody>\n"] ++
      parts.flatMap (fun part =>
        [.fixed "          <tr><td class=\"term\">", .shown part.term,
          .fixed "</td><td class=\"definition\">", .shown part.definition,
          .fixed "</td></tr>\n"]) ++
      [.fixed "        </tbody>\n      </table>\n"]

def urlPieces (url : DocumentedUrl) : List Piece :=
  [.fixed "    <section class=\"ws-url\">\n      <h2>URL</h2>\n      <pre><code>", .shown url.url,
    .fixed "</code></pre>\n"] ++ urlPartPieces url.parts ++ [.fixed "    </section>\n"]

def descriptionPieces (description : Html) : List Piece :=
  if description.isEmpty then []
  else
    [.fixed "    <section class=\"ws-description\">\n      <h2>Description</h2>\n      <p>",
      .html description, .fixed "</p>\n    </section>\n"]

def rowPieces (row : FieldRow) : List Piece :=
  [.fixed "          <tr class=\"depth-", .shown (toString row.depth),
    .fixed "\"><td class=\"field\">", .html row.label, .fixed "</td><td class=\"type\">",
    .shown row.dataType, .fixed "</td><td class=\"definition\">", .shown row.definition,
    .fixed "</td></tr>\n"]

def tablePieces (rows : List FieldRow) : List Piece :=
  if rows.isEmpty then []
  else
    [.fixed "      <table class=\"ws-fields\">\n",
      .fixed "        <thead><tr><th>Field</th><th>Type</th><th>Definition</th></tr></thead>\n",
      .fixed "        <tbody>\n"] ++
      rows.flatMap rowPieces ++ [.fixed "        </tbody>\n      </table>\n"]

def payloadPieces (heading className : String) (rows : List FieldRow) (payload : Html) :
    List Piece :=
  if rows.isEmpty && payload.isEmpty then []
  else
    [.fixed "    <section class=\"", .shown className, .fixed "\">\n      <h2>", .shown heading,
      .fixed "</h2>\n"] ++ tablePieces rows ++
      (if payload.isEmpty then []
        else [.fixed "      <h3>Example</h3>\n      ", .html payload, .fixed "\n"]) ++
      [.fixed "    </section>\n"]

def synopsisPieces (synopsis : String) : List Piece :=
  if synopsis.isEmpty then []
  else [.fixed "    <p class=\"ws-synopsis\">", .shown synopsis, .fixed "</p>\n"]

/-- The page of a record whose examples are shown as given. -/
def referencePieces (record : Record) (inputExample responseExample : Html) (stylesheet : String)
    (now : Moment) : List Piece :=
  [.fixed "<!DOCTYPE html>\n<html lang=\"en\">\n<head>\n  <meta charset=\"utf-8\">\n  <title>",
    .shown record.title,
    .fixed "</title>\n  <link rel=\"stylesheet\" href=\"doc.css\">\n  <style>\n",
    .html ⟨stylesheet⟩,
    .fixed "\n  </style>\n</head>\n<body>\n",
    .fixed "  <nav class=\"breadcrumbs\"><a href=\"docs.html\">All web services</a></nav>\n",
    .fixed "  <article id=\"",
    .shown record.slug, .fixed "\" class=\"ws-doc\">\n    <h1 class=\"ws-title\">",
    .shown record.title, .fixed "</h1>\n"] ++
    synopsisPieces record.synopsis ++ methodPieces record.methods ++
    record.urls.flatMap urlPieces ++ descriptionPieces record.description ++
    payloadPieces "Input" "ws-input" record.input inputExample ++
    payloadPieces "Response" "ws-response" record.response responseExample ++
    [.fixed "  </article>\n  <footer class=\"generated\">Generated ", .shown now.minuteStamp,
      .fixed "</footer>\n</body>\n</html>"]

structure ReferenceData where
  record : Record
  inputExample : Html
  responseExample : Html
  stylesheet : CodeBlock.Stylesheet
  now : Moment

def ReferenceData.ofRecord (record : Record) (stylesheet : CodeBlock.Stylesheet) (now : Moment) :
    ReferenceData :=
  ⟨record, CodeBlock.renderExample record.inputExample,
    CodeBlock.renderExample record.responseExample, stylesheet, now⟩

def reference (data : ReferenceData) : String :=
  source (referencePieces data.record data.inputExample data.responseExample
    data.stylesheet.rules data.now)

end EndpointDocs.Page
