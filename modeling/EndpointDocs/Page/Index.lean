import EndpointDocs.Page.Moment
import EndpointDocs.Page.Piece
import EndpointDocs.Record

/-!
The index page: one row per record, with a link to the record's page if it has one.
-/
namespace EndpointDocs.Page

/-- The title of a record, as a link if the record has a page. -/
def titlePieces (record : Record) : List Piece :=
  if record.filename.isEmpty then [.shown record.title]
  else
    [.fixed "<a href=\"", .shown record.filename, .fixed "\">", .shown record.title, .fixed "</a>"]

def entryPieces (record : Record) : List Piece :=
  [.fixed "      <tr id=\"", .shown record.slug, .fixed "\">\n        <td class=\"title\">"] ++
    titlePieces record ++
    [.fixed "</td>\n        <td class=\"methods\">", .shown (", ".intercalate record.methods),
      .fixed "</td>\n        <td class=\"synopsis\">", .shown record.synopsis,
      .fixed "</td>\n      </tr>\n"]

/-- What stands before the version of an index. -/
def beforeVersion : List Piece :=
  [.fixed "<!DOCTYPE html>\n<html lang=\"en\">\n<head>\n  <meta charset=\"utf-8\">\n",
    .fixed "  <title>Web Services</title>\n  <link rel=\"stylesheet\" href=\"doc.css\">\n</head>\n",
    .fixed "<body>\n  <header>\n    <h1>Web Services</h1>\n    <p class=\"meta\">Version "]

/-- What stands between the version and the rows. -/
def afterVersion (now : Moment) : List Piece :=
  [.fixed " &middot; <time datetime=\"", .shown now.iso, .fixed "\">", .shown (now.stamp "UTC"),
    .fixed "</time></p>\n  </header>\n  <table class=\"ws-index\">\n",
    .fixed "    <thead><tr><th>Service</th><th>Methods</th><th>Synopsis</th></tr></thead>\n",
    .fixed "    <tbody>\n"]

def indexOpening (version : Wide) (now : Moment) : Wide :=
  source beforeVersion ++ Html.escapeWide version ++ source (afterVersion now)

def indexClosing : List Piece :=
  [.fixed "    </tbody>\n  </table>\n</body>\n</html>"]

/-- What an index page shows, with the records in the order in which they are listed. -/
structure IndexData where
  entries : List Record
  version : Wide
  now : Moment

def IndexData.ofContents (contents : List Record) (version : Wide) (now : Moment) : IndexData :=
  ⟨Record.sortByTitle contents, version, now⟩

def index (data : IndexData) : Wide :=
  indexOpening data.version data.now ++ source (data.entries.flatMap entryPieces ++ indexClosing)

end EndpointDocs.Page
