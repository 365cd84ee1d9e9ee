import EndpointDocs.Files.Path
import EndpointDocs.Html.Basic
import EndpointDocs.Payload.Rows
import EndpointDocs.Url

/-!
The record of one documented endpoint, and the order of records in an index.
-/
namespace EndpointDocs

structure Record where
  title : String := ""
  slug : String := ""
  /-- The name of the endpoint's page; empty as long as no title is given. -/
  filename : String := ""
  urls : List DocumentedUrl := []
  synopsis : String := ""
  methods : List String := []
  description : Html := Html.empty
  input : List FieldRow := []
  inputExample : String := ""
  response : List FieldRow := []
  responseExample : String := ""
  source : Option Path := none
  deriving DecidableEq, Repr

namespace Record

/-- The records by title, in order of code points; equal titles keep their order. -/
def sortByTitle (records : List Record) : List Record :=
  records.mergeSort fun a b => decide (a.title ≤ b.title)

end Record

end EndpointDocs
