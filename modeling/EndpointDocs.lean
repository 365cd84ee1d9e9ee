import EndpointDocs.Command
import EndpointDocs.Config
import EndpointDocs.Directive
import EndpointDocs.Files.Glob
import EndpointDocs.Files.Path
import EndpointDocs.Files.Tree
import EndpointDocs.Glossary.Basic
import EndpointDocs.Glossary.Csv
import EndpointDocs.Glossary.Highlight
import EndpointDocs.Glossary.Load
import EndpointDocs.Glossary.Token
import EndpointDocs.Html.Basic
import EndpointDocs.Html.CodeBlock
import EndpointDocs.Json.Lexeme
import EndpointDocs.Json.Value
import EndpointDocs.Log
import EndpointDocs.Main
import EndpointDocs.Number.Binary64
import EndpointDocs.Number.Numeral
import EndpointDocs.OrderedMap
import EndpointDocs.Page.Index
import EndpointDocs.Page.Layout
import EndpointDocs.Page.Moment
import EndpointDocs.Page.Piece
import EndpointDocs.Page.Reference
import EndpointDocs.Payload.Example
import EndpointDocs.Payload.FieldType
import EndpointDocs.Payload.Module
import EndpointDocs.Payload.Registry
import EndpointDocs.Payload.Rows
import EndpointDocs.Record
import EndpointDocs.Setting.Value
import EndpointDocs.Site
import EndpointDocs.Source.Block
import EndpointDocs.Source.Discovery
import EndpointDocs.Text.Base64
import EndpointDocs.Text.Blank
import EndpointDocs.Text.Cut
import EndpointDocs.Text.Lines
import EndpointDocs.Text.LowerCase
import EndpointDocs.Text.Printable
import EndpointDocs.Text.Quoted
import EndpointDocs.Text.Range
import EndpointDocs.Text.Utf8
import EndpointDocs.Text.Word
import EndpointDocs.Url
import EndpointDocs.Yaml.Cursor
import EndpointDocs.Yaml.Document
import EndpointDocs.Yaml.Error
import EndpointDocs.Yaml.Node
import EndpointDocs.Yaml.Resolve
import EndpointDocs.Yaml.Scalar
import EndpointDocs.Yaml.Token
import EndpointDocs.Yaml.Value
import EndpointDocs.Proofs.Payload.Agreement
import EndpointDocs.Proofs.Directive.Groups
import EndpointDocs.Proofs.Glossary.Marked
import EndpointDocs.Proofs.Glossary.Interference
import EndpointDocs.Proofs.Files.Frame
import EndpointDocs.Proofs.Source.Located
import EndpointDocs.Proofs.Page.Index
import EndpointDocs.Proofs.Site.Run
import EndpointDocs.Proofs.Text.Lines
import EndpointDocs.Proofs.Text.Trim
import EndpointDocs.Proofs.Text.Utf8
import EndpointDocs.Proofs.Config.Texts
import EndpointDocs.Proofs.Source.Framed
import EndpointDocs.Proofs.Files.Refusal
import EndpointDocs.Proofs.Page.Markup
import EndpointDocs.Proofs.Site.Returns
import EndpointDocs.Proofs.Text.LowerCase
import EndpointDocs.Proofs.Site.Placement
import EndpointDocs.Proofs.Glossary.History
import EndpointDocs.Proofs.Glossary.Replay
import EndpointDocs.Proofs.Site.Course
import EndpointDocs.Proofs.Source.Ordered
import EndpointDocs.Proofs.Site.Kept
import EndpointDocs.Proofs.Site.Rerun
import EndpointDocs.Proofs.Site.Links
import EndpointDocs.Proofs.Glossary.Colons
import EndpointDocs.Proofs.Payload.Routes
import EndpointDocs.Proofs.Payload.Alternatives
import EndpointDocs.Proofs.Payload.Written
import EndpointDocs.Proofs.Payload.Spellings
import EndpointDocs.Proofs.Source.Division
import EndpointDocs.Proofs.Text.Pieces
import EndpointDocs.Proofs.Url.Joined
import EndpointDocs.Proofs.Url.Written
import EndpointDocs.Proofs.Html.Painting
import EndpointDocs.Proofs.Json.Reader
import EndpointDocs.Proofs.Json.RoundTrip
import EndpointDocs.Proofs.Payload.Document
import EndpointDocs.Proofs.Directive.Grammar
import EndpointDocs.Proofs.Site.BlockEffect
import EndpointDocs.Proofs.Glossary.Cells
import EndpointDocs.Proofs.Glossary.RoundTrip
import EndpointDocs.Proofs.Files.GlobSet
import EndpointDocs.Proofs.Files.GlobMatch
import EndpointDocs.Proofs.Source.Discovered
import EndpointDocs.Proofs.Page.Entries
import EndpointDocs.Proofs.Config.Keys
import EndpointDocs.Proofs.Config.BareText
import EndpointDocs.Proofs.Payload.Imported
import EndpointDocs.Proofs.Glossary.Tokens
import EndpointDocs.Proofs.Url.Parts
