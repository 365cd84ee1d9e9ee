import EndpointDocs.Text.CodePoint

/-!
Fragments of HTML. Plain text enters a fragment only through an escape, so that what a text says
never acts as markup.
-/
namespace EndpointDocs

structure Html where
  source : String
  deriving DecidableEq, Repr

namespace Html

/-- How text between tags and in attribute values of a page is written. -/
def textEntity : Char → List Char
  | '&' => "&amp;".toList
  | '<' => "&lt;".toList
  | '>' => "&gt;".toList
  | '\'' => "&#39;".toList
  | '"' => "&#34;".toList
  | c => [c]

/-- How the language of a code block is written into its attribute. -/
def attributeEntity : Char → List Char
  | '&' => "&amp;".toList
  | '<' => "&lt;".toList
  | '>' => "&gt;".toList
  | '\'' => "&#x27;".toList
  | '"' => "&quot;".toList
  | c => [c]

/-- How code inside a code block is written; quotes stay. -/
def codeEntity : Char → List Char
  | '&' => "&amp;".toList
  | '<' => "&lt;".toList
  | '>' => "&gt;".toList
  | c => [c]

/-- The fragment that shows `text` as it stands. -/
def escape (text : String) : Html :=
  ⟨String.ofList (text.toList.flatMap textEntity)⟩

/-- The text of code points as it is written where HTML is wanted. -/
def escapeWide (text : Wide) : Wide :=
  text.flatMap fun point =>
    match point with
    | .char c => (textEntity c).map .char
    | .half index => [.half index]

def empty : Html :=
  ⟨""⟩

def isEmpty (html : Html) : Bool :=
  html.source.isEmpty

def append (first second : Html) : Html :=
  ⟨first.source ++ second.source⟩

instance : Append Html := ⟨Html.append⟩

end Html

end EndpointDocs
