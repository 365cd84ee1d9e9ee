import EndpointDocs.Html.Basic
import EndpointDocs.Json.Lexeme
import EndpointDocs.Text.Blank
import EndpointDocs.Text.LowerCase
import EndpointDocs.Text.Lines
import EndpointDocs.Text.Quoted

/-!
Code blocks of a page. The code is cut into lexemes and each is written between tags that name its
kind. Tags never span lines, and neighbours of one kind on one line share their tags.
-/
namespace EndpointDocs.CodeBlock

open EndpointDocs.Json (Kind Lexeme)

/-- The languages whose code is cut into lexemes; any other text is one lexeme. -/
inductive Language where
  | json
  | text
  deriving DecidableEq, Repr

def language? (name : String) : Option Language :=
  let folded := Text.lower name
  if folded = "json" || folded = "json-object" then some .json
  else if folded = "text" then some .text
  else none

/-- The class that styles a kind of lexeme; plain text has none. -/
def className : Kind → Option String
  | .plain => none
  | .string => some "s2"
  | .name => some "nt"
  | .space => some "w"
  | .constant => some "kc"
  | .integer => some "mi"
  | .float => some "mf"
  | .punctuation => some "p"
  | .lineComment => some "c1"
  | .blockComment => some "cm"
  | .error => some "err"

inductive Mark where
  | opening (className : String)
  | closing
  | text (chars : List Char)
  deriving DecidableEq, Repr

def Mark.source : Mark → List Char
  | .opening name => "<span class=\"".toList ++ name.toList ++ "\">".toList
  | .closing => "</span>".toList
  | .text chars => chars.flatMap Html.codeEntity

/-- The body so far, newest mark first; whether the current line has a mark; and the class that was
opened last, on this line or before. -/
structure Painting where
  marks : List Mark
  inLine : Bool
  last : Option String
  deriving DecidableEq, Repr

/-- Before the first lexeme. -/
def Painting.start : Painting :=
  ⟨[], false, none⟩

def opening : Option String → List Mark
  | some name => [.opening name]
  | none => []

def closing : Option String → List Mark
  | some _ => [.closing]
  | none => []

def Painting.add (p : Painting) (marks : List Mark) : Painting :=
  { p with marks := marks.reverse ++ p.marks }

/-- A part of a lexeme that a line break follows. -/
def Painting.endLine (p : Painting) (name : Option String) (part : List Char) : Painting :=
  let own := if part.isEmpty then [] else opening name ++ [.text part] ++ closing name
  let marks :=
    if p.inLine then
      if name ≠ p.last && !part.isEmpty then closing p.last ++ own
      else (if part.isEmpty then [] else [.text part]) ++ closing p.last
    else own
  { p.add (marks ++ [.text ['\n']]) with inLine := false }

/-- The last part of a lexeme, which leaves the line open. -/
def Painting.stay (p : Painting) (name : Option String) (part : List Char) : Painting :=
  if part.isEmpty then p
  else if p.inLine && name = p.last then p.add [.text part]
  else
    let before := if p.inLine then closing p.last else []
    { p.add (before ++ opening name ++ [.text part]) with inLine := true, last := name }

/-- The parts of a lexeme between its line breaks. -/
def Painting.parts (p : Painting) (name : Option String) : List (List Char) → Painting
  | [] => p
  | [part] => p.stay name part
  | part :: rest => (p.endLine name part).parts name rest

def Painting.lexeme (p : Painting) (lexeme : Lexeme) : Painting :=
  p.parts (className lexeme.kind) (lexeme.text.splitOn '\n')

/-- The marks in reading order, when the lexemes end. -/
def Painting.close (p : Painting) : List Mark :=
  let last := if p.inLine then p.add (closing p.last ++ [.text ['\n']]) else p
  last.marks.reverse

def marksOf (lexemes : List Lexeme) : List Mark :=
  (lexemes.foldl Painting.lexeme Painting.start).close

/-- The code without a byte order mark, with line feeds as breaks, none in front, and one at the
end. -/
def normalize (code : List Char) : List Char :=
  let code := if code.head? = some '\uFEFF' then code.drop 1 else code
  Text.trimBy (· == '\n') (Text.unifyBreaks code) ++ ['\n']

def Language.lexemes (language : Language) (code : List Char) : List Lexeme :=
  match language with
  | .json => Json.lexemes code
  | .text => [⟨.plain, code⟩]

def openTag : String :=
  "<div class=\"codehilite\">"

/-- The tag that opens a block with its language named. -/
def openTagFor (language : String) : String :=
  let shown := if language.isEmpty then "text" else language
  "<div class=\"codehilite\" data-language=\"" ++
    String.ofList (shown.toList.flatMap Html.attributeEntity) ++ "\">"

def nameLanguageIn (language : List Char) : List Char → List Char → List Char
  | written, [] => written.reverse
  | written, c :: rest =>
    if openTag.toList.isPrefixOf (c :: rest) then
      written.reverse ++ language ++ (c :: rest).drop openTag.toList.length
    else nameLanguageIn language (c :: written) rest

/-- Names the language in the first tag of `html` that opens a block. -/
def nameLanguage (html language : String) : String :=
  String.ofList (nameLanguageIn (openTagFor language).toList [] html.toList)

/-- The block for normalized code, its language not yet named. -/
def body (language : Language) (code : List Char) : String :=
  let marks := marksOf (language.lexemes (normalize code))
  openTag ++ "<pre><span></span>" ++ String.ofList (marks.flatMap Mark.source) ++
    "</pre></div>\n"

/-- The block that shows `code`; nothing for blank code. An unknown language is shown as text. -/
def render (code : String) (language : Option String) : Html :=
  if Text.isBlankText code then .empty
  else
    let asked := language.getD ""
    let asked := if asked.isEmpty then "text" else asked
    let (name, known) :=
      match language? asked with
      | some known => (asked, known)
      | none => ("text", .text)
    ⟨nameLanguage (body known code.toList) name⟩

/-- Whether an example payload is shown as JSON, which its first character decides. -/
def looksLikeJson (payload : String) : Bool :=
  match payload.toList.dropWhile Text.isBlank with
  | c :: _ => c == '\x7b' || c == '[' || c == '"'
  | [] => false

def renderExample (payload : String) : Html :=
  render payload (some (if looksLikeJson payload then "json" else "text"))

def styleNames : List String :=
  ["abap", "algol", "algol_nu", "arduino", "autumn", "borland", "bw", "coffee", "colorful",
    "default", "dracula", "emacs", "friendly", "friendly_grayscale", "fruity", "github-dark",
    "gruvbox-dark", "gruvbox-light", "igor", "inkpot", "lightbulb", "lilypond", "lovelace", "manni",
    "material", "monokai", "murphy", "native", "night-owl", "nord", "nord-darker", "one-dark",
    "paraiso-dark", "paraiso-light", "pastie", "perldoc", "rainbow_dash", "rrt", "sas",
    "solarized-dark", "solarized-light", "staroffice", "stata-dark", "stata-light", "tango", "trac",
    "vim", "vs", "xcode", "zenburn"]

def isStyle (name : Wide) : Bool :=
  styleNames.any fun style => Wide.ofString style = name

/-- The names under which styles are kept together. None of them is the name of a style. -/
def styleFamilies : List String :=
  ["__init__", "_mapping", "gh_dark", "gruvbox", "night_owl", "onedark", "paraiso_dark",
    "paraiso_light", "solarized", "stata_dark", "stata_light"]

/-- The letters with which words begin made large, where words are what stands between marks. -/
def capitalize (atStart : Bool) : List Char → List Char
  | [] => []
  | c :: rest => (if atStart then c.toUpper else c) :: capitalize (!c.isAlpha) rest

/-- Why there is no style of this name: a family does not hold one, or there is no such family. -/
def noStyleMessage (name : Wide) : String :=
  match styleFamilies.find? fun family => Wide.ofString family = name with
  | some family =>
    "Could not find style class '" ++ String.ofList (capitalize true family.toList) ++
      "Style' in style module."
  | none =>
    "Could not find style module " ++ Text.quoted (Wide.ofString "pygments.styles." ++ name) ++ "."

/-- The rules that style the classes of code blocks. They stand in an element of the page, which a
tag among them would end. -/
structure Stylesheet where
  rules : String
  noTag : '<' ∉ rules.toList
  deriving DecidableEq, Repr

end EndpointDocs.CodeBlock
