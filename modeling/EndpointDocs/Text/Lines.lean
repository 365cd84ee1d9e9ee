/-!
Lines of a text. Reading a file first makes every line break a line feed; a text is then cut at each
boundary character, and a boundary at the very end opens no further line.
-/
namespace EndpointDocs.Text

/-- One step of break unification: what is written so far, newest first, and whether the last
character read was a carriage return. -/
def unifyStep : List Char × Bool → Char → List Char × Bool
  | (written, afterReturn), c =>
    if c == '\r' then ('\n' :: written, true)
    else if c == '\n' && afterReturn then (written, false)
    else (c :: written, false)

/-- Makes each carriage return, alone or with a line feed after it, one line feed. -/
def unifyBreaks (text : List Char) : List Char :=
  (text.foldl unifyStep ([], false)).1.reverse

def isLineEnd (c : Char) : Bool :=
  let n := c.toNat
  (10 ≤ n && n ≤ 13) || (28 ≤ n && n ≤ 30) || n == 0x85 || n == 0x2028 || n == 0x2029

/-- The lines of a text whose breaks are unified, without the characters that end them. -/
def linesOf (text : List Char) : List (List Char) :=
  let pieces := text.splitOnP isLineEnd
  if pieces.getLast? = some [] then pieces.dropLast else pieces

end EndpointDocs.Text
