import EndpointDocs.Text.Cut

/-!
Blank characters: the separators and spaces of Unicode together with the control characters that
move a writing position. Trimming removes them at both ends and words are the runs between them.
-/
namespace EndpointDocs.Text

/-- Spaces, line and paragraph separators, and the control characters 9 to 13, 28 to 31 and 133. -/
def isBlank (c : Char) : Bool :=
  let n := c.toNat
  (9 ≤ n && n ≤ 13) || (28 ≤ n && n ≤ 32) || n == 0x85 || n == 0xA0 || n == 0x1680 ||
    (0x2000 ≤ n && n ≤ 0x200A) || n == 0x2028 || n == 0x2029 || n == 0x202F || n == 0x205F ||
    n == 0x3000

def trimChars (text : List Char) : List Char :=
  trimBy isBlank text

def trim (text : String) : String :=
  String.ofList (trimChars text.toList)

def trimEnd (text : String) : String :=
  String.ofList (text.toList.reverse.dropWhile isBlank).reverse

def isBlankText (text : String) : Bool :=
  text.toList.all isBlank

/-- The maximal runs without blanks, in order. -/
def wordsOf (text : List Char) : List (List Char) :=
  (text.splitOnP isBlank).filter (fun word => !word.isEmpty)

def words (text : String) : List String :=
  (wordsOf text.toList).map String.ofList

end EndpointDocs.Text
