/-!
Cutting text. Texts are read as lists of characters: a mark is looked for from the left, the first
occurrence counts, and pieces are kept in order. Splitting at a single character is `List.splitOn`.
-/
namespace EndpointDocs.Text

/-- What follows the first occurrence of `mark`, if there is one. -/
def after? (mark : List Char) : List Char → Option (List Char)
  | [] => none
  | c :: rest =>
    if mark.isPrefixOf (c :: rest) then some ((c :: rest).drop mark.length) else after? mark rest

def occurs (mark text : List Char) : Bool :=
  (after? mark text).isSome

/-- The text before the first `c`; all of it if there is none. -/
def before (c : Char) (text : List Char) : List Char :=
  text.takeWhile (· != c)

/-- The text after the first `c`; nothing if there is none. -/
def behind (c : Char) (text : List Char) : List Char :=
  (text.dropWhile (· != c)).drop 1

/-- The text after the last `c`; all of it if there is none. -/
def afterLast (c : Char) (text : List Char) : List Char :=
  (text.reverse.takeWhile (· != c)).reverse

/-- The text without what satisfies `p` at either end. -/
def trimBy {α : Type} (p : α → Bool) (text : List α) : List α :=
  (((text.dropWhile p).reverse).dropWhile p).reverse

/-- The pieces with `mark` between neighbours. -/
def joinWith (mark : List Char) : List (List Char) → List Char
  | [] => []
  | piece :: rest => piece ++ rest.flatMap (mark ++ ·)

end EndpointDocs.Text
