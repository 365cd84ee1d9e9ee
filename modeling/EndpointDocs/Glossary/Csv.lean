/-!
Rows of comma-separated cells. A cell that starts with a quote ends at the next single quote; inside
it two quotes stand for one, and commas and line breaks are kept. What follows the closing quote is
kept as written. A line feed, a carriage return, or both together end a row.
-/
namespace EndpointDocs.Csv

/-- The longest cell, counted in characters. -/
def maxCell : Nat :=
  131072

inductive Mode where
  | rowStart
  | cellStart
  | cell
  | quoted
  /-- After a quote inside a quoted cell: a second one belongs to the cell, anything else follows
  its end. -/
  | quoteSeen
  deriving DecidableEq, Repr

/-- The reading of a text. Characters, cells and rows are kept newest first. -/
structure Reading where
  mode : Mode
  cell : List Char
  length : Nat
  row : List String
  rows : List (List String)
  /-- Whether the last character ended a row and was a carriage return. -/
  afterReturn : Bool
  /-- Whether a cell grew too long, which ends the reading. -/
  oversized : Bool
  deriving DecidableEq, Repr

namespace Reading

def start : Reading :=
  ⟨.rowStart, [], 0, [], [], false, false⟩

def push (r : Reading) (mode : Mode) (c : Char) : Reading :=
  if maxCell ≤ r.length then { r with oversized := true }
  else { r with mode, cell := c :: r.cell, length := r.length + 1 }

def endCell (r : Reading) : Reading :=
  { r with
    mode := .cellStart, cell := [], length := 0, row := String.ofList r.cell.reverse :: r.row }

def endRow (r : Reading) : Reading :=
  { r with mode := .rowStart, row := [], rows := r.row.reverse :: r.rows }

def breakLine (r : Reading) (c : Char) : Reading :=
  let ended := if r.mode = .rowStart then r.endRow else r.endCell.endRow
  { ended with afterReturn := c == '\r' }

def step (r : Reading) (c : Char) : Reading :=
  if r.oversized then r
  -- the second half of a line break of two characters
  else if r.afterReturn && c == '\n' then { r with afterReturn := false }
  else
    let r := { r with afterReturn := false }
    match r.mode with
    | .quoted => if c == '"' then { r with mode := .quoteSeen } else r.push .quoted c
    | .quoteSeen =>
      if c == '"' then r.push .quoted c
      else if c == ',' then r.endCell
      else if c == '\n' || c == '\r' then r.breakLine c
      -- text behind a closing quote belongs to the cell
      else r.push .cell c
    | .cell =>
      if c == ',' then r.endCell
      else if c == '\n' || c == '\r' then r.breakLine c
      else r.push .cell c
    | .rowStart | .cellStart =>
      if c == ',' then r.endCell
      else if c == '\n' || c == '\r' then r.breakLine c
      else if c == '"' then { r with mode := .quoted }
      else r.push .cell c

/-- The reading when the text ends; a row that was begun is a row. -/
def close (r : Reading) : Reading :=
  if r.oversized || r.mode = .rowStart then r else r.endCell.endRow

end Reading

/-- The reading of a text up to its last character. -/
def read (text : List Char) : Reading :=
  text.foldl Reading.step Reading.start

end EndpointDocs.Csv
