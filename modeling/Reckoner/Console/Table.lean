import Reckoner.Console.Wrap

/-!
# Tables

A table has a title, one heading for each column, and rows. A column is as wide
as its widest cell or heading, with one blank on either side. If the table would
be wider than a line, its widest column gives way, and a text that is too long
for its column ends in an ellipsis.
-/

namespace Reckoner.Console

/-- A titled table. -/
structure Table where
  title : String
  heading : List String
  rows : List (List String)
deriving DecidableEq

namespace Table

/-- The widths of the columns that their texts ask for. -/
def wantedWidths (t : Table) : List Nat :=
  t.rows.foldl (List.zipWith fun w (cell : String) => max w cell.length)
    (t.heading.map String.length)

/-- The width of a table with columns of the given widths. -/
def totalWidth (widths : List Nat) : Nat := widths.foldl (· + · + 3) 1

/-- The widths with the widest column made narrower by `excess`. -/
def giveWay (excess : Nat) (widths : List Nat) : List Nat :=
  let widest := widths.foldl max 0
  widths.map fun w => if w = widest then w - excess else w

/-- The widths of the columns of a table on lines of the given width. -/
def widths (lineWidth : Nat) (t : Table) : List Nat :=
  giveWay (totalWidth t.wantedWidths - lineWidth) t.wantedWidths

/-- A text in a column: padded on the right, or cut with an ellipsis. -/
def cell (width : Nat) (s : String) : List Char :=
  let cs := s.toList
  if cs.length ≤ width then cs ++ List.replicate (width - cs.length) ' '
  else cs.take (width - 1) ++ ['…']

/-- A text in the middle of a width; an odd blank goes to the right. -/
def centred (width : Nat) (s : String) : List Char :=
  let blanks := width - s.length
  List.replicate (blanks / 2) ' ' ++ s.toList ++ List.replicate (blanks - blanks / 2) ' '

/-- A horizontal line with its left end, its stroke, its joints and its right
end. -/
def rule (left stroke joint right : Char) (widths : List Nat) : List Char :=
  left :: [joint].intercalate (widths.map fun w => List.replicate (w + 2) stroke) ++ [right]

/-- A row of texts between strokes. -/
def row (stroke : Char) (widths : List Nat) (cells : List String) : List Char :=
  let padded := List.zipWith (fun w s => ' ' :: cell w s ++ [' ']) widths cells
  stroke :: [stroke].intercalate padded ++ [stroke]

/-- The lines of a table. The heading is framed heavily. -/
def lines (lineWidth : Nat) (t : Table) : List (List Char) :=
  let ws := t.widths lineWidth
  [centred (totalWidth ws) t.title, rule '┏' '━' '┳' '┓' ws, row '┃' ws t.heading,
    rule '┡' '━' '╇' '┩' ws] ++
    t.rows.map (row '│' ws) ++ [rule '└' '─' '┴' '┘' ws]

/-- What is written for a table. -/
def printed (t : Table) : String := joinLines (t.lines lineWidth) ++ "\n"

end Table

end Reckoner.Console
