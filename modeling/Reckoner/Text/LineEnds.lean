/-!
# Line ends

A text that comes from outside may end its lines with a carriage return, a line
feed, or both. `unifyLineEnds` leaves line feeds only, and `inputLines` is the
list of lines that a reader of such a text is given one by one: nothing follows
the last line end.
-/

namespace Reckoner.Text

/-- The text with every line end written as a line feed. -/
def unifyLineEnds : List Char → List Char
  | '\r' :: '\n' :: rest => '\n' :: unifyLineEnds rest
  | '\r' :: rest => '\n' :: unifyLineEnds rest
  | c :: rest => c :: unifyLineEnds rest
  | [] => []

/-- The lines of a text whose line ends are line feeds. -/
def linesOf : List Char → List (List Char)
  | [] => []
  | c :: rest =>
    if c = '\n' then [] :: linesOf rest
    else
      match linesOf rest with
      | [] => [[c]]
      | line :: others => (c :: line) :: others

/-- The lines of a text from outside. -/
def inputLines (s : String) : List String :=
  (linesOf (unifyLineEnds s.toList)).map String.ofList

end Reckoner.Text
