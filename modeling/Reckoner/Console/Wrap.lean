import Reckoner.Text.Blank
import Reckoner.Text.Part
import Reckoner.Text.Width

/-!
# Wrapping lines

What is printed goes to a file or a pipe: it is assumed that the output is no
terminal, and that the environment sets neither a width of its own (`COLUMNS`) nor
asks for colours there (`FORCE_COLOR`). So there are no colours, and the width is
a constant.

A printed line is `lineWidth` columns wide at most. Tabs lead to the next
multiple of `tabWidth` columns. The text is split into words, each with the
blanks after it; the first word has the blanks before it as well. A word goes on
the current line if it fits without its blanks, else a new line starts with it; a
word that is wider than a line is cut into pieces of that width. Blanks at the
end of a line are dropped as far as the line has more characters than columns,
and then what still stands beyond its width.
-/

namespace Reckoner.Console

/-- The width of the console, in columns. It is that of an output that is no terminal, where the
environment asks for no other width. -/
def lineWidth : Nat := 80

/-- The distance between the columns that tabs lead to. -/
def tabWidth : Nat := 8

/-- The text with blanks in place of its tabs; `column` is the column that it
starts in. -/
def expandTabs (column : Nat) : List Char → List Char
  | [] => []
  | c :: rest =>
    if c = '\t' then
      let blanks := tabWidth - column % tabWidth
      List.replicate blanks ' ' ++ expandTabs (column + blanks) rest
    else c :: expandTabs (column + Text.width c) rest

/-- The words of a text that starts with one, each with the blanks after it. -/
def wordsFrom : List Char → List (List Char)
  | [] => []
  | c :: rest =>
    let body := rest.takeWhile (!Text.isBlank ·)
    let after := rest.dropWhile (!Text.isBlank ·)
    (c :: body ++ after.takeWhile Text.isBlank) :: wordsFrom (after.dropWhile Text.isBlank)
termination_by cs => cs.length
decreasing_by
  have := (List.dropWhile_sublist (l := rest) (!Text.isBlank ·)).length_le
  have := (List.dropWhile_sublist (l := rest.dropWhile (!Text.isBlank ·))
    Text.isBlank).length_le
  simp only [List.length_cons]
  omega

/-- The words of a text. A text of blanks alone is one word. -/
def words (cs : List Char) : List (List Char) :=
  let indent := cs.takeWhile Text.isBlank
  match wordsFrom (cs.dropWhile Text.isBlank) with
  | [] => [indent]
  | first :: rest => (indent ++ first) :: rest

/-- The text in pieces of at most `size` columns, of which the first goes on in
`column`. -/
def cutsFrom (size column : Nat) : List Char → List (List Char)
  | [] => [[]]
  | c :: rest =>
    if size < column + Text.width c then
      match cutsFrom size (Text.width c) rest with
      | [] => [[], [c]]
      | piece :: others => [] :: (c :: piece) :: others
    else
      match cutsFrom size (column + Text.width c) rest with
      | [] => [[c]]
      | piece :: others => (c :: piece) :: others

/-- The text in pieces of at most `size` columns. -/
def cuts (size : Nat) (cs : List Char) : List (List Char) := cutsFrom size 0 cs

/-- The lines that are complete, last first, and the line being filled. -/
structure Filling where
  complete : List (List Char)
  line : List Char

namespace Filling

/-- Complete the line being filled, unless it is empty, and start another. -/
def startLine (f : Filling) (line : List Char) : Filling :=
  if f.line = [] then { f with line } else { complete := f.line :: f.complete, line }

/-- Put a word on the current line or on new lines. -/
def place (width : Nat) (f : Filling) (word : List Char) : Filling :=
  let bare := Text.columns (Text.trimEnd Text.isBlank word)
  if Text.columns f.line + bare ≤ width then { f with line := f.line ++ word }
  else if bare ≤ width then f.startLine word
  else (cuts width word).foldl startLine f

end Filling

/-- The line without the blanks at its end that stand beyond the width. -/
def dropOverhang (width : Nat) (line : List Char) : List Char :=
  let blanks := (line.reverse.takeWhile Text.isBlank).length
  line.take (line.length - min blanks (line.length - width))

/-- The start of a line that fills `size` columns, of which the last is blank if a
wide character would stand beyond it. The place where it ends is looked for
between two others. -/
def cropBetween (size start stop : Nat) (line : List Char) : List Char :=
  let middle := (start + stop) / 2
  let kept := line.take (middle + 1)
  if Text.columns kept = size + 1 ∧ kept.getLast?.map Text.width = some 2 then
    kept.dropLast ++ [' ']
  else if Text.columns kept = size then kept
  else if size < Text.columns kept then
    if middle < stop then cropBetween size start middle line else kept
  else if start < middle then cropBetween size middle stop line
  else kept
termination_by stop - start
decreasing_by
  all_goals omega

/-- The line, or its start if blanks after wide characters still stand beyond the
width. -/
def crop (width : Nat) (line : List Char) : List Char :=
  if Text.columns line ≤ width then line else cropBetween width 0 line.length line

/-- The lines of a text without line ends. -/
def wrapLine (width : Nat) (cs : List Char) : List (List Char) :=
  let filled := (words (expandTabs 0 cs)).foldl (Filling.place width) ⟨[], []⟩
  (filled.line :: filled.complete).reverse.map fun line => crop width (dropOverhang width line)

/-- The lines of a text. -/
def wrap (width : Nat) (s : String) : List (List Char) :=
  (Text.parts '\n' s.toList).flatMap (wrapLine width)

/-- Lines with line ends between them. -/
def joinLines (lines : List (List Char)) : String :=
  String.ofList (['\n'].intercalate lines)

/-- What is written for a text that stays on its line. -/
def prompted (s : String) : String := joinLines (wrap lineWidth s)

/-- What is written for a text and the end of its line. -/
def printed (s : String) : String := prompted s ++ "\n"

end Reckoner.Console
