import Reckoner.Yaml.Cursor

/-!
# Plain scalars

A scalar without quotes goes on until something ends it: a comment, a colon
before a gap, inside brackets a mark of the collection, or a line that is not
indented deep enough. Line ends inside are folded.
-/

namespace Reckoner.Yaml

/-- A plain scalar that was read: its text, the cursor after it, and whether the
cursor is at the start of a line. -/
structure PlainRead where
  text : List Char
  cursor : Cursor
  atLineStart : Bool

/-- Whether the character at the cursor ends a run of a plain scalar. -/
def endsPlainRun (inFlow : Bool) (c : Char) (next : Char) : Bool :=
  isGapOrEnd c ||
    (c == ':' && (isGapOrEnd next || (inFlow && ",[]\x7b\x7d".toList.contains next))) ||
    (inFlow && ",?[]\x7b\x7d".toList.contains c)

/-- The length of the run of a plain scalar at the head of a text. -/
def plainRunLength (inFlow : Bool) : List Char → Nat
  | [] => 0
  | c :: rest =>
    if endsPlainRun inFlow c (rest.headD endMark) then 0 else plainRunLength inFlow rest + 1

/-- The line ends and spaces after the first line end of a gap, the line ends in
reverse; `none` if a marker of a document starts a line. -/
def plainBreaks (read : List Char) : Nat → Cursor → Option (List Char) × Cursor
  | 0, c => (some read, c)
  | fuel + 1, c =>
    if c.head = ' ' then plainBreaks read fuel c.step
    else if isBreak c.head then
      let (ends, c) := c.takeBreak
      if c.atDocumentMarker then (none, c) else plainBreaks (ends ++ read) fuel c
    else (some read, c)

/-- The gap after a run in reverse, the cursor after it, and whether it held a
line end. An empty gap ends the scalar, and so does a marker of a document. -/
def plainGap (c : Cursor) : List Char × Cursor × Bool :=
  let (spaces, c) := c.takeWhile (· == ' ')
  if isBreak c.head then
    let (ends, c) := c.takeBreak
    if c.atDocumentMarker then ([], c, true)
    else
      match plainBreaks [] (c.rest.length + 1) c with
      | (none, c) => ([], c, true)
      | (some breaks, c) =>
        if ends ≠ ['\n'] then (breaks ++ ends, c, true)
        else if breaks.isEmpty then ([' '], c, true)
        else (breaks, c, true)
  else (spaces, c, false)

/-- The rest of a plain scalar: `read` is its text so far in reverse and `gap`
the gap after it. -/
def plainFrom (inFlow : Bool) (indent : Int) (read gap : List Char) (atLineStart : Bool) :
    Nat → Cursor → PlainRead
  | 0, c => ⟨read, c, atLineStart⟩
  | fuel + 1, c =>
    let n := plainRunLength inFlow c.rest
    if c.head = '#' ∨ n = 0 then ⟨read, c, atLineStart⟩
    else
      let read := (c.rest.take n).reverse ++ gap ++ read
      let (gap, c, broken) := plainGap (c.skip n)
      if gap.isEmpty || c.head == '#' || (!inFlow && decide ((c.column : Int) < indent)) then
        ⟨read, c, broken⟩
      else plainFrom inFlow indent read gap broken fuel c

/-- A plain scalar inside of a collection at the column `indent`. -/
def plainScalar (inFlow : Bool) (indent : Int) (c : Cursor) : PlainRead :=
  let read := plainFrom inFlow (indent + 1) [] [] false (c.rest.length + 1) c
  { read with text := read.text.reverse }

end Reckoner.Yaml
