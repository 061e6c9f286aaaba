import Reckoner.Yaml.Cursor
import Reckoner.Yaml.Error

/-!
# Block scalars

A block scalar is made of the lines below its header that are indented deeper
than what holds it. The header says whether lines are kept or folded, what
becomes of the line ends at the end of the text, and how deep the indentation
is, if the first line does not show it.
-/

namespace Reckoner.Yaml

/-- What becomes of the line ends at the end of a block scalar. -/
inductive Chomping where
  | clip | strip | keep
deriving DecidableEq

/-- The header of a block scalar. -/
structure BlockHeader where
  chomping : Chomping
  depth : Option Nat
deriving DecidableEq

/-- The sign of a header, and the cursor after it. -/
def blockSign (c : Cursor) : Option Chomping × Cursor :=
  if c.head = '+' then (some .keep, c.step)
  else if c.head = '-' then (some .strip, c.step)
  else (none, c)

/-- The digit of a header, and the cursor after it. A zero is refused. -/
def blockDepth (c : Cursor) : Except Error (Option Nat × Cursor) :=
  if c.head = '0' then .error .token
  else if c.head.isDigit then .ok (some (c.head.toNat - 48), c.step)
  else .ok (none, c)

/-- The cursor after the rest of a line that holds nothing but a comment. -/
def emptyLine (c : Cursor) : Except Error Cursor :=
  let c := c.skipWhile (· == ' ')
  let c := if c.head = '#' then c.skipWhile (!isBreak ·) else c
  if isBreakOrEnd c.head then .ok c.takeBreak.2 else .error .token

/-- The header of a block scalar, and the cursor after it. The sign and the
digit may come in either order. -/
def blockHeader (c : Cursor) : Except Error (BlockHeader × Cursor) := do
  let (sign, c) := blockSign c
  let (depth, c) ← blockDepth c
  let (sign, c) := if sign.isNone ∧ depth.isSome then blockSign c else (sign, c)
  if isSpaceOrEnd c.head then .ok (⟨sign.getD .clip, depth⟩, c) else .error .token

/-- The line ends before the first line that has text, in reverse, and the
greatest indentation on the way. -/
def leadingBreaks (read : List Char) (deepest : Nat) : Nat → Cursor → List Char × Nat × Cursor
  | 0, c => (read, deepest, c)
  | fuel + 1, c =>
    if c.head = ' ' then leadingBreaks read (max deepest c.step.column) fuel c.step
    else if isBreak c.head then
      let (ends, c) := c.takeBreak
      leadingBreaks (ends ++ read) deepest fuel c
    else (read, deepest, c)

/-- The cursor after the spaces that lead to the given column. -/
def indentTo (column : Nat) : Nat → Cursor → Cursor
  | 0, c => c
  | fuel + 1, c =>
    if c.column < column ∧ c.head = ' ' then indentTo column fuel c.step else c

/-- The line ends before the next line that has text, in reverse, and the
cursor at the given column or before it. -/
def innerBreaks (column : Nat) (read : List Char) : Nat → Cursor → List Char × Cursor
  | 0, c => (read, c)
  | fuel + 1, c =>
    let c := indentTo column column c
    if isBreak c.head then
      let (ends, c) := c.takeBreak
      innerBreaks column (ends ++ read) fuel c
    else (read, c)

/-- Whether a text line starts at the cursor of a block scalar. -/
def atBlockLine (column : Nat) (c : Cursor) : Bool := c.column == column && c.head != endMark

/-- The lines of a block scalar at the given column: the text read so far, the
line end after it, and the line ends that follow, the texts in reverse. -/
def blockLines (folded : Bool) (column : Nat) (read breaks : List Char) :
    Nat → Cursor → List Char × List Char × List Char × Cursor
  | 0, c => (read, [], breaks, c)
  | fuel + 1, c =>
    let leadingText := c.head != ' ' && c.head != '\t'
    let (text, c) := c.takeWhile (!isBreak ·)
    let read := text.reverse ++ breaks ++ read
    let (ends, c) := c.takeBreak
    let (breaks, c) := innerBreaks column [] (c.rest.length + 1) c
    if atBlockLine column c then
      let isFold := folded && ends == ['\n'] && leadingText && c.head != ' ' && c.head != '\t'
      let read :=
        if isFold then if breaks.isEmpty then ' ' :: read else read else ends ++ read
      blockLines folded column read breaks fuel c
    else (read, ends, breaks, c)

/-- A block scalar inside of a collection at the column `indent`; the cursor is
after the indicator. -/
def blockScalar (folded : Bool) (indent : Int) (c : Cursor) : Except Error (String × Cursor) := do
  let (header, c) ← blockHeader c
  let c ← emptyLine c
  let least := max 1 (indent + 1).toNat
  let (breaks, column, c) := match header.depth with
    | none =>
      let (breaks, deepest, c) := leadingBreaks [] 0 (c.rest.length + 1) c
      (breaks, max least deepest, c)
    | some depth =>
      let column := least + depth - 1
      let (breaks, c) := innerBreaks column [] (c.rest.length + 1) c
      (breaks, column, c)
  let (read, ends, breaks, c) :=
    if atBlockLine column c then blockLines folded column [] breaks (c.rest.length + 1) c
    else ([], [], breaks, c)
  let read := match header.chomping with
    | .strip => read
    | .clip => ends ++ read
    | .keep => breaks ++ ends ++ read
  .ok (String.ofList read.reverse, c)

end Reckoner.Yaml
