import Reckoner.Text.Digit
import Reckoner.Yaml.Cursor
import Reckoner.Yaml.Error

/-!
# Quoted scalars

The text between single or double quotes. A line end inside is folded: one
becomes a space, and of several the first is dropped. Between single quotes a
quote is written twice; between double quotes a backslash starts an escape. The
fuel of the readers bounds the number of their steps; twice the number of
characters that are left is enough.
-/

namespace Reckoner.Yaml

/-- The characters read so far in reverse, and the cursor after them. -/
abbrev Reading := Except Error (List Char × Cursor)

/-- The character that an escape of one letter stands for. -/
def shortEscape? : Char → Option Char
  | '0' => some '\x00'
  | 'a' => some '\x07'
  | 'b' => some '\x08'
  | 't' | '\t' => some '\t'
  | 'n' => some '\n'
  | 'v' => some '\x0b'
  | 'f' => some '\x0c'
  | 'r' => some '\r'
  | 'e' => some '\x1b'
  | ' ' => some ' '
  | '"' => some '"'
  | '\\' => some '\\'
  | '/' => some '/'
  | 'N' => some '\x85'
  | '_' => some '\xa0'
  | 'L' => some '\u2028'
  | 'P' => some '\u2029'
  | _ => none

/-- The number of hexadecimal digits after an escape letter. -/
def escapeWidth? : Char → Option Nat
  | 'x' => some 2
  | 'u' => some 4
  | 'U' => some 8
  | _ => none

/-- The number written in hexadecimal digits. -/
def hexNumber? (cs : List Char) : Option Nat :=
  cs.foldlM (fun n c => (Text.hexValue? c).map (n * 16 + ·)) 0

/-- The code written by an escape letter and its digits, and the cursor after
them; `none` if no such letter is at the cursor. -/
def escapedCode? (c : Cursor) : Option (Except Error (Nat × Cursor)) :=
  (escapeWidth? c.head).map fun width =>
    let digits := c.step.rest.take width
    match hexNumber? digits with
    | some code => if digits.length = width then .ok (code, c.step.skip width) else .error .token
    | none => .error .token

/-- The second half of a pair that is escaped at the cursor, and the cursor after
it. -/
def lowHalf? (c : Cursor) : Option (Nat × Cursor) :=
  if c.head = '\\' then
    match escapedCode? c.step with
    | some (.ok (code, c)) => if 0xdc00 ≤ code ∧ code < 0xe000 then some (code, c) else none
    | _ => none
  else none

/-- The character of a code, and the cursor after it. There is none past the last
plane; from 31 bits on a code is not even compared with it. The first half of a
pair makes a character with the second half, if that is escaped next. -/
def charOfCode (code : Nat) (c : Cursor) : Except Error (Char × Cursor) :=
  if 0x80000000 ≤ code then .error (.content .beyondWords)
  else if 0x110000 ≤ code then .error (.content .beyondCharacters)
  else if code.isValidChar then .ok (Char.ofNat code, c)
  else
    match if code < 0xdc00 then lowHalf? c else none with
    | some (low, c) => .ok (Char.ofNat (0x10000 + (code - 0xd800) * 0x400 + (low - 0xdc00)), c)
    | none => .ok ('\ufffd', c)

/-- The line ends and blanks at the cursor: the line ends in reverse. A marker
of a document at the start of a line is refused. -/
def foldedBreaks (read : List Char) : Nat → Cursor → Reading
  | 0, c => .ok (read, c)
  | fuel + 1, c =>
    if c.atDocumentMarker then .error .token
    else
      let c := c.skipWhile fun x => x == ' ' || x == '\t'
      if isBreak c.head then
        let (ends, c) := c.takeBreak
        foldedBreaks (ends ++ read) fuel c
      else .ok (read, c)

/-- The blanks and line ends between two words. -/
def quotedGap (read : List Char) (c : Cursor) : Reading :=
  let (blanks, c) := c.takeWhile fun x => x == ' ' || x == '\t'
  if c.head = endMark then .error .token
  else if isBreak c.head then do
    let (ends, c) := c.takeBreak
    let (others, c) ← foldedBreaks [] (c.rest.length + 1) c
    if ends ≠ ['\n'] then .ok (others ++ ends ++ read, c)
    else if others.isEmpty then .ok (' ' :: read, c)
    else .ok (others ++ read, c)
  else .ok (blanks.reverse ++ read, c)

/-- An escape; the cursor is after the backslash. -/
def quotedEscape (read : List Char) (c : Cursor) : Reading :=
  match shortEscape? c.head with
  | some x => .ok (x :: read, c.step)
  | none =>
    match escapedCode? c with
    | some code => do
      let (code, c) ← code
      let (x, c) ← charOfCode code c
      .ok (x :: read, c)
    | none =>
      if isBreak c.head then do
        let c := c.takeBreak.2
        foldedBreaks read (c.rest.length + 1) c
      else .error .token

/-- The text up to the closing quote; the cursor is after the opening one. -/
def quotedText (double : Bool) (read : List Char) : Nat → Cursor → Reading
  | 0, _ => .error .token
  | fuel + 1, c =>
    let x := c.head
    if x = endMark ∨ isGapOrEnd x then do
      let (read, c) ← quotedGap read c
      quotedText double read fuel c
    else if double ∧ x = '"' then .ok (read, c.step)
    else if !double ∧ x = '\'' then
      if c.peek 1 = '\'' then quotedText double ('\'' :: read) fuel (c.skip 2)
      else .ok (read, c.step)
    else if double ∧ x = '\\' then do
      let (read, c) ← quotedEscape read c.step
      quotedText double read fuel c
    else quotedText double (x :: read) fuel c.step

/-- A quoted scalar; the cursor is at its opening quote. -/
def quotedScalar (c : Cursor) : Except Error (String × Cursor) :=
  (quotedText (c.head == '"') [] (2 * c.rest.length) c.step).map fun (read, c) =>
    (String.ofList read.reverse, c)

end Reckoner.Yaml
