import Reckoner.Yaml.Block
import Reckoner.Yaml.Plain
import Reckoner.Yaml.Quoted
import Reckoner.Yaml.Token

/-!
# The stream of tokens

The tokens of a document are made on demand: a token is released as soon as it
is known whether a key marker belongs before it. Until then its place is
remembered as a possible key, one for each depth of brackets. A key must end on
its line and within `longestKey` characters, and a place that must hold a key is
refused if none comes.
-/

namespace Reckoner.Yaml

/-- The greatest distance from the start of a key to its colon. -/
def longestKey : Nat := 1024

/-- A place that may turn out to be a key. -/
structure PossibleKey where
  number : Nat
  required : Bool
  start : Cursor

/-- The tokens that are made but not taken, and what is needed to make more. -/
structure Stream where
  cursor : Cursor
  depth : Nat := 0
  indent : Int := -1
  outerIndents : List Int := []
  keys : List (Nat × PossibleKey) := []
  keyAllowed : Bool := true
  queue : List Token := []
  taken : Nat := 0
  ended : Bool := false

namespace Stream

/-- The stream with one more token at its end. -/
def push (s : Stream) (t : Token) : Stream := { s with queue := s.queue ++ [t] }

/-- The stream with its cursor moved. -/
def moveTo (s : Stream) (c : Cursor) : Stream := { s with cursor := c }

/-- The stream with a token of the next `n` characters at its end. -/
def pushMark (s : Stream) (n : Nat) (t : Token) : Stream :=
  (s.moveTo (s.cursor.skip n)).push t

/-- Whether the cursor is inside of brackets. -/
def inFlow (s : Stream) : Bool := s.depth != 0

/-- The possible key at the present depth. -/
def key? (s : Stream) : Option PossibleKey :=
  (s.keys.find? (·.1 == s.depth)).map (·.2)

/-- The stream without the possible key at the present depth. -/
def forgetKey (s : Stream) : Stream :=
  { s with keys := s.keys.filter (·.1 != s.depth) }

/-- The stream without the possible key at the present depth, which must not be
a required one. -/
def dropKey (s : Stream) : Except Error Stream :=
  if s.key?.any (·.required) then .error .token else .ok s.forgetKey

/-- Whether a possible key is out of reach of its colon. -/
def isStale (s : Stream) (k : PossibleKey) : Bool :=
  k.start.line != s.cursor.line || longestKey < s.cursor.index - k.start.index

/-- The stream without the keys that are out of reach. -/
def dropStaleKeys (s : Stream) : Except Error Stream :=
  if s.keys.any fun k => s.isStale k.2 && k.2.required then .error .token
  else .ok { s with keys := s.keys.filter fun k => !s.isStale k.2 }

/-- Remember the place of the next token as a possible key. -/
def saveKey (s : Stream) : Except Error Stream :=
  if s.keyAllowed then do
    let required := !s.inFlow && decide (s.indent = s.cursor.column)
    let s ← s.dropKey
    .ok { s with keys := s.keys ++
      [(s.depth, ⟨s.taken + s.queue.length, required, s.cursor⟩)] }
  else .ok s

/-- Close the block collections that are indented deeper than `column`. -/
def unwindTo (column : Int) (s : Stream) : Stream :=
  if s.inFlow then s
  else
    let closed := (s.indent :: s.outerIndents).takeWhile (column < ·)
    match (s.indent :: s.outerIndents).dropWhile (column < ·) with
    | indent :: outerIndents =>
      { s with indent, outerIndents, queue := s.queue ++ closed.map fun _ => Token.blockEnd }
    | [] => s

/-- Open a block collection at `column` if it is deeper than the present one. -/
def indentAt? (column : Nat) (s : Stream) : Option Stream :=
  if s.indent < column then
    some { s with indent := column, outerIndents := s.indent :: s.outerIndents }
  else none

/-- Insert a token before the one of the given number. -/
def insert (number : Nat) (t : Token) (s : Stream) : Stream :=
  let place := number - s.taken
  { s with queue := s.queue.take place ++ t :: s.queue.drop place }

/-! ### Making tokens -/

/-- Move to the next token: past spaces, comments and line ends. -/
def toNextToken : Nat → Stream → Stream
  | 0, s => s
  | fuel + 1, s =>
    let c := s.cursor.skipWhile (· == ' ')
    let c := if c.head = '#' then c.skipWhile (!isBreak ·) else c
    if isBreak c.head then
      toNextToken fuel { s with cursor := c.takeBreak.2, keyAllowed := s.keyAllowed || !s.inFlow }
    else s.moveTo c

/-- Prepare for a token that no key can hold: all blocks are closed. -/
def closeBlocks (s : Stream) : Except Error Stream := do
  let s ← (s.unwindTo (-1)).dropKey
  .ok { s with keyAllowed := false }

/-- The name of a directive, and the cursor after it. -/
def wordAt (c : Cursor) : Except Error (String × Cursor) :=
  let (word, c) := c.takeWhile isWordChar
  if word.isEmpty then .error .token else .ok (String.ofList word, c)

/-- A number of a version, and the cursor after it. -/
def versionNumber (c : Cursor) : Except Error (Nat × Cursor) :=
  let (digits, c) := c.takeWhile Char.isDigit
  if digits.isEmpty then .error .token
  else
    match Integer.ofText 10 (String.ofList digits) with
    | .ok n => .ok (n.toNat, c)
    | .error cause => .error (.content (.integer cause))

/-- Whether `c` can stand in a tag. -/
def isTagChar (c : Char) : Bool :=
  c.isAlphanum || "-;/?:@&=+$,_.!~*'()[]%".toList.contains c

/-- The handle of a tag, and the cursor after it. -/
def tagHandle (c : Cursor) : Except Error (String × Cursor) :=
  if c.head ≠ '!' then .error .token
  else if c.peek 1 = ' ' then .ok ("!", c.step)
  else
    let (word, c) := c.step.takeWhile isWordChar
    if c.head = '!' then .ok (String.ofList ('!' :: word ++ ['!']), c.step) else .error .token

/-- The octets of a run of escapes, and the cursor after it. -/
def escapedOctets : Nat → Cursor → Except Error (List UInt8 × Cursor)
  | 0, c => .ok ([], c)
  | fuel + 1, c =>
    match c.rest with
    | '%' :: a :: b :: _ =>
      match hexNumber? [a, b] with
      | some n => do
        let (octets, c) ← escapedOctets fuel (c.skip 3)
        .ok (n.toUInt8 :: octets, c)
      | none => .error .token
    | '%' :: _ => .error .token
    | _ => .ok ([], c)

/-- The characters of a tag in reverse, and the cursor after them. -/
def tagChars (read : List Char) : Nat → Cursor → Reading
  | 0, c => .ok (read, c)
  | fuel + 1, c =>
    if c.head = '%' then do
      let (octets, c) ← escapedOctets (c.rest.length + 1) c
      match String.fromUTF8? ⟨octets.toArray⟩ with
      | some s => tagChars (s.toList.reverse ++ read) fuel c
      | none => .error .token
    else if isTagChar c.head then tagChars (c.head :: read) fuel c.step
    else .ok (read, c)

/-- The suffix of a tag, and the cursor after it. -/
def tagSuffix (c : Cursor) : Except Error (String × Cursor) := do
  let (read, c) ← tagChars [] (c.rest.length + 1) c
  if read.isEmpty then .error .token else .ok (String.ofList read.reverse, c)

/-- What a directive says, and the cursor after it. -/
def directiveBody (name : String) (c : Cursor) : Except Error (Directive × Cursor) :=
  if name = "YAML" then do
    let (major, c) ← versionNumber (c.skipWhile (· == ' '))
    if c.head ≠ '.' then .error .token
    else
      let (minor, c) ← versionNumber c.step
      if isSpaceOrEnd c.head then .ok (.version major minor, c) else .error .token
  else if name = "TAG" then do
    let (handle, c) ← tagHandle (c.skipWhile (· == ' '))
    if c.head ≠ ' ' then .error .token
    else
      let (expansion, c) ← tagSuffix (c.skipWhile (· == ' '))
      if isSpaceOrEnd c.head then .ok (.handle handle expansion, c) else .error .token
  else .ok (.other, c.skipWhile (!isBreak ·))

/-- Make a directive. -/
def makeDirective (s : Stream) : Except Error Stream := do
  let s ← s.closeBlocks
  let (name, c) ← wordAt s.cursor.step
  if !isSpaceOrEnd c.head then .error .token
  else
    let (directive, c) ← directiveBody name c
    let c ← emptyLine c
    .ok ((s.moveTo c).push (.directive directive))

/-- Make a marker of a document. -/
def makeDocumentMarker (t : Token) (s : Stream) : Except Error Stream := do
  .ok ((← s.closeBlocks).pushMark 3 t)

/-- Make the end of the stream. -/
def makeEnd (s : Stream) : Except Error Stream := do
  let s ← s.closeBlocks
  .ok { s.push .streamEnd with keys := [], ended := true }

/-- Make an opening bracket. -/
def makeOpening (t : Token) (s : Stream) : Except Error Stream := do
  let s ← s.saveKey
  .ok ({ s with depth := s.depth + 1, keyAllowed := true }.pushMark 1 t)

/-- Make a closing bracket. -/
def makeClosing (t : Token) (s : Stream) : Except Error Stream := do
  let s ← s.dropKey
  .ok ({ s with depth := s.depth - 1, keyAllowed := false }.pushMark 1 t)

/-- Make a comma. -/
def makeComma (s : Stream) : Except Error Stream := do
  let s ← { s with keyAllowed := true }.dropKey
  .ok (s.pushMark 1 .comma)

/-- Open a block collection with the token `opening`, if the cursor is outside
of brackets and deeper than the present collection. A key must be allowed
outside of brackets. -/
def openBlock (opening : Token) (s : Stream) : Except Error Stream :=
  if s.inFlow then .ok s
  else if !s.keyAllowed then .error .token
  else
    match s.indentAt? s.cursor.column with
    | some deeper => .ok (deeper.push opening)
    | none => .ok s

/-- Make the marker of a sequence entry. -/
def makeEntryMark (s : Stream) : Except Error Stream := do
  let s ← s.openBlock .blockSequenceStart
  let s ← { s with keyAllowed := true }.dropKey
  .ok (s.pushMark 1 .entryMark)

/-- Make the marker of a key. -/
def makeKeyMark (s : Stream) : Except Error Stream := do
  let s ← s.openBlock .blockMappingStart
  let s ← { s with keyAllowed := !s.inFlow }.dropKey
  .ok (s.pushMark 1 .keyMark)

/-- Make the marker of a value. If there is a possible key, its marker is put
before it. -/
def makeValueMark (s : Stream) : Except Error Stream :=
  match s.key? with
  | some k =>
    let s := s.forgetKey.insert k.number .keyMark
    let opened := if s.inFlow then none else s.indentAt? k.start.column
    let s := match opened with
      | some deeper => deeper.insert k.number .blockMappingStart
      | none => s
    .ok ({ s with keyAllowed := false }.pushMark 1 .valueMark)
  | none => do
    let s ← s.openBlock .blockMappingStart
    let s ← { s with keyAllowed := !s.inFlow }.dropKey
    .ok (s.pushMark 1 .valueMark)

/-- Make an alias or an anchor. -/
def makeName (token : String → Token) (s : Stream) : Except Error Stream := do
  let s ← s.saveKey
  let (name, c) ← wordAt s.cursor.step
  if isGapOrEnd c.head || "?:,]\x7d%@`".toList.contains c.head then
    .ok (({ s with keyAllowed := false }.moveTo c).push (token name))
  else .error .token

/-- Whether a second exclamation mark stands before the next gap. -/
def hasHandle (c : Cursor) : Bool :=
  (c.step.rest.takeWhile (!isSpaceOrEnd ·)).contains '!'

/-- The handle and the suffix of a tag, and the cursor after them. -/
def tagParts (c : Cursor) : Except Error (Option String × String × Cursor) :=
  if c.peek 1 = '<' then do
    let (suffix, c) ← tagSuffix (c.skip 2)
    if c.head = '>' then .ok (none, suffix, c.step) else .error .token
  else if isGapOrEnd (c.peek 1) then .ok (none, "!", c.step)
  else do
    let (handle, c) ← if hasHandle c then tagHandle c else .ok ("!", c.step)
    let (suffix, c) ← tagSuffix c
    .ok (some handle, suffix, c)

/-- Make a tag. -/
def makeTag (s : Stream) : Except Error Stream := do
  let s ← s.saveKey
  let (handle, suffix, c) ← tagParts s.cursor
  if isSpaceOrEnd c.head then
    .ok (({ s with keyAllowed := false }.moveTo c).push (.tag handle suffix))
  else .error .token

/-- Make a block scalar. -/
def makeBlockScalar (folded : Bool) (s : Stream) : Except Error Stream := do
  let s ← { s with keyAllowed := true }.dropKey
  let (text, c) ← blockScalar folded s.indent s.cursor.step
  .ok ((s.moveTo c).push (.scalar text false))

/-- Make a quoted scalar. -/
def makeQuoted (s : Stream) : Except Error Stream := do
  let s ← s.saveKey
  let (text, c) ← quotedScalar s.cursor
  .ok (({ s with keyAllowed := false }.moveTo c).push (.scalar text false))

/-- Make a plain scalar. -/
def makePlain (s : Stream) : Except Error Stream := do
  let s ← s.saveKey
  let read := plainScalar s.inFlow s.indent s.cursor
  .ok (({ s with keyAllowed := read.atLineStart }.moveTo read.cursor).push
    (.scalar (String.ofList read.text) true))

/-- Whether a plain scalar can start with `c`, if `next` follows. -/
def startsPlain (inFlow : Bool) (c next : Char) : Bool :=
  (!isGapOrEnd c && !"-?:,[]\x7b\x7d#&*!|>'\"%@`".toList.contains c) ||
    (!isGapOrEnd next && (c == '-' || (!inFlow && (c == '?' || c == ':'))))

/-- Make the token at the cursor. -/
def makeAt (s : Stream) : Except Error Stream :=
  let c := s.cursor
  let x := c.head
  let gap := isGapOrEnd (c.peek 1)
  if x = endMark then s.makeEnd
  else if x = '%' ∧ c.column = 0 then s.makeDirective
  else if c.column = 0 ∧ c.atMarker '-' then s.makeDocumentMarker .documentStart
  else if c.column = 0 ∧ c.atMarker '.' then s.makeDocumentMarker .documentEnd
  else if x = '[' then s.makeOpening .flowSequenceStart
  else if x = '\x7b' then s.makeOpening .flowMappingStart
  else if x = ']' then s.makeClosing .flowSequenceEnd
  else if x = '\x7d' then s.makeClosing .flowMappingEnd
  else if x = ',' then s.makeComma
  else if x = '-' ∧ gap then s.makeEntryMark
  else if x = '?' ∧ (s.inFlow ∨ gap) then s.makeKeyMark
  else if x = ':' ∧ (s.inFlow ∨ gap) then s.makeValueMark
  else if x = '*' then s.makeName .alias
  else if x = '&' then s.makeName .anchor
  else if x = '!' then s.makeTag
  else if x = '|' ∧ !s.inFlow then s.makeBlockScalar false
  else if x = '>' ∧ !s.inFlow then s.makeBlockScalar true
  else if x = '\'' ∨ x = '"' then s.makeQuoted
  else if startsPlain s.inFlow x (c.peek 1) then s.makePlain
  else .error .token

/-- Make the next token. -/
def makeMore (s : Stream) : Except Error Stream := do
  let s := s.toNextToken (s.cursor.rest.length + 1)
  let s ← s.dropStaleKeys
  (s.unwindTo s.cursor.column).makeAt

/-- Whether the first token of the queue may still get a key marker. -/
def isUndecided (s : Stream) : Bool := s.keys.any (·.2.number == s.taken)

/-- Make tokens until the first one is decided. -/
def decide : Nat → Stream → Except Error Stream
  | 0, s => .ok s
  | fuel + 1, s =>
    if s.ended then .ok s
    else if s.queue.isEmpty then do
      decide fuel (← s.makeMore)
    else do
      let s ← s.dropStaleKeys
      if s.isUndecided then
        decide fuel (← s.makeMore)
      else .ok s

/-- The stream with its first token decided. Every token but the last takes at
least one character, so that the steps end. -/
def ready (s : Stream) : Except Error Stream := s.decide (s.cursor.rest.length + 2)

/-- The stream of a text. A byte order mark at its start is passed over. -/
def ofText (cs : List Char) : Stream :=
  let c : Cursor := { rest := cs }
  { cursor := if c.head = '\ufeff' then c.step else c }

end Stream

end Reckoner.Yaml
