import Reckoner.Number.Integer

/-!
# Literals in tags

The parameters of a tag that names an action must be a literal: a number, a sum
of a real and an imaginary one, a quoted text, one of the constants, or a tuple, a
set or a dictionary of literals. `isLiteral` tells whether a text is one. Only
what can be a key may be in a set or be a key of a dictionary.
-/

namespace Reckoner.Console

/-- A lexeme of a literal. -/
inductive Lexeme where
  | real
  | imaginary
  | text
  | octets
  | constant
  | emptySet
  | sign
  | comma
  | colon
  | openParen
  | closeParen
  | openBrace
  | closeBrace
deriving DecidableEq

namespace Lexeme

/-! ### Numbers -/

/-- The digits that a text starts with, without the single underscores between
them, and the rest. -/
def digitRun (p : Char → Bool) : List Char → List Char × List Char
  | c :: '_' :: d :: rest =>
    if p c && p d then
      let (digits, rest) := digitRun p (d :: rest)
      (c :: digits, rest)
    else if p c then ([c], '_' :: d :: rest)
    else ([], c :: '_' :: d :: rest)
  | c :: rest =>
    if p c then
      let (digits, rest) := digitRun p rest
      (c :: digits, rest)
    else ([], c :: rest)
  | [] => ([], [])

/-- The rest after the exponent that a text starts with. -/
def dropExponent? (cs : List Char) : Option (List Char) :=
  match cs with
  | e :: rest =>
    if e.toLower = 'e' then
      let digits := match rest with
        | '+' :: more | '-' :: more => more
        | _ => rest
      match digitRun Char.isDigit digits with
      | ([], _) => none
      | (_, after) => some after
    else none
  | [] => none

/-- Whether the digits of a whole number other than zero start with a zero, or are
too many. -/
def isBadWhole (digits : List Char) : Bool :=
  (digits.head? == some '0' && digits.any (· != '0')) || Integer.mostDigits < digits.length

/-- The number in base ten that a text starts with. -/
def decimal? (cs : List Char) : Option (Lexeme × List Char) :=
  let (whole, rest) := digitRun Char.isDigit cs
  let (fraction, pointed, rest) := match rest with
    | '.' :: more =>
      let (fraction, after) := digitRun Char.isDigit more
      (fraction, true, after)
    | _ => ([], false, rest)
  if whole = [] ∧ fraction = [] then none
  else
    let (scaled, rest) := match dropExponent? rest with
      | some after => (true, after)
      | none => (false, rest)
    match rest with
    | 'j' :: after | 'J' :: after => some (imaginary, after)
    | _ => if !pointed && !scaled && isBadWhole whole then none else some (real, rest)

/-- The number that a text starts with. -/
def number? (cs : List Char) : Option (Lexeme × List Char) :=
  let inBase (p : Char → Bool) (rest : List Char) : Option (Lexeme × List Char) :=
    match digitRun p (if rest.head? = some '_' then rest.tail else rest) with
    | ([], _) => none
    | (_, after) => some (real, after)
  match cs with
  | '0' :: 'x' :: rest | '0' :: 'X' :: rest => inBase (Integer.isDigitIn 16) rest
  | '0' :: 'o' :: rest | '0' :: 'O' :: rest => inBase (Integer.isDigitIn 8) rest
  | '0' :: 'b' :: rest | '0' :: 'B' :: rest => inBase (Integer.isDigitIn 2) rest
  | _ => decimal? cs

/-! ### Quoted texts -/

/-- How a text in quotes is read. -/
structure Quoting where
  raw : Bool
  octets : Bool

/-- How a text in quotes is read after some letters. -/
def quotingOf? (letters : List Char) : Option Quoting :=
  match letters.map Char.toLower with
  | [] | ['u'] => some ⟨false, false⟩
  | ['r'] => some ⟨true, false⟩
  | ['b'] => some ⟨false, true⟩
  | ['b', 'r'] | ['r', 'b'] => some ⟨true, true⟩
  | _ => none

/-- How many hexadecimal digits an escape has. -/
def escapeDigits (q : Quoting) (c : Char) : Nat :=
  if c = 'x' then 2
  else if q.octets then 0
  else if c = 'u' then 4
  else if c = 'U' then 8
  else 0

/-- Whether an escape with its letter before some characters can be read. -/
def isEscape (q : Quoting) (c : Char) (rest : List Char) : Bool :=
  let digits := rest.take (escapeDigits q c)
  q.raw ||
    (digits.length == escapeDigits q c && digits.all (Integer.isDigitIn 16) &&
      Integer.ofDigits 16 digits ≤ 0x10ffff && (q.octets || c != 'N'))

/-- What follows the end of a text that is enclosed in `quotes`. -/
def afterQuoted? (q : Quoting) (quotes : List Char) : List Char → Option (List Char)
  | [] => none
  | '\\' :: c :: rest =>
    if isEscape q c rest && (!q.octets || c.toNat < 128) then afterQuoted? q quotes rest else none
  | c :: rest =>
    if quotes.isPrefixOf (c :: rest) then some ((c :: rest).drop quotes.length)
    else if (c = '\n' ∧ quotes.length = 1) ∨ (q.octets ∧ 128 ≤ c.toNat) then none
    else afterQuoted? q quotes rest

/-- The quoted text that stands after some letters. -/
def quoted? (letters cs : List Char) : Option (Lexeme × List Char) := do
  let q ← quotingOf? letters
  let mark ← cs.head?
  let quotes := if [mark, mark, mark].isPrefixOf cs then [mark, mark, mark] else [mark]
  let rest ← afterQuoted? q quotes (cs.drop quotes.length)
  some (if q.octets then octets else text, rest)

/-! ### Words and marks -/

/-- Whether `c` may stand in a word. -/
def isWordChar (c : Char) : Bool := c.isAlphanum || c == '_'

/-- The empty set that a text after its word stands for. -/
def emptySet? (cs : List Char) : Option (Lexeme × List Char) :=
  match cs.dropWhile (· == ' ') with
  | '(' :: rest =>
    match rest.dropWhile (· == ' ') with
    | ')' :: rest => some (emptySet, rest)
    | _ => none
  | _ => none

/-- The constant, the set or the quoted text that starts with a word. -/
def ofWord? (cs : List Char) : Option (Lexeme × List Char) :=
  let word := cs.takeWhile isWordChar
  let rest := cs.dropWhile isWordChar
  if rest.head? = some '\'' ∨ rest.head? = some '"' then quoted? word rest
  else if ["None", "True", "False"].contains (String.ofList word) then some (constant, rest)
  else if word = "set".toList then emptySet? rest
  else none

/-- The lexeme that a text starts with. -/
def first? (cs : List Char) : Option (Lexeme × List Char) :=
  match cs with
  | '.' :: '.' :: '.' :: rest => some (constant, rest)
  | ',' :: rest => some (comma, rest)
  | ':' :: rest => some (colon, rest)
  | '(' :: rest => some (openParen, rest)
  | ')' :: rest => some (closeParen, rest)
  | '\x7b' :: rest => some (openBrace, rest)
  | '\x7d' :: rest => some (closeBrace, rest)
  | '+' :: rest | '-' :: rest => some (sign, rest)
  | '\'' :: _ | '"' :: _ => quoted? [] cs
  | c :: _ => if c.isDigit || c == '.' then number? cs else ofWord? cs
  | [] => none

/-- Whether `c` may stand between lexemes inside `depth` brackets. Lines end only
inside of brackets. -/
def isGap (depth : Nat) (c : Char) : Bool :=
  c == ' ' || c == '\t' || c == '\x0c' || (c == '\n' && depth != 0)

/-- The number of brackets that are open after a lexeme. -/
def depthAfter (depth : Nat) : Lexeme → Nat
  | openParen | openBrace => depth + 1
  | closeParen | closeBrace => depth - 1
  | _ => depth

/-- The lexemes of a text inside `depth` brackets, at most as many as the fuel.
What follows a hash in a line is dropped, and so is a backslash with the end of
its line. -/
def allFrom? (depth : Nat) : Nat → List Char → Option (List Lexeme)
  | 0, _ => none
  | fuel + 1, cs =>
    match cs.dropWhile (isGap depth) with
    | [] => some []
    | '\\' :: '\n' :: rest => allFrom? depth fuel rest
    | '#' :: rest => allFrom? depth fuel (rest.dropWhile (· != '\n'))
    | rest => do
      let (lexeme, rest) ← first? rest
      let lexemes ← allFrom? (depthAfter depth lexeme) fuel rest
      some (lexeme :: lexemes)

/-- The lexemes of a text. -/
def all? (cs : List Char) : Option (List Lexeme) := allFrom? 0 (cs.length + 1) cs

end Lexeme

/-- What a literal is good for: an operand, a part of a longer text, a key. -/
inductive LiteralKind where
  | real
  | imaginary
  | signed (real : Bool)
  | text
  | octets
  | key
  | collection
deriving DecidableEq

namespace LiteralKind

/-- The kind of a literal after a sign. -/
def negated? : LiteralKind → Option LiteralKind
  | real => some (signed true)
  | imaginary => some (signed false)
  | _ => none

/-- The kind of a sum. -/
def sum? (left right : LiteralKind) : Option LiteralKind :=
  if (left = real ∨ left = signed true) ∧ right = imaginary then some key else none

/-- The kind of a tuple. -/
def ofTuple (kinds : List LiteralKind) : LiteralKind :=
  if kinds.contains collection then collection else key

end LiteralKind

/-- An element of a collection, and whether a value follows it after a colon. -/
structure Element where
  kind : LiteralKind
  isEntry : Bool

/-- The kind of what stands in parentheses, given whether a comma is in it. -/
def kindInParens? (elements : List Element) (comma : Bool) : Option LiteralKind :=
  if elements.any (·.isEntry) then none
  else
    match elements, comma with
    | [e], false => some e.kind
    | _, _ => some (.ofTuple (elements.map (·.kind)))

/-- The kind of what stands in braces. -/
def kindInBraces? (elements : List Element) : Option LiteralKind :=
  if (elements.all (·.isEntry) || elements.all (!·.isEntry)) &&
      elements.all (·.kind != .collection) then some .collection
  else none

/-- The rest after the texts that go on one. -/
def dropTexts (lexeme : Lexeme) : List Lexeme → List Lexeme
  | next :: rest => if next = lexeme then dropTexts lexeme rest else next :: rest
  | [] => []

mutual

/-- The literal that some lexemes start with, and the rest. -/
def literalFrom? : Nat → List Lexeme → Option (LiteralKind × List Lexeme)
  | 0, _ => none
  | fuel + 1, lexemes => do
    let (left, rest) ← operandFrom? fuel lexemes
    match rest with
    | .sign :: rest =>
      let (right, rest) ← operandFrom? fuel rest
      let kind ← left.sum? right
      some (kind, rest)
    | _ => some (left, rest)

/-- The operand that some lexemes start with, and the rest. -/
def operandFrom? : Nat → List Lexeme → Option (LiteralKind × List Lexeme)
  | 0, _ => none
  | fuel + 1, lexemes =>
    match lexemes with
    | .real :: rest => some (.real, rest)
    | .imaginary :: rest => some (.imaginary, rest)
    | .text :: rest => some (.text, dropTexts .text rest)
    | .octets :: rest => some (.octets, dropTexts .octets rest)
    | .constant :: rest => some (.key, rest)
    | .emptySet :: rest => some (.collection, rest)
    | .sign :: rest => do
      let (kind, rest) ← operandFrom? fuel rest
      let kind ← kind.negated?
      some (kind, rest)
    | .openParen :: rest => do
      let (elements, comma, rest) ← elementsFrom? fuel .closeParen rest
      let kind ← kindInParens? elements comma
      some (kind, rest)
    | .openBrace :: rest => do
      let (elements, _, rest) ← elementsFrom? fuel .closeBrace rest
      let kind ← kindInBraces? elements
      some (kind, rest)
    | _ => none

/-- The elements up to a closing mark, whether a comma is among them, and the rest
after the mark. -/
def elementsFrom? : Nat → Lexeme → List Lexeme → Option (List Element × Bool × List Lexeme)
  | 0, _, _ => none
  | fuel + 1, close, lexemes =>
    if lexemes.head? = some close then some ([], false, lexemes.tail)
    else do
      let (kind, rest) ← literalFrom? fuel lexemes
      let (element, rest) ← match rest with
        | .colon :: rest => (literalFrom? fuel rest).map fun value => (⟨kind, true⟩, value.2)
        | _ => some (⟨kind, false⟩, rest)
      match rest with
      | .comma :: rest =>
        let (elements, _, rest) ← elementsFrom? fuel close rest
        some (element :: elements, true, rest)
      | next :: rest => if next = close then some ([element], false, rest) else none
      | [] => none

end

/-- Whether a text is a literal. Elements with commas between them are a tuple
also without parentheses. -/
def isLiteral (cs : List Char) : Bool :=
  match Lexeme.all? cs with
  | none | some [] => false
  | some lexemes =>
    match elementsFrom? (3 * lexemes.length + 4) .closeParen (lexemes ++ [.closeParen]) with
    | some (elements, comma, []) => (kindInParens? elements comma).isSome
    | _ => false

@[simp] theorem isLiteral_nil : isLiteral [] = false := rfl

end Reckoner.Console
