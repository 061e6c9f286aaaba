import Reckoner.Data.Datum
import Reckoner.Number.Integer

/-!
# Reading JSON

`Json.read s` is the value that the text `s` denotes, if it is one JSON value
between blanks with at most `mostNested` lists and mappings inside of each
other. Numbers without fraction and exponent are whole
numbers, of at most `Integer.mostDigits` digits; the names of infinity and of
`nan` are numbers too. The readers take
the characters that are left and return the value with the characters after
it. Their fuel bounds the depth of the recursion; one more than the number of
characters is enough, since every step consumes a character.
-/

namespace Reckoner.Json

/-- Whether `c` is one of the four blanks between the tokens. -/
def isSpace (c : Char) : Bool := c == ' ' || c == '\t' || c == '\n' || c == '\r'

/-- The text after its blanks. -/
def skip (cs : List Char) : List Char := cs.dropWhile isSpace

/-- The rest of `cs` after the characters of `word`, if it starts with them. -/
def after? (word : String) (cs : List Char) : Option (List Char) :=
  let w := word.toList
  if w.isPrefixOf cs then some (cs.drop w.length) else none

/-- The code unit written in the first four characters, and the rest. -/
def codeUnit? : List Char → Option (Nat × List Char)
  | a :: b :: c :: d :: rest => do
    let a ← Text.hexValue? a
    let b ← Text.hexValue? b
    let c ← Text.hexValue? c
    let d ← Text.hexValue? d
    pure (((a * 16 + b) * 16 + c) * 16 + d, rest)
  | _ => none

/-- The character of a code unit, which may be the first half of a pair whose
second half is escaped next, and the rest. -/
def unitChar (unit : Nat) (rest : List Char) : Char × List Char :=
  let alone := (Char.ofNat (if unit.isValidChar then unit else 0xfffd), rest)
  if 0xd800 ≤ unit ∧ unit < 0xdc00 then
    match rest with
    | '\\' :: 'u' :: low =>
      match codeUnit? low with
      | some (second, rest) =>
        if 0xdc00 ≤ second ∧ second < 0xe000 then
          (Char.ofNat (0x10000 + (unit - 0xd800) * 0x400 + (second - 0xdc00)), rest)
        else alone
      | none => alone
    | _ => alone
  else alone

/-- The character that a one-letter escape stands for. -/
def escaped? : Char → Option Char
  | '"' => some '"'
  | '\\' => some '\\'
  | '/' => some '/'
  | 'b' => some '\x08'
  | 'f' => some '\x0c'
  | 'n' => some '\n'
  | 'r' => some '\r'
  | 't' => some '\t'
  | _ => none

/-- The characters up to the closing quote, and the rest after it. -/
def string? : Nat → List Char → Option (List Char × List Char)
  | 0, _ => none
  | _, [] => none
  | fuel + 1, c :: rest =>
    if c = '"' then some ([], rest)
    else if c = '\\' then
      match rest with
      | 'u' :: digits => do
        let (unit, rest) ← codeUnit? digits
        let (c, rest) := unitChar unit rest
        let (cs, rest) ← string? fuel rest
        pure (c :: cs, rest)
      | letter :: rest => do
        let c ← escaped? letter
        let (cs, rest) ← string? fuel rest
        pure (c :: cs, rest)
      | [] => none
    else if c.toNat < 32 then none
    else do
      let (cs, rest) ← string? fuel rest
      pure (c :: cs, rest)

/-- A nonempty run of digits after the given character, and the rest. If there
is none, nothing is taken. -/
def digitsAfter (isMark : Char → Bool) (allowSign : Bool) (cs : List Char) :
    List Char × List Char :=
  match cs with
  | mark :: rest =>
    let (sign, body) := match rest with
      | c :: tail => if allowSign ∧ (c = '+' ∨ c = '-') then ([c], tail) else ([], rest)
      | [] => ([], [])
    let digits := body.takeWhile Char.isDigit
    if isMark mark && !digits.isEmpty then
      (mark :: sign ++ digits, body.dropWhile Char.isDigit)
    else ([], cs)
  | [] => ([], [])

/-- The number at the head of an unsigned text, and the rest. -/
def number? (negative : Bool) (cs : List Char) : Option (Datum × List Char) := do
  let whole := match cs with
    | '0' :: _ => ['0']
    | cs => cs.takeWhile Char.isDigit
  if whole.isEmpty then none
  let (fraction, rest) := digitsAfter (· == '.') false (cs.drop whole.length)
  let (exponent, rest) := digitsAfter (fun c => c == 'e' || c == 'E') true rest
  if fraction.isEmpty && exponent.isEmpty then
    if Integer.mostDigits < whole.length then none
    let n : Int := Nat.ofDigitChars 10 whole 0
    pure (.int (if negative then -n else n), rest)
  else
    let numeral ← Numeral.unsigned? negative (whole ++ fraction ++ exponent)
    pure (.real numeral.toBinary64, rest)

/-- The value that a word or number at the head of the text stands for, and the
rest. -/
def scalar? (cs : List Char) : Option (Datum × List Char) :=
  match cs with
  | 'n' :: _ => (after? "null" cs).map (Datum.null, ·)
  | 't' :: _ => (after? "true" cs).map (Datum.bool true, ·)
  | 'f' :: _ => (after? "false" cs).map (Datum.bool false, ·)
  | 'N' :: _ => (after? "NaN" cs).map (Datum.real .nan, ·)
  | 'I' :: _ => (after? "Infinity" cs).map (Datum.real (.infinite false), ·)
  | '-' :: rest =>
    match after? "Infinity" rest with
    | some rest => some (.real (.infinite true), rest)
    | none => number? true rest
  | _ => number? false cs

/-- Why a text is not a value: it does not follow the grammar, or it has a list
or a mapping inside of too many others. -/
inductive Refusal where
  | malformed
  | deepList
  | deepMapping
deriving DecidableEq

/-- The most lists and mappings that may be nested. -/
def mostNested : Nat := 980

/-- A part of a text that is there. -/
def required {α : Type} (r : Option α) : Except Refusal α := r.elim (.error .malformed) .ok

mutual

/-- The value at the head of a text without leading blanks, and the rest; `room`
is how many lists and mappings may still be nested. -/
def value (room : Nat) : Nat → List Char → Except Refusal (Datum × List Char)
  | 0, _ => .error .malformed
  | fuel + 1, cs =>
    match cs with
    | '"' :: rest => do
      let (s, rest) ← required (string? (rest.length + 1) rest)
      pure (.text (String.ofList s), rest)
    | '[' :: rest =>
      match room, skip rest with
      | 0, _ => .error .deepList
      | _ + 1, ']' :: rest => .ok (.list [], rest)
      | room + 1, rest => (items room fuel rest).map fun (items, rest) => (.list items, rest)
    | '\x7b' :: rest =>
      match room, skip rest with
      | 0, _ => .error .deepMapping
      | _ + 1, '\x7d' :: rest => .ok (.map [], rest)
      | room + 1, rest =>
        (members room fuel rest).map fun (entries, rest) => (.map entries, rest)
    | _ => required (scalar? cs)

/-- The items of a list up to its bracket, and the rest after it. -/
def items (room : Nat) : Nat → List Char → Except Refusal (List Datum × List Char)
  | 0, _ => .error .malformed
  | fuel + 1, cs => do
    let (first, rest) ← value room fuel cs
    match skip rest with
    | ']' :: rest => pure ([first], rest)
    | ',' :: rest =>
      let (others, rest) ← items room fuel (skip rest)
      pure (first :: others, rest)
    | _ => .error .malformed

/-- The entries of a mapping up to its brace, and the rest after it. -/
def members (room : Nat) : Nat → List Char → Except Refusal (List (Datum × Datum) × List Char)
  | 0, _ => .error .malformed
  | fuel + 1, cs =>
    match cs with
    | '"' :: rest => do
      let (key, rest) ← required (string? (rest.length + 1) rest)
      match skip rest with
      | ':' :: rest =>
        let (value, rest) ← value room fuel (skip rest)
        let entry := (Datum.text (String.ofList key), value)
        match skip rest with
        | '\x7d' :: rest => pure ([entry], rest)
        | ',' :: rest =>
          let (others, rest) ← members room fuel (skip rest)
          pure (entry :: others, rest)
        | _ => .error .malformed
      | _ => .error .malformed
    | _ => .error .malformed

end

/-- The value that a text denotes. -/
def read (s : String) : Except Refusal Datum := do
  let (value, rest) ← value mostNested (s.length + 1) (skip s.toList)
  if (skip rest).isEmpty then pure value else .error .malformed

end Reckoner.Json
