import Reckoner.Number.Binary64
import Reckoner.Text.Blank
import Reckoner.Text.Digit

/-!
# Reading decimal numerals

A numeral is a run of digits with at most one point and at least one digit,
after an optional sign and before an optional power of ten. `Numeral` holds its
value exactly, and `Numeral.toBinary64` rounds that value once.

`Binary64.ofText?` reads the wider class of texts that a number token may hold:
there may be blanks around the numeral, digits of any script, single
underscores between digits, and the names of infinity and of `nan` in any case.
-/

namespace Reckoner

/-- The exact decimal number `± digits * 10 ^ scale`. -/
structure Numeral where
  negative : Bool
  digits : Nat
  scale : Int
deriving DecidableEq

namespace Numeral

/-- The nearest binary number. -/
def toBinary64 (n : Numeral) : Binary64 :=
  Binary64.ofFraction n.negative (n.digits * tenTo n.scale.toNat) (tenTo (-n.scale).toNat)

/-- The digits before the point, the digits after it, and the rest. -/
def splitPoint (cs : List Char) : List Char × List Char × List Char :=
  let whole := cs.takeWhile Char.isDigit
  match cs.dropWhile Char.isDigit with
  | '.' :: rest => (whole, rest.takeWhile Char.isDigit, rest.dropWhile Char.isDigit)
  | rest => (whole, [], rest)

/-- The sign at the head of `cs`, and what follows it. -/
def splitSign : List Char → Bool × List Char
  | '-' :: rest => (true, rest)
  | '+' :: rest => (false, rest)
  | rest => (false, rest)

/-- A nonempty run of digits, read as a whole number. -/
def natural? (cs : List Char) : Option Nat :=
  if cs ≠ [] ∧ cs.all Char.isDigit then some (Nat.ofDigitChars 10 cs 0) else none

/-- The power of ten written after the digits; an empty text stands for zero. -/
def exponent? : List Char → Option Int
  | [] => some 0
  | c :: rest =>
    if c = 'e' ∨ c = 'E' then
      let (negative, digits) := splitSign rest
      (natural? digits).map fun n => if negative then -(n : Int) else n
    else none

/-- Read an unsigned numeral. With `n` digits, a power of ten beyond `n + 2000`
leads past the largest number, or below half of the smallest one, whatever the
digits are; the exponent is cut there, so that the exact value stays small
enough to compute with. -/
def unsigned? (negative : Bool) (cs : List Char) : Option Numeral :=
  let (whole, fraction, rest) := splitPoint cs
  let digits := whole ++ fraction
  if digits = [] then none
  else
    let bound : Int := digits.length + 2000
    (exponent? rest).map fun e =>
      { negative, digits := Nat.ofDigitChars 10 digits 0,
        scale := max (-bound) (min bound e) - fraction.length }

end Numeral

namespace Binary64

/-- The number that a name in lower case stands for. -/
def ofName? (negative : Bool) (name : String) : Option Binary64 :=
  if name = "inf" ∨ name = "infinity" then some (.infinite negative)
  else if name = "nan" then some .nan
  else none

/-- The text in ASCII: blanks become spaces and digits become ASCII digits. No
other character outside of ASCII can stand in a number. -/
def toAscii? (cs : List Char) : Option (List Char) :=
  cs.mapM fun c =>
    if c.toNat < 127 then some c
    else if Text.isBlank c then some ' '
    else (Text.decimalValue? c).map Nat.digitChar

/-- The text without its underscores, each of which must stand between two
digits; `previous` is the character before the text. -/
def joinGroups? (previous : Char) : List Char → Option (List Char)
  | [] => some []
  | c :: rest =>
    if c = '_' then
      if previous.isDigit && rest.head?.any Char.isDigit then joinGroups? c rest else none
    else (c :: ·) <$> joinGroups? c rest

/-- The number that a text stands for. -/
def ofText? (s : String) : Option Binary64 := do
  let ascii ← toAscii? s.toList
  let joined ← joinGroups? ' ' ascii
  let (negative, rest) := Numeral.splitSign (Text.trim Text.isAsciiBlank joined)
  match ofName? negative (String.ofList (rest.map Char.toLower)) with
  | some x => some x
  | none => (Numeral.unsigned? negative rest).map Numeral.toBinary64

end Binary64

end Reckoner
