import Reckoner.Number.Numeral
import Reckoner.Text.Quoted

/-!
# Reading whole numbers in a base

`Integer.ofText base s` is the whole number that the text `s` denotes: digits of
the base between blanks and after a sign. The digits may be those of any script,
single underscores may stand between them, and in the bases two, eight and
sixteen a zero and the letter of the base before them. In base ten there are at
most `mostDigits` digits.
-/

namespace Reckoner

namespace Integer

/-- The most decimal digits that are read. -/
def mostDigits : Nat := 4300

/-- Why a text is not a whole number. -/
inductive Refusal where
  | malformed (base : Nat) (text : String)
  | oversized (digits : Nat)
deriving DecidableEq

/-- How many characters of the quoted text a message shows. -/
def shownCharacters : Nat := 200

/-- The wording of a refusal. -/
def Refusal.message : Refusal → String
  | malformed base text =>
    "invalid literal for int() with base " ++ toString base ++ ": " ++
      String.ofList ((Text.quoted text).toList.take shownCharacters)
  | oversized digits =>
    "Exceeds the limit (" ++ toString mostDigits ++
      " digits) for integer string conversion: value has " ++ toString digits ++
      " digits; use sys.set_int_max_str_digits() to increase the limit"

/-- Whether two underscores stand next to each other. -/
def hasDoubleUnderscore : List Char → Bool
  | '_' :: '_' :: _ => true
  | _ :: rest => hasDoubleUnderscore rest
  | [] => false

/-- The text without its underscores, which must be single and inside. -/
def withoutUnderscores? (cs : List Char) : Option (List Char) :=
  if cs.head? = some '_' ∨ cs.getLast? = some '_' ∨ hasDoubleUnderscore cs then none
  else some (cs.filter (· != '_'))

/-- The character of ASCII that stands for `c` in a number: blanks become spaces,
and digits ASCII digits. No other character outside of ASCII can stand in a
number. -/
def toAscii (c : Char) : Char :=
  if c.toNat < 127 then c
  else if Text.isBlank c then ' '
  else
    match Text.decimalValue? c with
    | some d => Nat.digitChar d
    | none => '?'

/-- Whether `c` is a digit in a base up to sixteen. -/
def isDigitIn (base : Nat) (c : Char) : Bool := (Text.hexValue? c).any (· < base)

/-- The number that a run of digits denotes in a base. -/
def ofDigits (base : Nat) (digits : List Char) : Nat :=
  digits.foldl (fun n c => n * base + (Text.hexValue? c).getD 0) 0

/-- The letter that marks a base. -/
def mark? (base : Nat) : Option Char :=
  if base = 2 then some 'b'
  else if base = 8 then some 'o'
  else if base = 16 then some 'x'
  else none

/-- The text after the mark of the base, if it starts with one. -/
def afterMark (base : Nat) (cs : List Char) : List Char :=
  match cs with
  | '0' :: c :: rest =>
    if mark? base = some c.toLower then if rest.head? = some '_' then rest.tail else rest else cs
  | _ => cs

/-- Whether `c` can stand in the digits of a base. -/
def isRunChar (base : Nat) (c : Char) : Bool := isDigitIn base c || c == '_'

/-- The whole number that the text `s` denotes in a base. -/
def ofText (base : Nat) (s : String) : Except Refusal Int :=
  let (negative, body) :=
    Numeral.splitSign ((s.toList.map toAscii).dropWhile Text.isAsciiBlank)
  let body := afterMark base body
  match withoutUnderscores? (body.takeWhile (isRunChar base)) with
  | none => .error (.malformed base s)
  | some digits =>
    if base = 10 ∧ mostDigits < digits.length then .error (.oversized digits.length)
    else if digits = [] ∨ !(body.dropWhile (isRunChar base)).all Text.isAsciiBlank then
      .error (.malformed base s)
    else .ok (if negative then -(ofDigits base digits : Int) else ofDigits base digits)

end Integer

end Reckoner
