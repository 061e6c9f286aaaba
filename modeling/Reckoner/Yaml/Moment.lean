import Reckoner.Text.Digit

/-!
# Moments in time

A moment is a date of the calendar, and the time of day with its distance from
the zero meridian if they are given. `Moment.ofChars?` reads the form of one,
whatever its numbers are; `Moment.check` says which of its numbers is out of
range, if one is.
-/

namespace Reckoner.Yaml

/-- A time of day, to the millionth of a second; the offset from the zero
meridian is counted in minutes. -/
structure TimeOfDay where
  hour : Nat
  minute : Nat
  second : Nat
  micro : Nat
  offset : Option Int
deriving DecidableEq

/-- A date, and a time of day if there is one. -/
structure Moment where
  year : Nat
  month : Nat
  day : Nat
  time : Option TimeOfDay
deriving DecidableEq

namespace Moment

/-! ### The form -/

/-- The number at the head of a text with at least `least` and at most `most`
digits, and the rest. As many digits are taken as there are. -/
def number? (least most : Nat) (cs : List Char) : Option (Nat × List Char) :=
  let digits := (cs.take most).takeWhile Char.isDigit
  if digits.length < least then none
  else some (Nat.ofDigitChars 10 digits 0, cs.drop digits.length)

/-- The text after the character `c`. -/
def after? (c : Char) (cs : List Char) : Option (List Char) :=
  if cs.head? = some c then some cs.tail else none

/-- Whether `c` is a space or a tab. -/
def isGap (c : Char) : Bool := c == ' ' || c == '\t'

/-- The offset at the end of a moment: none at all, the letter of the zero
meridian, or signed hours with or without minutes. -/
def offset? (cs : List Char) : Option (Option Int) :=
  match cs.dropWhile isGap with
  | [] => if cs.isEmpty then some none else none
  | ['Z'] => some (some 0)
  | sign :: rest =>
    if sign = '+' ∨ sign = '-' then do
      let (hours, rest) ← number? 1 2 rest
      let (minutes, rest) ← match rest with
        | ':' :: rest => number? 2 2 rest
        | _ => some (0, rest)
      let total : Int := (60 * hours + minutes : Nat)
      if rest.isEmpty then some (some (if sign = '-' then -total else total)) else none
    else none

/-- The millionths of a second of a fraction; further digits are dropped. -/
def microOf (fraction : List Char) : Nat :=
  Nat.ofDigitChars 10 ((fraction ++ List.replicate (6 - fraction.length) '0').take 6) 0

/-- The time of day in a text. -/
def time? (cs : List Char) : Option TimeOfDay := do
  let (hour, rest) ← number? 1 2 cs
  let (minute, rest) ← number? 2 2 (← after? ':' rest)
  let (second, rest) ← number? 2 2 (← after? ':' rest)
  let (fraction, rest) := match rest with
    | '.' :: rest => (rest.takeWhile Char.isDigit, rest.dropWhile Char.isDigit)
    | rest => ([], rest)
  let offset ← offset? rest
  some { hour, minute, second, micro := microOf fraction, offset }

/-- The moment that a text has the form of. A letter or a gap stands between the
date and the time of day. -/
def ofChars? (cs : List Char) : Option Moment := do
  let (year, rest) ← number? 4 4 cs
  let (month, rest) ← number? 1 2 (← after? '-' rest)
  let (day, rest) ← number? 1 2 (← after? '-' rest)
  match rest with
  | [] => some { year, month, day, time := none }
  | c :: rest =>
    let rest ←
      if c = 'T' ∨ c = 't' then some rest
      else if isGap c then some (rest.dropWhile isGap)
      else none
    some { year, month, day, time := some (← time? rest) }

/-- Whether a plain text is a moment: a date alone has two digits for the month
and the day. -/
def isForm (cs : List Char) : Bool :=
  (ofChars? cs).any fun m => m.time.isSome || cs.length == 10

/-! ### The calendar -/

/-- Whether a year has a leap day. -/
def isLeapYear (year : Nat) : Bool :=
  year % 4 == 0 && (year % 100 != 0 || year % 400 == 0)

/-- The number of days in a month. -/
def daysIn (year month : Nat) : Nat :=
  if month = 2 then if isLeapYear year then 29 else 28
  else if month = 4 ∨ month = 6 ∨ month = 9 ∨ month = 11 then 30
  else 31

/-- Which number of a moment is out of range. -/
inductive Fault where
  | offset (minutes : Int)
  | year (n : Nat)
  | month
  | day
  | hour
  | minute
  | second
deriving DecidableEq

/-- The span of some minutes, as days and the seconds after them. -/
def spanText (minutes : Int) : String :=
  let seconds := 60 * (minutes % 1440)
  let parts :=
    (if minutes / 1440 = 0 then [] else ["days=" ++ toString (minutes / 1440)]) ++
      (if seconds = 0 then [] else ["seconds=" ++ toString seconds])
  "datetime.timedelta(" ++ ", ".intercalate parts ++ ")"

/-- The wording of a fault. -/
def Fault.message : Fault → String
  | offset minutes =>
    "offset must be a timedelta strictly between -timedelta(hours=24) and " ++
      "timedelta(hours=24), not " ++ spanText minutes ++ "."
  | year n => "year " ++ toString n ++ " is out of range"
  | month => "month must be in 1..12"
  | day => "day is out of range for month"
  | hour => "hour must be in 0..23"
  | minute => "minute must be in 0..59"
  | second => "second must be in 0..59"

/-- The moment, if all its numbers are in range: the offset is less than a day,
and the date and the time of day exist. -/
def check (m : Moment) : Except Fault Moment := do
  let offset := ((m.time.bind (·.offset)).getD 0)
  if 1440 ≤ offset.natAbs then throw (.offset offset)
  if m.year = 0 then throw (.year 0)
  if m.month < 1 ∨ 12 < m.month then throw .month
  if m.day < 1 ∨ daysIn m.year m.month < m.day then throw .day
  match m.time with
  | none => pure m
  | some t =>
    if 24 ≤ t.hour then throw .hour
    if 60 ≤ t.minute then throw .minute
    if 60 ≤ t.second then throw .second
    pure m

/-! ### Writing -/

/-- The digits of `n`, at least `width` of them. -/
def padded (width n : Nat) : String :=
  let digits := Nat.toDigits 10 n
  String.ofList (List.replicate (width - digits.length) '0' ++ digits)

/-- The offset from the zero meridian written out. -/
def offsetText : Option Int → String
  | none => ""
  | some minutes =>
    (if minutes < 0 then "-" else "+") ++ padded 2 (minutes.natAbs / 60) ++ ":" ++
      padded 2 (minutes.natAbs % 60)

/-- The moment written out: the date, and after a space the time of day. -/
def written (m : Moment) : String :=
  let date := padded 4 m.year ++ "-" ++ padded 2 m.month ++ "-" ++ padded 2 m.day
  match m.time with
  | none => date
  | some t =>
    date ++ " " ++ padded 2 t.hour ++ ":" ++ padded 2 t.minute ++ ":" ++ padded 2 t.second ++
      (if t.micro = 0 then "" else "." ++ padded 6 t.micro) ++ offsetText t.offset

end Moment

end Reckoner.Yaml
