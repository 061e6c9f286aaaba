import Reckoner.Number.Places

/-!
# Positional notation

`Binary64.text x` writes a number with digits and at most one point, and never
with a power of ten. A whole number is written exactly. Any other finite number
is written with as few decimal places as are needed for the text to read back
as the same number; of the decimals with that many places that read back, the
nearest is taken.
-/

namespace Reckoner

/-- The digits of `k / 10 ^ places`, with `places` of them after the point. -/
def decimalDigits (k places : Nat) : List Char :=
  let fraction := Nat.toDigits 10 (k % tenTo places)
  Nat.toDigits 10 (k / tenTo places) ++
    '.' :: (List.replicate (places - fraction.length) '0' ++ fraction)

/-- Whether `k / 10 ^ places` reads back as the magnitude of the given rank. -/
def readsAs (rank k places : Nat) : Bool :=
  nearestRank (k * unitsPerOne) (tenTo places) == rank

/-- The whole number that is taken of `below` and the one after it, given which
of the two read back. If both do, it is `nearer`. -/
def takenOf? (below nearer : Nat) (readsBelow readsAbove : Bool) : Option Nat :=
  match readsBelow, readsAbove with
  | true, true => some nearer
  | true, false => some below
  | false, true => some (below + 1)
  | false, false => none

/-- The decimal with `places` places that reads back as the given rank and is
nearest to its magnitude, counted in `10 ^ -places`. If any decimal reads back,
so does one of the two that enclose the magnitude. -/
def nearestReading? (rank places : Nat) : Option Nat :=
  let scaled := unitsAt rank * tenTo places
  let below := scaled / unitsPerOne
  takenOf? below (roundDiv scaled unitsPerOne) (readsAs rank below places)
    (readsAs rank (below + 1) places)

/-- The shortest decimal that reads back as the given rank, with its number of
places. Every magnitude has a decimal of 1074 places, since `2 ^ -1074` has one. -/
def shortestDecimal (rank : Nat) : Nat × Nat :=
  ((List.range 1075).findSome? fun places =>
      (nearestReading? rank places).map (·, places)).getD
    (unitsAt rank * tenTo 1074 / unitsPerOne, 1074)

/-- The digits of the magnitude of a rank. -/
def magnitudeDigits (rank : Nat) : List Char :=
  if Binary64.isWholeUnits (unitsAt rank) then Nat.toDigits 10 (unitsAt rank / unitsPerOne)
  else
    let decimal := shortestDecimal rank
    decimalDigits decimal.1 decimal.2

/-- The characters of the number in positional notation. The sign of a zero is
not written. -/
def Binary64.chars : Binary64 → List Char
  | .finite negative rank =>
    if negative && rank.val != 0 then '-' :: magnitudeDigits rank else magnitudeDigits rank
  | .infinite negative => if negative then ['-', 'i', 'n', 'f'] else ['i', 'n', 'f']
  | .nan => ['n', 'a', 'n']

/-- The number in positional notation. -/
def Binary64.text (x : Binary64) : String := String.ofList x.chars

end Reckoner
