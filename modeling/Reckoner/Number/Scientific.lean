import Reckoner.Number.Positional

/-!
# Shortest notation

`Binary64.shortText x` writes a number with the fewest digits that read back as
it. Very large and very small numbers have a power of ten after their digits;
all others are positional, and have a point even if they are whole.
-/

namespace Reckoner

/-- The multiple of `10 ^ zeros` that reads back as the given whole rank and is
nearest to its magnitude, counted in `10 ^ zeros`. -/
def nearestMultiple? (rank zeros : Nat) : Option Nat :=
  let whole := unitsAt rank / unitsPerOne
  let below := whole / tenTo zeros
  let reads (k : Nat) : Bool := readsAs rank (k * tenTo zeros) 0
  takenOf? below (roundDiv whole (tenTo zeros)) (reads below) (reads (below + 1))

/-- The shortest digits of a whole magnitude, with the number of zeros after
them. A magnitude below `2 ^ 1024` has at most 309 digits. -/
def shortestMultiple (rank : Nat) : Nat × Nat :=
  ((List.range 310).reverse.findSome? fun zeros =>
      (nearestMultiple? rank zeros).bind fun k => if k = 0 then none else some (k, zeros)).getD
    (unitsAt rank / unitsPerOne, 0)

/-- The digits of a magnitude, and the power of ten of the first of them. -/
def leadingDigits (rank : Nat) : List Char × Int :=
  if Binary64.isWholeUnits (unitsAt rank) then
    let (k, zeros) := shortestMultiple rank
    let digits := Nat.toDigits 10 k
    (digits, (digits.length : Int) - 1 + zeros)
  else
    let (k, places) := shortestDecimal rank
    let digits := Nat.toDigits 10 k
    (digits, (digits.length : Int) - 1 - places)

/-- The least power of ten that is written, for large numbers. -/
def firstLargePower : Int := 16

/-- The greatest power of ten that is written, for small numbers. -/
def firstSmallPower : Int := -5

/-- Digits with a point after the first one, and a power of ten of at least two
digits. -/
def powerNotation (digits : List Char) (power : Int) : List Char :=
  let exponent := Nat.toDigits 10 power.natAbs
  digits.take 1 ++ (if digits.length ≤ 1 then [] else '.' :: digits.drop 1) ++
    'e' :: (if power < 0 then '-' else '+') ::
      (List.replicate (2 - exponent.length) '0' ++ exponent)

/-- The shortest notation of a magnitude. -/
def shortDigits (rank : Nat) : List Char :=
  let (digits, power) := leadingDigits rank
  if rank = 0 then ['0', '.', '0']
  else if firstLargePower ≤ power ∨ power ≤ firstSmallPower then powerNotation digits power
  else if Binary64.isWholeUnits (unitsAt rank) then magnitudeDigits rank ++ ['.', '0']
  else magnitudeDigits rank

/-- The number in the shortest notation that reads back. -/
def Binary64.shortText : Binary64 → String
  | .finite negative rank =>
    String.ofList (if negative then '-' :: shortDigits rank else shortDigits rank)
  | .infinite negative => if negative then "-Infinity" else "Infinity"
  | .nan => "NaN"

end Reckoner
