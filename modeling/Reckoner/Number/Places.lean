import Reckoner.Number.Binary64

/-!
# Rounding to decimal places

`Binary64.toPlaces x p` is the number nearest to the multiple of `10 ^ -p` that
is nearest to the exact value of `x`; a half goes to the even multiple, and the
sign is kept even by a result of zero. Every number is a multiple of
`10 ^ -p` to within its own precision once `p` exceeds `mostPlaces`, and is
returned as it is; no number reaches half of `10 ^ -p` once `p` is below
`fewestPlaces`.
-/

namespace Reckoner

/-- Beyond this many places rounding returns the number itself. -/
def mostPlaces : Int := 323

/-- Below this many places rounding returns zero. -/
def fewestPlaces : Int := -308

/-- The multiple of `10 ^ -places` nearest to `units`, counted in `10 ^ -places`. -/
def nearestMultiple (units : Nat) (places : Int) : Nat :=
  roundDiv (units * tenTo places.toNat) (unitsPerOne * tenTo (-places).toNat)

namespace Binary64

/-- The number nearest to `k * 10 ^ -places`. -/
def ofMultiple (negative : Bool) (k : Nat) (places : Int) : Binary64 :=
  ofFraction negative (k * tenTo (-places).toNat) (tenTo places.toNat)

/-- The number rounded to `places` decimal places. -/
def toPlaces (x : Binary64) (places : Int) : Binary64 :=
  match x with
  | .finite negative rank =>
    if mostPlaces < places then x
    else if places < fewestPlaces then zero negative
    else ofMultiple negative (nearestMultiple (unitsAt rank) places) places
  | x => x

end Binary64

end Reckoner
