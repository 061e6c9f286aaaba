import Reckoner.Number.Power
import Reckoner.Number.Rounding

/-!
# Binary floating-point numbers of 64 bits

The magnitudes of the finite numbers are finitely many whole multiples of
`2 ^ -1074`, in increasing order; `rank` counts them from zero, so that the
order of ranks is the order of magnitudes and the bits below the sign are the
rank itself. `unitsAt rank` is the magnitude of that rank, counted in units of
`2 ^ -1074`.

An operation computes its exact result as a fraction of whole numbers and
rounds it once: `nearestRank num den` is the rank nearest to `num / den` units,
a half going to the even rank. A rank past the largest one stands for infinity.
There is one value that is not a number.
-/

namespace Reckoner

/-- One more than the largest rank of a finite magnitude. -/
abbrev rankBound : Nat := 2047 * twoTo 52

/-- How many units of the finest magnitude make one. -/
def unitsPerOne : Nat := twoTo 1074

/-- A number of the binary interchange format of 64 bits. -/
inductive Binary64 where
  | finite (negative : Bool) (rank : Fin rankBound)
  | infinite (negative : Bool)
  | nan
deriving DecidableEq

/-- The magnitude of a rank, in units: the ranks below `2 ^ 52` are the
subnormal ones, and each following block of `2 ^ 52` ranks is twice as coarse
as the block before it. -/
def unitsAt (rank : Nat) : Nat :=
  if rank < twoTo 52 then rank
  else (twoTo 52 + rank % twoTo 52) * twoTo (rank / twoTo 52 - 1)

/-- The rank whose magnitude is nearest to `num / den` units; a half goes to
the even rank. The block is the one that the floor of the quotient lies in, so
that 53 bits remain of the quotient. -/
def nearestRank (num den : Nat) : Nat :=
  let floor := num / den
  let block := if floor < twoTo 53 then 0 else floor.log2 - 52
  block * twoTo 52 + roundDiv num (den * twoTo block)

namespace Binary64

/-- Zero, with the given sign. -/
def zero (negative : Bool) : Binary64 := .finite negative ⟨0, by decide⟩

instance : Inhabited Binary64 := ⟨zero false⟩

/-- The number of the given sign and rank; infinite past the last rank. -/
def ofRank (negative : Bool) (rank : Nat) : Binary64 :=
  if h : rank < rankBound then .finite negative ⟨rank, h⟩ else .infinite negative

/-- The number nearest to `num / den` units, with the given sign. -/
def ofUnits (negative : Bool) (num den : Nat) : Binary64 :=
  ofRank negative (nearestRank num den)

/-- The number nearest to `num / den`, with the given sign. -/
def ofFraction (negative : Bool) (num den : Nat) : Binary64 :=
  ofUnits negative (num * unitsPerOne) den

/-- The number nearest to a whole number. -/
def ofInt (n : Int) : Binary64 := ofFraction (n < 0) n.natAbs 1

/-! ### Classes -/

/-- Whether the number is neither infinite nor `nan`. -/
def isFinite : Binary64 → Bool
  | .finite _ _ => true
  | _ => false

/-- Whether the number is one of the two zeros. -/
def isZero : Binary64 → Bool
  | .finite _ rank => rank.val == 0
  | _ => false

/-- Whether a magnitude in units is a whole number of ones. -/
def isWholeUnits (units : Nat) : Bool := units % unitsPerOne == 0

/-- Whether the number is finite and whole. -/
def isIntegral : Binary64 → Bool
  | .finite _ rank => isWholeUnits (unitsAt rank)
  | _ => false

/-- The whole number that a finite number is, if it is one. -/
def toInt? : Binary64 → Option Int
  | .finite negative rank =>
    if isWholeUnits (unitsAt rank) then
      let n : Int := (unitsAt rank / unitsPerOne : Nat)
      some (if negative then -n else n)
    else none
  | _ => none

/-- The finite number in units, with its sign; zero for the others. -/
def units : Binary64 → Int
  | .finite negative rank => if negative then -(unitsAt rank : Int) else unitsAt rank
  | _ => 0

/-! ### Arithmetic -/

/-- The number with the other sign. -/
def neg : Binary64 → Binary64
  | .finite negative rank => .finite (!negative) rank
  | .infinite negative => .infinite (!negative)
  | .nan => .nan

/-- The sum, rounded once. An exact sum of zero is negative only when both
numbers are. -/
def add : Binary64 → Binary64 → Binary64
  | .finite s a, .finite t b =>
    let sum := (Binary64.finite s a).units + (Binary64.finite t b).units
    if sum = 0 then zero (s && t) else ofUnits (sum < 0) sum.natAbs 1
  | .infinite s, .infinite t => if s = t then .infinite s else .nan
  | .infinite s, .finite _ _ => .infinite s
  | .finite _ _, .infinite t => .infinite t
  | .nan, _ => .nan
  | _, .nan => .nan

/-- The difference, rounded once: the sum with the other sign of the second. -/
def sub (x y : Binary64) : Binary64 := x.add y.neg

/-- The product, rounded once. -/
def mul : Binary64 → Binary64 → Binary64
  | .finite s a, .finite t b => ofUnits (s != t) (unitsAt a * unitsAt b) unitsPerOne
  | .infinite s, .infinite t => .infinite (s != t)
  | .infinite s, .finite t b => if b.val = 0 then .nan else .infinite (s != t)
  | .finite s a, .infinite t => if a.val = 0 then .nan else .infinite (s != t)
  | .nan, _ => .nan
  | _, .nan => .nan

/-- The quotient, rounded once. -/
def div : Binary64 → Binary64 → Binary64
  | .finite s a, .finite t b =>
    if b.val = 0 then if a.val = 0 then .nan else .infinite (s != t)
    else ofUnits (s != t) (unitsAt a * unitsPerOne) (unitsAt b)
  | .infinite _, .infinite _ => .nan
  | .infinite s, .finite t _ => .infinite (s != t)
  | .finite s _, .infinite t => zero (s != t)
  | .nan, _ => .nan
  | _, .nan => .nan

/-! ### Interchange -/

/-- The 64 bits of the number; `nan` is written as the quiet pattern. -/
def toBits : Binary64 → Nat
  | .finite negative rank => (if negative then twoTo 63 else 0) + rank
  | .infinite negative => (if negative then twoTo 63 else 0) + rankBound
  | .nan => rankBound + twoTo 51

/-- The number with the given 64 bits. -/
def ofBits (bits : Nat) : Binary64 :=
  let negative := twoTo 63 ≤ bits % twoTo 64
  let magnitude := bits % twoTo 63
  if magnitude ≤ rankBound then ofRank negative magnitude else .nan

/-! ### Equations -/

@[simp] theorem neg_neg (x : Binary64) : x.neg.neg = x := by
  cases x <;> simp [neg]

@[simp] theorem isFinite_neg (x : Binary64) : x.neg.isFinite = x.isFinite := by
  cases x <;> rfl

theorem ofRank_of_lt {negative : Bool} {rank : Nat} (h : rank < rankBound) :
    ofRank negative rank = .finite negative ⟨rank, h⟩ := dif_pos h

theorem ofRank_of_le {negative : Bool} {rank : Nat} (h : rankBound ≤ rank) :
    ofRank negative rank = .infinite negative := dif_neg (by omega)

end Binary64

end Reckoner
