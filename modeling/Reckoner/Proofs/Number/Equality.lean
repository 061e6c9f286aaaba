import Reckoner.Expression.Operator
import Reckoner.Proofs.Number.Nearest

/-!
# Equal numbers

Two numbers are equal as numbers if they are the same or both zero: the sign of
a zero has no part in it. Operations on equal numbers give equal numbers
(`Equals.apply`).

The sum with zero is exact, so the difference from zero is the number with the other
sign. A product and a quotient change their sign with their first operand and are
rounded in the same way.
-/

namespace Reckoner.Binary64

/-- Whether two numbers are equal as numbers: the two zeros are. -/
def Equals (x y : Binary64) : Prop := x = y ∨ x.isZero = true ∧ y.isZero = true

instance (x y : Binary64) : Decidable (x.Equals y) := inferInstanceAs (Decidable (_ ∨ _))

theorem Equals.refl (x : Binary64) : x.Equals x := .inl rfl

theorem isIntegral_zero (negative : Bool) : (zero negative).isIntegral = true := by
  have hzero : unitsAt (⟨0, by decide⟩ : Fin rankBound).val = 0 := unitsAt_zero
  rw [zero, isIntegral, hzero, isWholeUnits, Nat.zero_mod, beq_self_eq_true]

theorem Equals.symm {x y : Binary64} (h : x.Equals y) : y.Equals x :=
  h.imp Eq.symm And.symm

theorem Equals.trans {x y z : Binary64} (hxy : x.Equals y) (hyz : y.Equals z) : x.Equals z := by
  rcases hxy with rfl | hxy
  · exact hyz
  · rcases hyz with rfl | hyz
    · exact .inr hxy
    · exact .inr ⟨hxy.1, hyz.2⟩

theorem exists_eq_zero {x : Binary64} (h : x.isZero = true) : ∃ negative, x = zero negative := by
  cases x with
  | finite negative rank =>
      obtain rfl : rank = ⟨0, by decide⟩ := Fin.ext (beq_iff_eq.1 h)
      exact ⟨negative, rfl⟩
  | infinite => cases h
  | nan => cases h

theorem zero_equals_zero (s t : Bool) : (zero s).Equals (zero t) := .inr ⟨rfl, rfl⟩

/-! ### The other sign -/

theorem neg_ofRank (negative : Bool) (rank : Nat) :
    (ofRank negative rank).neg = ofRank (!negative) rank := by
  by_cases h : rank < rankBound
  · rw [ofRank_of_lt h, ofRank_of_lt h, neg]
  · rw [ofRank_of_le (Nat.not_lt.1 h), ofRank_of_le (Nat.not_lt.1 h), neg]

/-- The rounding does not depend on the sign. -/
theorem neg_ofUnits (negative : Bool) (num den : Nat) :
    (ofUnits negative num den).neg = ofUnits (!negative) num den :=
  neg_ofRank negative _

theorem neg_mul (x y : Binary64) : x.neg.mul y = (x.mul y).neg := by
  cases x with
  | finite s a =>
      cases y with
      | finite t b => rw [neg, mul, mul, neg_ofUnits, Bool.not_bne]
      | infinite t =>
          rw [neg, mul, mul, Bool.not_bne]
          split <;> rfl
      | nan => rfl
  | infinite s =>
      cases y with
      | finite t b =>
          rw [neg, mul, mul, Bool.not_bne]
          split <;> rfl
      | infinite t => rw [neg, mul, mul, neg, Bool.not_bne]
      | nan => rfl
  | nan => cases y <;> rfl

theorem neg_div (x y : Binary64) : x.neg.div y = (x.div y).neg := by
  cases x with
  | finite s a =>
      cases y with
      | finite t b =>
          rw [neg, div, div, Bool.not_bne]
          split
          · split <;> rfl
          · rw [neg_ofUnits]
      | infinite t => rw [neg, div, div, Bool.not_bne, zero, zero, neg]
      | nan => rfl
  | infinite s =>
      cases y with
      | finite t b => rw [neg, div, div, Bool.not_bne, neg]
      | infinite t => rfl
      | nan => rfl
  | nan => cases y <;> rfl

/-! ### Zero as an operand -/

theorem ofUnits_zero (negative : Bool) (den : Nat) : ofUnits negative 0 den = zero negative := by
  rw [ofUnits, nearestRank_zero_left, ofRank_of_lt, zero]

/-- The sum with zero is exact. -/
theorem zero_add_finite (s t : Bool) {rank : Fin rankBound} (h : rank.val ≠ 0) :
    (zero s).add (.finite t rank) = .finite t rank := by
  have hpos : 0 < unitsAt rank := by
    have := unitsAt_strictMono (Nat.pos_of_ne_zero h)
    rwa [unitsAt_zero] at this
  have hunits : (finite t rank).units ≠ 0 ∧ decide ((finite t rank).units < 0) = t ∧
      (finite t rank).units.natAbs = unitsAt rank := by
    cases t <;> simp [units] <;> omega
  have hsum : (zero s).units + (finite t rank).units = (finite t rank).units := by
    simp [zero, units]
  rw [zero] at hsum ⊢
  simp only [add, hsum]
  rw [if_neg hunits.1, hunits.2.1, hunits.2.2, ofUnits, nearestRank_unitsAt,
    ofRank_of_lt rank.isLt]

theorem zero_sub_finite {rank : Fin rankBound} (h : rank.val ≠ 0) :
    (zero false).sub (.finite false rank) = .finite true rank :=
  zero_add_finite false true h

theorem zero_add_zero (s t : Bool) : (zero s).add (zero t) = zero (s && t) := by
  have hsum : (zero s).units + (zero t).units = 0 := by simp [zero, units]
  exact if_pos hsum

theorem zero_add_equals (s : Bool) (x : Binary64) : ((zero s).add x).Equals x := by
  cases x with
  | finite t rank =>
      by_cases hrank : rank.val = 0
      · obtain rfl : rank = ⟨0, by decide⟩ := Fin.ext hrank
        rw [← zero, zero_add_zero]
        exact zero_equals_zero _ t
      · rw [zero_add_finite s t hrank]
        exact .refl _
  | infinite => exact .refl _
  | nan => exact .refl _

/-- The difference from zero is the number with the other sign. -/
theorem zero_sub_equals_neg (x : Binary64) : ((zero false).sub x).Equals x.neg :=
  zero_add_equals false x.neg

theorem zero_mul_equals (s t : Bool) (x : Binary64) :
    ((zero s).mul x).Equals ((zero t).mul x) := by
  cases x with
  | finite u rank =>
      rw [zero, zero, mul, mul, unitsAt_zero, Nat.zero_mul, ofUnits_zero, ofUnits_zero]
      exact zero_equals_zero _ _
  | infinite => exact .refl _
  | nan => exact .refl _

theorem zero_div_equals (s t : Bool) (x : Binary64) :
    ((zero s).div x).Equals ((zero t).div x) := by
  cases x with
  | finite u rank =>
      rw [zero, zero, div, div, unitsAt_zero, Nat.zero_mul, ofUnits_zero, ofUnits_zero]
      split
      · exact .refl _
      · exact zero_equals_zero _ _
  | infinite => exact zero_equals_zero _ _
  | nan => exact .refl _

/-- Operations do not tell the two zeros apart, apart from the sign of a zero. -/
theorem Equals.apply {x y : Binary64} (h : x.Equals y) (o : Operator) (z : Binary64) :
    (o.apply x z).Equals (o.apply y z) := by
  rcases h with rfl | ⟨hx, hy⟩
  · exact .refl _
  · obtain ⟨s, rfl⟩ := exists_eq_zero hx
    obtain ⟨t, rfl⟩ := exists_eq_zero hy
    cases o with
    | add => exact (zero_add_equals s z).trans (zero_add_equals t z).symm
    | sub => exact (zero_add_equals s z.neg).trans (zero_add_equals t z.neg).symm
    | mul => exact zero_mul_equals s t z
    | div => exact zero_div_equals s t z

end Reckoner.Binary64
