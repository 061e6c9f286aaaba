import Reckoner.Proofs.Number.Equality
import Reckoner.Proofs.Number.Notation
import Reckoner.Proofs.Number.Places

/-!
# Whole numbers

Every whole number up to `2 ^ 53` is a magnitude (`exists_unitsAt_eq`), and a rounding does not
move it (`Binary64.toInt?_ofUnits`). So an operation on whole numbers is exact if its result
is such a number: `Binary64.toInt?_add`, `Binary64.toInt?_sub`, `Binary64.toInt?_mul` and, for
a quotient without a remainder, `Binary64.toInt?_div`. A whole number is written as such,
whatever the sign of a zero is (`Binary64.text_of_toInt?`).
-/

namespace Reckoner

/-- Doubled until it has 53 bits, a whole number is as large as the first mark of a block. -/
theorem exists_mul_twoTo {m : Nat} (hpos : 0 < m) (h : m ≤ twoTo 53) :
    ∃ c ≤ 52, twoTo 52 ≤ m * twoTo c ∧ m * twoTo c ≤ twoTo 53 := by
  have hlog : twoTo m.log2 ≤ m := Nat.log2_self_le hpos.ne'
  have hlog' : m < twoTo (m.log2 + 1) := Nat.lt_log2_self
  rcases Nat.lt_or_ge 52 m.log2 with hlarge | hsmall
  · have hpow : twoTo 53 ≤ twoTo m.log2 := Nat.pow_le_pow_right (by decide) hlarge
    refine ⟨0, Nat.zero_le _, ?_, ?_⟩
    · rw [twoTo_zero, Nat.mul_one]
      exact Nat.le_trans (by decide) (Nat.le_trans hpow hlog)
    · rwa [twoTo_zero, Nat.mul_one]
  · refine ⟨52 - m.log2, Nat.sub_le _ _, ?_, ?_⟩
    · have hmul := Nat.mul_le_mul_right (twoTo (52 - m.log2)) hlog
      rwa [← twoTo_add, Nat.add_sub_cancel' hsmall] at hmul
    · have hmul := Nat.mul_le_mul_right (twoTo (52 - m.log2)) hlog'.le
      rwa [← twoTo_add, Nat.add_right_comm, Nat.add_sub_cancel' hsmall] at hmul

/-- Every whole number up to `2 ^ 53` is a magnitude. -/
theorem exists_unitsAt_eq {m : Nat} (h : m ≤ twoTo 53) :
    ∃ rank : Fin rankBound, unitsAt rank = m * unitsPerOne := by
  rcases Nat.eq_zero_or_pos m with rfl | hpos
  · exact ⟨⟨0, by decide⟩, by rw [unitsAt_zero, Nat.zero_mul]⟩
  · obtain ⟨c, hc, hlow, hhigh⟩ := exists_mul_twoTo hpos h
    have hunits : unitsAt ((1074 - c) * twoTo 52 + m * twoTo c) = m * unitsPerOne := by
      rw [unitsAt_block hhigh (.inr hlow), Nat.mul_assoc, ← twoTo_add,
        Nat.add_sub_cancel' (by omega), unitsPerOne]
    refine ⟨⟨_, ?_⟩, hunits⟩
    have hsucc : twoTo 53 = twoTo 52 * 2 := twoTo_succ 52
    have hblock : (1074 - c) * twoTo 52 ≤ 1074 * twoTo 52 := Nat.mul_le_mul_right _ (Nat.sub_le _ _)
    have hbound : rankBound = 2047 * twoTo 52 := rfl
    omega

namespace Binary64

/-- A number is whole if its magnitude is, and its sign counts unless it is zero. -/
theorem toInt?_finite_iff {negative : Bool} {rank : Fin rankBound} {n : Int} :
    (finite negative rank).toInt? = some n ↔
      unitsAt rank = n.natAbs * unitsPerOne ∧ (n ≠ 0 → negative = decide (n < 0)) := by
  rw [toInt?, isWholeUnits]
  constructor
  · intro h
    split at h
    · next hwhole =>
        obtain ⟨m, hm⟩ : unitsPerOne ∣ unitsAt rank :=
          Nat.dvd_of_mod_eq_zero (beq_iff_eq.1 hwhole)
        rw [hm, Nat.mul_div_cancel_left m unitsPerOne_pos] at h
        obtain rfl := Option.some.inj h
        rw [hm, Nat.mul_comm]
        cases negative with
        | false => simp
        | true =>
            simp
            omega
    · cases h
  · rintro ⟨hunits, hsign⟩
    rw [hunits, Nat.mul_mod_left, beq_self_eq_true, if_pos rfl,
      Nat.mul_div_cancel _ unitsPerOne_pos]
    rcases eq_or_ne n 0 with rfl | hn
    · simp
    · simp only [hsign hn, decide_eq_true_eq, Option.some.injEq]
      split <;> omega

/-- A whole number that is rounded is not changed, up to `2 ^ 53`. -/
theorem toInt?_ofUnits {negative : Bool} {num den : Nat} {n : Int} (hden : 0 < den)
    (hn : n.natAbs ≤ twoTo 53) (hnum : num = n.natAbs * unitsPerOne * den)
    (hsign : n ≠ 0 → negative = decide (n < 0)) : (ofUnits negative num den).toInt? = some n := by
  obtain ⟨rank, hrank⟩ := exists_unitsAt_eq hn
  rw [ofUnits, hnum, ← hrank, nearestRank_unitsAt_mul rank.val hden, ofRank_of_lt rank.isLt]
  exact toInt?_finite_iff.2 ⟨hrank, hsign⟩

theorem toInt?_ofFraction {n : Nat} (hn : n ≤ twoTo 53) :
    (ofFraction false n 1).toInt? = some (n : Int) := by
  refine toInt?_ofUnits Nat.one_pos hn ?_ (by simp)
  rw [Int.natAbs_natCast, Nat.mul_one]

/-- What there is to know of a whole number: its magnitude in units, and its sign. -/
theorem exists_of_toInt? {x : Binary64} {n : Int} (h : x.toInt? = some n) :
    ∃ negative rank, x = finite negative rank ∧ unitsAt rank = n.natAbs * unitsPerOne ∧
      (n ≠ 0 → negative = decide (n < 0)) := by
  cases x with
  | finite negative rank => exact ⟨negative, rank, rfl, toInt?_finite_iff.1 h⟩
  | infinite => cases h
  | nan => cases h

theorem isIntegral_of_toInt? {x : Binary64} {n : Int} (h : x.toInt? = some n) :
    x.isIntegral = true := by
  obtain ⟨negative, rank, rfl, hunits, -⟩ := exists_of_toInt? h
  rw [isIntegral, isWholeUnits, hunits, Nat.mul_mod_left, beq_self_eq_true]

theorem units_of_toInt? {x : Binary64} {n : Int} (h : x.toInt? = some n) :
    x.units = n * unitsPerOne := by
  obtain ⟨negative, rank, rfl, hunits, hsign⟩ := exists_of_toInt? h
  rw [units, hunits, Nat.cast_mul]
  rcases eq_or_ne n 0 with rfl | hn
  · rw [Int.natAbs_zero, Nat.cast_zero, Int.zero_mul, neg_zero, ite_self]
  · simp only [hsign hn, decide_eq_true_eq]
    rw [← Int.neg_mul, ← ite_mul]
    congr 1
    split <;> omega

theorem rank_eq_zero_iff_of_toInt? {negative : Bool} {rank : Fin rankBound}
    {n : Int} (h : (finite negative rank).toInt? = some n) : rank.val = 0 ↔ n = 0 := by
  rw [← unitsAt_strictMono.injective.eq_iff, unitsAt_zero, (toInt?_finite_iff.1 h).1,
    Nat.mul_eq_zero, or_iff_left unitsPerOne_pos.ne', Int.natAbs_eq_zero]

theorem isFinite_of_toInt? {x : Binary64} {n : Int} (h : x.toInt? = some n) :
    x.isFinite = true := by
  obtain ⟨negative, rank, rfl, -⟩ := exists_of_toInt? h
  rfl

theorem value_of_toInt? {x : Binary64} {n : Int} (h : x.toInt? = some n) : x.value = n := by
  rw [value, units_of_toInt? h, Int.cast_mul, Int.cast_natCast,
    mul_div_cancel_right₀ _ unitsPerOne_cast_pos.ne']

/-- A whole number is written with the digits of its magnitude, and a minus if it is
negative. -/
theorem text_of_toInt? {x : Binary64} {n : Int} (h : x.toInt? = some n) : x.text = toString n := by
  obtain ⟨negative, rank, rfl, hunits, hsign⟩ := exists_of_toInt? h
  have hdigits : magnitudeDigits rank = Nat.toDigits 10 n.natAbs := by
    rw [magnitudeDigits_of_whole (isIntegral_of_toInt? h), hunits,
      Nat.mul_div_cancel _ unitsPerOne_pos]
  have hzero := rank_eq_zero_iff_of_toInt? h
  rw [← String.toList_inj, text, String.toList_ofList, chars, hdigits, Int.toString_eq_repr]
  cases n with
  | ofNat m =>
      have hplain : (negative && rank.val != 0) = false := by
        by_cases hm : rank.val = 0
        · rw [hm, bne_self_eq_false, Bool.and_false]
        · have hnonneg : ¬ Int.ofNat m < 0 := Int.not_lt.2 (Int.natCast_nonneg m)
          rw [hsign (mt hzero.2 hm), decide_eq_false hnonneg, Bool.false_and]
      rw [hplain]
      exact Nat.toList_repr.symm
  | negSucc m =>
      have hne : Int.negSucc m ≠ 0 := Int.negSucc_ne_zero m
      have hminus : (negative && rank.val != 0) = true := by
        rw [hsign hne, decide_eq_true (Int.negSucc_lt_zero m), Bool.true_and, bne_iff_ne]
        exact mt hzero.1 hne
      rw [hminus, Int.repr, String.toList_append, Nat.toList_repr]
      rfl

/-! ### Exact operations -/

variable {x y : Binary64} {m n : Int}

/-- A sum of whole numbers is exact. -/
theorem toInt?_add (hx : x.toInt? = some m) (hy : y.toInt? = some n)
    (hbound : (m + n).natAbs ≤ twoTo 53) : (x.add y).toInt? = some (m + n) := by
  obtain ⟨s, a, rfl, -⟩ := exists_of_toInt? hx
  obtain ⟨t, b, rfl, -⟩ := exists_of_toInt? hy
  have hpos : (0 : Int) < unitsPerOne := Int.natCast_pos.2 unitsPerOne_pos
  have hsum : (finite s a).units + (finite t b).units = (m + n) * unitsPerOne := by
    rw [units_of_toInt? hx, units_of_toInt? hy, Int.add_mul]
  simp only [add, hsum]
  split
  · next hzero =>
      have hmn : m + n = 0 := (Int.mul_eq_zero.1 hzero).resolve_right hpos.ne'
      rw [hmn, ← ofUnits_zero (s && t) 1]
      refine toInt?_ofUnits Nat.one_pos (Nat.zero_le _) ?_ fun hne => absurd rfl hne
      rw [Int.natAbs_zero, Nat.zero_mul, Nat.zero_mul]
  · refine toInt?_ofUnits Nat.one_pos hbound ?_ fun _ => ?_
    · rw [Int.natAbs_mul, Int.natAbs_natCast, Nat.mul_one]
    · rw [decide_eq_decide, mul_neg_iff]
      omega

theorem toInt?_neg (hx : x.toInt? = some n) : x.neg.toInt? = some (-n) := by
  obtain ⟨s, a, rfl, hunits, hsign⟩ := exists_of_toInt? hx
  refine toInt?_finite_iff.2 ⟨by rwa [Int.natAbs_neg], fun hne => ?_⟩
  have hn : n ≠ 0 := by simpa using hne
  rw [hsign hn, ← decide_not, decide_eq_decide]
  omega

/-- A difference of whole numbers is exact. -/
theorem toInt?_sub (hx : x.toInt? = some m) (hy : y.toInt? = some n)
    (hbound : (m - n).natAbs ≤ twoTo 53) : (x.sub y).toInt? = some (m - n) :=
  toInt?_add hx (toInt?_neg hy) hbound

/-- The sign of a product, which is not zero. -/
theorem decide_bne_decide (h : m * n ≠ 0) :
    (decide (m < 0) != decide (n < 0)) = decide (m * n < 0) := by
  have hm := left_ne_zero_of_mul h
  have hn := right_ne_zero_of_mul h
  rw [Bool.eq_iff_iff, bne_iff_ne, Ne, decide_eq_decide, decide_eq_true_eq, mul_neg_iff]
  omega

/-- A product of whole numbers is exact. -/
theorem toInt?_mul (hx : x.toInt? = some m) (hy : y.toInt? = some n)
    (hbound : (m * n).natAbs ≤ twoTo 53) : (x.mul y).toInt? = some (m * n) := by
  obtain ⟨s, a, rfl, hxunits, hxsign⟩ := exists_of_toInt? hx
  obtain ⟨t, b, rfl, hyunits, hysign⟩ := exists_of_toInt? hy
  rw [mul]
  refine toInt?_ofUnits unitsPerOne_pos hbound ?_ fun hne => ?_
  · rw [hxunits, hyunits, Int.natAbs_mul, Nat.mul_mul_mul_comm, ← Nat.mul_assoc]
  · rw [hxsign (left_ne_zero_of_mul hne), hysign (right_ne_zero_of_mul hne),
      decide_bne_decide hne]

theorem isZero_of_toInt? (h : x.toInt? = some n) : x.isZero = true ↔ n = 0 := by
  obtain ⟨negative, rank, rfl, -⟩ := exists_of_toInt? h
  rw [isZero, beq_iff_eq, rank_eq_zero_iff_of_toInt? h]

/-- A quotient of whole numbers is exact if there is no remainder. -/
theorem toInt?_div (hx : x.toInt? = some (m * n)) (hy : y.toInt? = some n) (hn : n ≠ 0)
    (hbound : m.natAbs ≤ twoTo 53) : (x.div y).toInt? = some m := by
  obtain ⟨s, a, rfl, hxunits, hxsign⟩ := exists_of_toInt? hx
  obtain ⟨t, b, rfl, hyunits, hysign⟩ := exists_of_toInt? hy
  have hb : unitsAt b ≠ 0 := by
    rw [hyunits]
    exact Nat.mul_ne_zero (Int.natAbs_ne_zero.2 hn) unitsPerOne_pos.ne'
  rw [div, if_neg (mt (rank_eq_zero_iff_of_toInt? hy).1 hn)]
  refine toInt?_ofUnits (Nat.pos_of_ne_zero hb) hbound ?_ fun hm => ?_
  · rw [hxunits, hyunits, Int.natAbs_mul, Nat.mul_mul_mul_comm, ← Nat.mul_assoc]
  · have hmn : m * n ≠ 0 := mul_ne_zero hm hn
    rw [hxsign hmn, hysign hn, ← decide_bne_decide hmn]
    simp

end Binary64

end Reckoner
