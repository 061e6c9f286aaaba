import Mathlib.Algebra.Order.Field.Power
import Reckoner.Proofs.Number.Equality
import Reckoner.Proofs.Number.Rounded
import Reckoner.Proofs.Number.Scale

/-!
# Decimal places

A result keeps its sign when it is rounded for display, and `RoundsTo places` says what becomes
of the rank of its magnitude: a whole number stays, any other one goes to the magnitude nearest
to the nearest multiple of `10 ^ -places`. `cleanResult_finite_iff` is the equation of the two.

Rounding again changes nothing (`cleanResult_idempotent`). With places behind the point the whole
numbers are multiples too, so that the exception for them makes no difference, and rounding is
two nearest marks in a row: it keeps the order of the numbers (`cleanResult_monotone`).
-/

namespace Reckoner

/-- The rank to which a rank is rounded. With more than 323 places nothing is rounded away, and
with fewer than -308 nothing is left. -/
inductive RoundsTo (places : Int) (rank : Nat) : Nat → Prop where
  | whole (h : Binary64.isWholeUnits (unitsAt rank) = true) : RoundsTo places rank rank
  | fine (hfraction : Binary64.isWholeUnits (unitsAt rank) = false) (h : 323 < places) :
    RoundsTo places rank rank
  | coarse (hfraction : Binary64.isWholeUnits (unitsAt rank) = false) (h : places < -308) :
    RoundsTo places rank 0
  | nearest {k rank' : Nat} (hfraction : Binary64.isWholeUnits (unitsAt rank) = false)
    (hfewest : -308 ≤ places) (hmost : places ≤ 323)
    (hk : Nearest (fun k => k * 10 ^ (-places)) (magnitude rank) k)
    (hrank : Nearest magnitude (k * 10 ^ (-places)) rank') : RoundsTo places rank rank'

/-! ### The nearest multiple -/

/-- A power of ten is written as a quotient of which one side is one. -/
theorem tenTo_div_tenTo (places : Int) :
    (tenTo places.toNat / tenTo (-places).toNat : ℚ) = 10 ^ places := by
  rw [tenTo_cast, tenTo_cast, ← zpow_natCast, ← zpow_natCast, ← zpow_sub₀ (by norm_num),
    Int.toNat_sub_toNat_neg]

theorem mul_tenTo_div (k : Nat) (places : Int) :
    ((k * tenTo (-places).toNat : Nat) / tenTo places.toNat : ℚ) = k * 10 ^ (-places) := by
  rw [Nat.cast_mul, mul_div_assoc, ← tenTo_div_tenTo (-places), neg_neg]

theorem step_pos (places : Int) : (0 : ℚ) < 10 ^ (-places) := zpow_pos (by norm_num) _

theorem nearest_nearestMultiple (rank : Nat) (places : Int) :
    Nearest (fun k => k * 10 ^ (-places)) (magnitude rank)
      (nearestMultiple (unitsAt rank) places) := by
  have hnearest := nearest_roundDiv (unitsAt rank * tenTo places.toNat)
    (Nat.mul_pos unitsPerOne_pos (tenTo_pos (-places).toNat)) (step_pos places)
  have hquotient : ((unitsAt rank * tenTo places.toNat : Nat) /
      (unitsPerOne * tenTo (-places).toNat : Nat) * 10 ^ (-places) : ℚ) = magnitude rank := by
    rw [Nat.cast_mul, Nat.cast_mul, mul_div_mul_comm, tenTo_div_tenTo, mul_assoc,
      ← zpow_add₀ (by norm_num), add_neg_cancel, zpow_zero, mul_one, magnitude]
  rw [hquotient] at hnearest
  exact hnearest

theorem nearest_placesRank (rank : Nat) (places : Int) :
    Nearest magnitude (nearestMultiple (unitsAt rank) places * 10 ^ (-places))
      (Binary64.placesRank rank places) := by
  rw [← mul_tenTo_div]
  exact nearest_nearestRank _ (tenTo_pos _)

/-! ### The rounded result -/

theorem isFinite_finite (negative : Bool) (rank : Fin rankBound) :
    (Binary64.finite negative rank).isFinite = true := rfl

theorem isIntegral_finite (negative : Bool) (rank : Fin rankBound) :
    (Binary64.finite negative rank).isIntegral = Binary64.isWholeUnits (unitsAt rank) := rfl

/-- Rounding keeps the sign and stays among the finite numbers. -/
theorem exists_cleanResult_finite (precision : Int) (rank : Fin rankBound) :
    ∃ rank' : Fin rankBound, RoundsTo precision rank rank' ∧
      ∀ negative, cleanResult (.finite negative rank) precision = .ok (.finite negative rank') := by
  cases hwhole : Binary64.isWholeUnits (unitsAt rank) with
  | true =>
      refine ⟨rank, .whole hwhole, fun negative => ?_⟩
      rw [cleanResult, isFinite_finite, isIntegral_finite, hwhole]
      rfl
  | false =>
      have hclean (negative : Bool) : cleanResult (.finite negative rank) precision =
          .ok ((Binary64.finite negative rank).toPlaces precision) := by
        rw [cleanResult, isFinite_finite, isIntegral_finite, hwhole]
        rfl
      simp only [hclean, Binary64.toPlaces]
      by_cases hmost : mostPlaces < precision
      · refine ⟨rank, .fine hwhole hmost, fun negative => ?_⟩
        rw [if_pos hmost]
      · by_cases hfewest : precision < fewestPlaces
        · refine ⟨⟨0, by decide⟩, .coarse hwhole hfewest, fun negative => ?_⟩
          rw [if_neg hmost, if_pos hfewest, Binary64.zero]
        · have hbound := Nat.lt_of_le_of_lt (Binary64.placesRank_le rank precision)
            (lt_of_not_isWholeUnits hwhole)
          refine ⟨⟨_, hbound⟩, .nearest hwhole (Int.not_lt.1 hfewest) (Int.not_lt.1 hmost)
            (nearest_nearestMultiple rank precision) (nearest_placesRank rank precision),
            fun negative => ?_⟩
          rw [if_neg hmost, if_neg hfewest, Binary64.ofMultiple_nearestMultiple,
            Binary64.ofRank_of_lt hbound]

/-- A finite number is rounded to a finite number, by two nearest marks in a row, and rounding
that number again leaves it as it is. -/
theorem cleanResult_idempotent (negative : Bool) (rank : Fin rankBound) (precision : Int) :
    ∃ rank' : Fin rankBound,
      cleanResult (.finite negative rank) precision = .ok (.finite negative rank') ∧
      RoundsTo precision rank rank' ∧
      cleanResult (.finite negative rank') precision = .ok (.finite negative rank') := by
  obtain ⟨rank', hrounds, hclean⟩ := exists_cleanResult_finite precision rank
  exact ⟨rank', hclean negative, hrounds, (cleanResult_of_cleanResult (hclean negative)).2⟩

/-! ### Order -/

/-- With places behind the point a whole number is a multiple of the last place. -/
theorem exists_mul_eq_of_isWholeUnits {rank : Nat} {places : Int} (hplaces : 0 ≤ places)
    (h : Binary64.isWholeUnits (unitsAt rank) = true) :
    ∃ k : Nat, (k * 10 ^ (-places) : ℚ) = magnitude rank := by
  obtain ⟨n, hn⟩ : unitsPerOne ∣ unitsAt rank := Nat.dvd_of_mod_eq_zero (beq_iff_eq.1 h)
  obtain ⟨p, rfl⟩ := Int.eq_ofNat_of_zero_le hplaces
  refine ⟨n * tenTo p, ?_⟩
  rw [magnitude, hn, Nat.cast_mul, Nat.cast_mul, mul_div_cancel_left₀ _ unitsPerOne_cast_pos.ne',
    tenTo_cast, zpow_neg, zpow_natCast, mul_inv_cancel_right₀ (by positivity)]

namespace RoundsTo

variable {places : Int} {r r' s s' : Nat}

/-- With places behind the point the whole numbers are no exception. -/
theorem exists_nearest (h : RoundsTo places r r') (hplaces : 0 ≤ places) (hmost : places ≤ 323) :
    ∃ k : Nat, Nearest (fun k => k * 10 ^ (-places)) (magnitude r) k ∧
      Nearest magnitude (k * 10 ^ (-places)) r' := by
  cases h with
  | whole h =>
      obtain ⟨k, hk⟩ := exists_mul_eq_of_isWholeUnits hplaces h
      refine ⟨k, ?_, ?_⟩
      · rw [← hk]
        exact .refl (strictMono_multiples (step_pos places)) k
      · rw [hk]
        exact .refl magnitude_strictMono r
  | fine _ h => omega
  | coarse _ h => omega
  | nearest _ _ _ hk hrank => exact ⟨_, hk, hrank⟩

theorem eq_of_fine (h : RoundsTo places r r') (hmost : 323 < places) : r' = r := by
  cases h with
  | whole => rfl
  | fine => rfl
  | coarse _ h => omega
  | nearest _ _ h => omega

theorem eq_zero (h : RoundsTo places 0 r') : r' = 0 := by
  have hzero : Binary64.isWholeUnits (unitsAt 0) = true := by
    rw [unitsAt_zero, Binary64.isWholeUnits, Nat.zero_mod, beq_self_eq_true]
  cases h with
  | whole => rfl
  | fine h => cases hzero.symm.trans h
  | coarse => rfl
  | nearest h => cases hzero.symm.trans h

theorem mono (hr : RoundsTo places r r') (hs : RoundsTo places s s') (hplaces : 0 ≤ places)
    (h : r ≤ s) : r' ≤ s' := by
  rcases Int.lt_or_le 323 places with hmost | hmost
  · rwa [hr.eq_of_fine hmost, hs.eq_of_fine hmost]
  · have hscale := strictMono_multiples (step_pos places)
    obtain ⟨j, hj, hr'⟩ := hr.exists_nearest hplaces hmost
    obtain ⟨k, hk, hs'⟩ := hs.exists_nearest hplaces hmost
    have hjk := hj.mono hscale hk (magnitude_strictMono.monotone h)
    exact hr'.mono magnitude_strictMono hs' (hscale.monotone hjk)

end RoundsTo

namespace Binary64

/-- Ranks that are rounded in order are rounded in order with their signs. -/
theorem value_le_value_of_roundsTo {precision : Int} (hprecision : 0 ≤ precision)
    {s t : Bool} {a b a' b' : Fin rankBound} (ha : RoundsTo precision a a')
    (hb : RoundsTo precision b b') (h : (finite s a).value ≤ (finite t b).value) :
    (finite s a').value ≤ (finite t b').value := by
  have hmono {r r' : Nat} (h : r ≤ r') : magnitude r ≤ magnitude r' :=
    magnitude_strictMono.monotone h
  rw [value_finite, value_finite] at h ⊢
  cases s with
  | false =>
      cases t with
      | false => exact hmono (ha.mono hb hprecision (magnitude_strictMono.le_iff_le.1 h))
      | true =>
          -- Only two zeros are in this order, and they stay zeros.
          have hnonneg := magnitude_nonneg a
          have hnonneg' := magnitude_nonneg b
          simp only [Bool.false_eq_true, if_false, if_true] at h ⊢
          have hzero : a.val = 0 := magnitude_eq_zero_iff.1 (by linarith)
          have hzero' : b.val = 0 := magnitude_eq_zero_iff.1 (by linarith)
          rw [hzero] at ha
          rw [hzero'] at hb
          rw [ha.eq_zero, hb.eq_zero, magnitude_zero, neg_zero]
  | true =>
      cases t with
      | false => exact (neg_nonpos.2 (magnitude_nonneg a')).trans (magnitude_nonneg b')
      | true =>
          have hle := magnitude_strictMono.le_iff_le.1 (neg_le_neg_iff.1 h)
          exact neg_le_neg (hmono (hb.mono ha hprecision hle))

end Binary64

theorem cleanResult_of_isIntegral {x : Binary64} (h : x.isIntegral = true) (precision : Int) :
    cleanResult x precision = .ok x := by
  cases x with
  | finite negative rank =>
      rw [cleanResult, h]
      rfl
  | infinite => cases h
  | nan => cases h

/-- Rounding to places behind the point keeps the order of two numbers, and the other sign of a
number gives the other sign of the result. So no number is rounded past a whole one. -/
theorem cleanResult_monotone {precision : Int} (hprecision : 0 ≤ precision) {x y : Binary64}
    (hx : x.isFinite = true) (hy : y.isFinite = true) (h : x.value ≤ y.value) :
    ∃ x' y', cleanResult x precision = .ok x' ∧ cleanResult y precision = .ok y' ∧
      x'.value ≤ y'.value ∧
      cleanResult x.neg precision = .ok x'.neg ∧ cleanResult y.neg precision = .ok y'.neg ∧
      (x.isIntegral = true → x.value ≤ y'.value) ∧
      (y.isIntegral = true → x'.value ≤ y.value) := by
  cases x with
  | infinite => cases hx
  | nan => cases hx
  | finite s a =>
      cases y with
      | infinite => cases hy
      | nan => cases hy
      | finite t b =>
          obtain ⟨a', ha, hcleanA⟩ := exists_cleanResult_finite precision a
          obtain ⟨b', hb, hcleanB⟩ := exists_cleanResult_finite precision b
          have hle := Binary64.value_le_value_of_roundsTo hprecision ha hb h
          refine ⟨_, _, hcleanA s, hcleanB t, hle, hcleanA (!s), hcleanB (!t),
            fun hwhole => ?_, fun hwhole => ?_⟩
          · have := cleanResult_of_isIntegral hwhole precision
            rw [hcleanA] at this
            rwa [Except.ok.inj this] at hle
          · have := cleanResult_of_isIntegral hwhole precision
            rw [hcleanB] at this
            rwa [Except.ok.inj this] at hle

/-- A number just below three is rounded to three, and not past it. -/
theorem cleanResult_monotone_three :
    let x := Binary64.ofFraction false 29999 10000
    let y := Binary64.ofInt 3
    ((0 : Int) ≤ 2 ∧ x.isFinite = true ∧ y.isFinite = true ∧ x.value ≤ y.value) ∧
    ∃ x' y', cleanResult x 2 = .ok x' ∧ cleanResult y 2 = .ok y' ∧ x'.value ≤ y'.value ∧
      cleanResult x.neg 2 = .ok x'.neg ∧ cleanResult y.neg 2 = .ok y'.neg ∧
      (x.isIntegral = true → x.value ≤ y'.value) ∧
      (y.isIntegral = true → x'.value ≤ y.value) := by
  intro x y
  have hx : x.isFinite = true := by decide +kernel
  have hy : y.isFinite = true := by decide +kernel
  have h : x.value ≤ y.value := by decide +kernel
  exact ⟨⟨by decide, hx, hy, h⟩, cleanResult_monotone (by decide) hx hy h⟩

end Reckoner
