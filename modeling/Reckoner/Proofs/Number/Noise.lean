import Reckoner.Proofs.Number.Places
import Reckoner.Proofs.Number.Positional

/-!
# Noise in the last bits

A decimal of at most fifteen digits can be told from its nearest number: no other decimal with as
many places is read as that number (`eq_of_readsAs`), so the shortest one is the decimal itself.
A number within half of the last place of such a decimal is rounded to it, and what is written is
the decimal: `text_of_noise`.
-/

namespace Reckoner

/-- Two decimals that are read as the same number are the same, if one of them has at most fifteen
digits. -/
theorem eq_of_readsAs {rank j k places : Nat} (hplaces : places ≤ 15) (hk : k < 10 ^ 15)
    (hreadsJ : readsAs rank j places = true) (hreadsK : readsAs rank k places = true) : j = k := by
  have hpos := tenTo_pos places
  obtain ⟨b, hb, hbelow⟩ := unitsAt_nearestRank (j * unitsPerOne) hpos
  obtain ⟨c, hc, hbelow'⟩ := unitsAt_nearestRank (k * unitsPerOne) hpos
  rw [readsAs_iff.1 hreadsJ] at hb
  rw [readsAs_iff.1 hreadsK] at hc
  -- Both lie within half a step of the magnitude, where the steps are those of their blocks.
  have hdist := two_mul_dist_roundDiv_le (j * unitsPerOne) (Nat.mul_pos hpos (twoTo_pos b))
  have hdist' := two_mul_dist_roundDiv_le (k * unitsPerOne) (Nat.mul_pos hpos (twoTo_pos c))
  rw [← mul_twoTo_mul, ← hb] at hdist
  rw [← mul_twoTo_mul, ← hc] at hdist'
  have hden : tenTo places ≤ tenTo 15 := Nat.pow_le_pow_right (by decide) hplaces
  have hone : tenTo 15 < unitsPerOne := by decide +kernel
  have hblock : twoTo 52 = 4503599627370496 := by decide
  have hzero (e : Nat) (he : e = 0) : tenTo places * twoTo e = tenTo places := by
    rw [he, twoTo_zero, Nat.mul_one]
  have hlt : k * unitsPerOne < 10 ^ 15 * unitsPerOne :=
    Nat.mul_lt_mul_of_pos_right hk unitsPerOne_pos
  by_contra hne
  have hstep := mul_add_le_of_ne hne unitsPerOne
  have hsmall := hbelow.imp_left (hzero b)
  have hsmall' := hbelow'.imp_left (hzero c)
  rw [hblock] at hsmall hsmall'
  unfold Nat.dist at hdist hdist'
  omega

variable {places k : Nat} {rank : Nat}

/-- The numeral of the number nearest to a decimal of at most fifteen digits is the decimal. -/
theorem magnitude_positional (negative : Bool) (hplaces : places ≤ 15) (hk : k < 10 ^ 15)
    (hreads : readsAs rank k places = true) :
    (Binary64.positional negative rank).magnitude = (k : ℚ) / 10 ^ places := by
  obtain ⟨zeros, rfl⟩ := Nat.exists_eq_add_of_le (writtenDecimal_le hreads)
  have hwritten := readsAs_writtenDecimal rank
  rw [← readsAs_mul_tenTo _ _ _ zeros] at hwritten
  rw [Binary64.positional, Positional.magnitude_ofDecimal,
    ← eq_of_readsAs hplaces hk hwritten hreads, Nat.cast_mul, tenTo_cast, pow_add,
    mul_div_mul_right _ _ (by positivity)]

theorem ne_zero_of_readsAs (hplaces : places ≤ 15) (hk : k < 10 ^ 15)
    (hreads : readsAs rank k places = true) (hne : k ≠ 0) : rank ≠ 0 := by
  rintro rfl
  refine hne (eq_of_readsAs hplaces hk ?_ hreads).symm
  rw [readsAs_iff, Nat.zero_mul, nearestRank_zero_left]

theorem step_eq (places : Nat) : (10 : ℚ) ^ (-(places : Int)) = 1 / 10 ^ places := by
  rw [zpow_neg, zpow_natCast, one_div]

/-- A number near a decimal is rounded to the number as which the decimal is read. -/
theorem readsAs_of_noise {negative : Bool} {rank : Fin rankBound} {rank' : Nat} {k : Int}
    (hplaces : places ≤ 323) (hrounds : RoundsTo places rank rank')
    (h : |(Binary64.finite negative rank).value - (k : ℚ) / 10 ^ places| < 1 / 10 ^ places / 2) :
    readsAs rank' k.natAbs places = true := by
  have hten : (0 : ℚ) < 10 ^ places := by positivity
  have hstep : (0 : ℚ) < 1 / 10 ^ places := one_div_pos.2 hten
  obtain ⟨j, hj, hrank⟩ := hrounds.exists_nearest (by omega) (by omega)
  rw [step_eq] at hj hrank
  have hmultiple : (k.natAbs : ℚ) * (1 / 10 ^ places) = |(k : ℚ) / 10 ^ places| := by
    rw [mul_one_div, Nat.cast_natAbs, Int.cast_abs, abs_div, abs_of_pos hten]
  have hnear : |magnitude rank - k.natAbs * (1 / 10 ^ places)| < 1 / 10 ^ places / 2 := by
    rw [hmultiple, ← Binary64.abs_value_finite negative]
    exact (abs_abs_sub_abs_le _ _).trans_lt h
  obtain rfl := hj.unique (strictMono_multiples hstep) (nearest_multiple_of_lt hstep hnear)
  rw [mul_one_div] at hrank
  exact readsAs_iff_nearest.2 hrank

/-- A number near a decimal other than zero has its sign. -/
theorem sign_of_noise {negative : Bool} {rank : Fin rankBound} {k : Int} (hk : k ≠ 0)
    (h : |(Binary64.finite negative rank).value - (k : ℚ) / 10 ^ places| < 1 / 10 ^ places / 2) :
    negative = decide (k < 0) := by
  have hmagnitude := magnitude_nonneg rank
  have hstep : (0 : ℚ) < 1 / 10 ^ places := by positivity
  rw [div_eq_mul_one_div (k : ℚ)] at h
  obtain ⟨hlow, hhigh⟩ := abs_lt.1 h
  rw [Binary64.value_finite] at hlow hhigh
  rcases Int.lt_or_gt_of_ne hk with hneg | hpos
  · have hmul : (k : ℚ) * (1 / 10 ^ places) ≤ -1 * (1 / 10 ^ places) :=
      mul_le_mul_of_nonneg_right (by exact_mod_cast Int.le_sub_one_of_lt hneg) hstep.le
    cases negative with
    | true => simp [hneg]
    | false =>
        simp only [Bool.false_eq_true, if_false] at hlow hhigh
        linarith
  · have hmul : 1 * (1 / 10 ^ places) ≤ (k : ℚ) * (1 / 10 ^ places) :=
      mul_le_mul_of_nonneg_right (by exact_mod_cast hpos) hstep.le
    cases negative with
    | false => simp [Int.le_of_lt hpos]
    | true =>
        simp only [if_true] at hlow hhigh
        linarith

theorem intCast_div_eq (k : Int) (places : Nat) :
    (k : ℚ) / 10 ^ places =
      if decide (k < 0) then -((k.natAbs : ℚ) / 10 ^ places) else (k.natAbs : ℚ) / 10 ^ places := by
  rw [Nat.cast_natAbs, Int.cast_abs]
  split
  · next h => rw [abs_of_neg (Int.cast_lt_zero.2 (of_decide_eq_true h)), neg_div, neg_neg]
  · next h => rw [abs_of_nonneg (Int.cast_nonneg (Int.not_lt.1 fun hlt => h (decide_eq_true hlt)))]

theorem value_positional {negative : Bool} {k : Int} (hplaces : places ≤ 15)
    (hk : k.natAbs < 10 ^ 15) (hreads : readsAs rank k.natAbs places = true)
    (hsign : k ≠ 0 → negative = decide (k < 0)) :
    (Binary64.positional negative rank).value = (k : ℚ) / 10 ^ places := by
  rw [Positional.value, magnitude_positional negative hplaces hk hreads]
  by_cases hzero : k = 0
  · simp [hzero]
  · have hne := ne_zero_of_readsAs hplaces hk hreads (Int.natAbs_ne_zero.2 hzero)
    have hnegative : (Binary64.positional negative rank).negative = decide (k < 0) := by
      rw [← hsign hzero]
      exact (congrArg (negative && ·) (bne_iff_ne.2 hne)).trans (Bool.and_true negative)
    rw [hnegative, intCast_div_eq]

namespace Binary64

theorem Equals.value_eq {x y : Binary64} (h : x.Equals y) : x.value = y.value := by
  rcases h with rfl | ⟨hx, hy⟩
  · rfl
  · obtain ⟨s, rfl⟩ := exists_eq_zero hx
    obtain ⟨t, rfl⟩ := exists_eq_zero hy
    rw [zero, zero, value_finite, value_finite, magnitude_zero, neg_zero, ite_self, ite_self]

/-- The number nearest to a decimal is the one as which the decimal is read. -/
theorem ofFraction_of_readsAs {rank : Fin rankBound} {k : Nat}
    (hreads : readsAs rank k places = true) (negative : Bool) :
    ofFraction negative k (tenTo places) = finite negative rank := by
  rw [ofFraction, ofUnits, readsAs_iff.1 hreads, ofRank_of_lt rank.isLt]

theorem equals_ofFraction {negative : Bool} {rank : Fin rankBound} {k : Int}
    (hreads : readsAs rank k.natAbs places = true) (hsign : k ≠ 0 → negative = decide (k < 0)) :
    (finite negative rank).Equals (ofFraction (decide (k < 0)) k.natAbs (tenTo places)) := by
  rw [ofFraction_of_readsAs hreads]
  by_cases hzero : k = 0
  · rw [readsAs_iff, hzero, Int.natAbs_zero, Nat.zero_mul, nearestRank_zero_left] at hreads
    obtain rfl : rank = ⟨0, by decide⟩ := Fin.ext hreads.symm
    exact zero_equals_zero _ _
  · rw [hsign hzero]
    exact .refl _

end Binary64

/-- A number within half of the last place of a decimal of at most fifteen digits is rounded to
the number nearest to the decimal, and what is written of that is the decimal: the only canonical
numeral with its value. -/
theorem text_of_noise {places : Nat} {k : Int} {x : Binary64} (hplaces : places ≤ 15)
    (hk : k.natAbs < 10 ^ 15) (hx : x.isFinite = true)
    (hnoise : |x.value - (k : ℚ) / 10 ^ places| < 1 / 10 ^ places / 2) :
    ∃ y, cleanResult x places = .ok y ∧
      y.Equals (.ofFraction (decide (k < 0)) k.natAbs (tenTo places)) ∧
      (∀ z : Binary64, z.isFinite = true →
        |y.value - (k : ℚ) / 10 ^ places| ≤ |z.value - (k : ℚ) / 10 ^ places|) ∧
      ∃ n : Positional, y.text = n.text ∧
        ∀ m : Positional, m.value = (k : ℚ) / 10 ^ places ↔ m = n := by
  cases x with
  | infinite => cases hx
  | nan => cases hx
  | finite negative rank =>
      obtain ⟨rank', hrounds, hclean⟩ := exists_cleanResult_finite places rank
      have hreads := readsAs_of_noise (by omega) hrounds hnoise
      have hsign (hzero : k ≠ 0) : negative = decide (k < 0) := sign_of_noise hzero hnoise
      have hequals := Binary64.equals_ofFraction hreads hsign
      have hvalue := value_positional hplaces hk hreads hsign
      refine ⟨_, hclean negative, hequals, fun z hz => ?_, Binary64.positional negative rank',
        Binary64.text_finite negative rank', fun m => ⟨fun h => ?_, fun h => ?_⟩⟩
      · rw [hequals.value_eq, Binary64.ofFraction_of_readsAs hreads, intCast_div_eq]
        exact Binary64.abs_value_sub_le (by positivity) (readsAs_iff_nearest.1 hreads) _ hz
      · exact Positional.eq_of_value_eq (h.trans hvalue.symm)
      · rw [h, hvalue]

/-- The sum of 0.1 and 0.2, which is not the number nearest to 0.3. -/
theorem text_of_noise_sum :
    let x := (Binary64.ofFraction false 1 10).add (Binary64.ofFraction false 2 10)
    (12 ≤ 15 ∧ (300000000000 : Int).natAbs < 10 ^ 15 ∧ x.isFinite = true ∧
      |x.value - ((300000000000 : Int) : ℚ) / 10 ^ 12| < 1 / 10 ^ 12 / 2) ∧
    ∃ y, cleanResult x (12 : Nat) = .ok y ∧
      y.Equals (.ofFraction (decide ((300000000000 : Int) < 0)) (300000000000 : Int).natAbs
        (tenTo 12)) ∧
      (∀ z : Binary64, z.isFinite = true →
        |y.value - ((300000000000 : Int) : ℚ) / 10 ^ 12| ≤
          |z.value - ((300000000000 : Int) : ℚ) / 10 ^ 12|) ∧
      ∃ n : Positional, y.text = n.text ∧
        ∀ m : Positional, m.value = ((300000000000 : Int) : ℚ) / 10 ^ 12 ↔ m = n := by
  intro x
  have hfinite : x.isFinite = true := by decide +kernel
  have hnoise : |x.value - ((300000000000 : Int) : ℚ) / 10 ^ 12| < 1 / 10 ^ 12 / 2 := by
    decide +kernel
  exact ⟨⟨by decide, by decide, hfinite, hnoise⟩,
    text_of_noise (by decide) (by decide) hfinite hnoise⟩

end Reckoner
