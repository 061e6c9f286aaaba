import Mathlib.Algebra.Order.Field.Basic
import Mathlib.Algebra.Order.Ring.Rat
import Mathlib.Tactic.FieldSimp
import Mathlib.Tactic.Linarith
import Reckoner.Proofs.Number.Nearest

/-!
# Nearest on a scale

A rounding picks a mark of a scale: a multiple of a decimal place, or the magnitude of a rank.
`Nearest scale q k` says of the exact values that the mark of `k` is nearest to `q`, and that `k`
is even if another mark is as near. On a scale that grows strictly there is at most one such
mark (`Nearest.unique`), a mark is nearest to itself, and a larger value has no smaller nearest
mark (`Nearest.mono`). Both roundings of the library find it: `roundDiv` among the multiples of
a step (`nearest_roundDiv`), and `nearestRank` among the magnitudes (`nearest_nearestRank`).
-/

namespace Reckoner

/-- The mark of `k` is nearest to `q`; of two marks that are as near, the even one is taken. -/
def Nearest (scale : Nat → ℚ) (q : ℚ) (k : Nat) : Prop :=
  ∀ j, j ≠ k → |q - scale k| < |q - scale j| ∨ |q - scale k| = |q - scale j| ∧ k % 2 = 0

namespace Nearest

variable {scale : Nat → ℚ} {p q : ℚ} {j k : Nat}

theorem abs_sub_le (h : Nearest scale q k) (j : Nat) : |q - scale k| ≤ |q - scale j| := by
  by_cases hj : j = k
  · rw [hj]
  · rcases h j hj with hlt | ⟨heq, -⟩
    · exact hlt.le
    · exact heq.le

/-- A value is not beyond the middle between its nearest mark and a higher one. -/
theorem two_mul_le (h : Nearest scale q k) (hjk : scale k < scale j) :
    2 * q ≤ scale k + scale j := by
  by_contra hlt
  have hdist := h.abs_sub_le j
  rw [abs_of_pos (by linarith), le_abs] at hdist
  rcases hdist with hdist | hdist <;> linarith

theorem le_two_mul (h : Nearest scale q k) (hjk : scale j < scale k) :
    scale j + scale k ≤ 2 * q := by
  by_contra hlt
  have hdist := h.abs_sub_le j
  rw [abs_of_neg (by linarith), le_abs] at hdist
  rcases hdist with hdist | hdist <;> linarith

theorem refl (hscale : StrictMono scale) (k : Nat) : Nearest scale (scale k) k := by
  intro j hj
  refine .inl ?_
  rw [sub_self, abs_zero, abs_pos, sub_ne_zero]
  exact fun heq => hj (hscale.injective heq).symm

/-- A larger value has no smaller nearest mark. -/
theorem mono (hscale : StrictMono scale) (hj : Nearest scale p j) (hk : Nearest scale q k)
    (h : p ≤ q) : j ≤ k := by
  by_contra hlt
  have hkj : k < j := Nat.not_le.1 hlt
  -- Both values are the middle between the two marks, so both marks are even.
  have hp := hj.le_two_mul (hscale hkj)
  have hq := hk.two_mul_le (hscale hkj)
  have htie : |q - scale k| = |q - scale j| := by
    rw [abs_of_pos (by linarith [hscale hkj]), abs_of_neg (by linarith [hscale hkj])]
    linarith
  obtain rfl : p = q := by linarith
  have heven : k % 2 = 0 := (hk j hkj.ne').elim (fun hlt => absurd htie hlt.ne) And.right
  have heven' : j % 2 = 0 := (hj k hkj.ne).elim (fun hlt => absurd htie hlt.ne') And.right
  -- Then there is a mark between them, which is nearer.
  have hbetween : k + 1 < j := by omega
  have hnext := hk.two_mul_le (hscale (Nat.lt_succ_self k))
  have := hscale hbetween
  rw [Nat.succ_eq_add_one] at hnext
  linarith

theorem unique (hscale : StrictMono scale) (hj : Nearest scale q j) (hk : Nearest scale q k) :
    j = k :=
  Nat.le_antisymm (hj.mono hscale hk le_rfl) (hk.mono hscale hj le_rfl)

end Nearest

/-! ### Distances of whole numbers -/

theorem abs_natCast_sub (m n : Nat) : |(m : ℚ) - n| = Nat.dist m n := by
  rcases Nat.le_total m n with h | h
  · rw [Nat.dist_eq_sub_of_le h, Nat.cast_sub h, abs_sub_comm, abs_of_nonneg]
    exact sub_nonneg.2 (Nat.cast_le.2 h)
  · rw [Nat.dist_eq_sub_of_le_right h, Nat.cast_sub h, abs_of_nonneg]
    exact sub_nonneg.2 (Nat.cast_le.2 h)

/-- A mark is nearest on a scale if it is when everything is counted in a small enough unit. -/
theorem nearest_of_dist {scale : Nat → ℚ} {q unit : ℚ} {n k : Nat} {f : Nat → Nat}
    (hunit : 0 < unit) (hq : q = n * unit) (hscale : ∀ j, scale j = f j * unit)
    (hle : ∀ j, Nat.dist n (f k) ≤ Nat.dist n (f j))
    (htie : ∀ j, j ≠ k → Nat.dist n (f k) = Nat.dist n (f j) → k % 2 = 0) :
    Nearest scale q k := by
  have hdist (j : Nat) : |q - scale j| = Nat.dist n (f j) * unit := by
    rw [hq, hscale, ← sub_mul, abs_mul, abs_of_pos hunit, abs_natCast_sub]
  intro j hj
  rw [hdist, hdist, mul_lt_mul_iff_left₀ hunit, mul_left_inj' hunit.ne', Nat.cast_lt, Nat.cast_inj]
  rcases Nat.lt_or_eq_of_le (hle j) with hlt | heq
  · exact .inl hlt
  · exact .inr ⟨heq, htie j hj heq⟩

/-! ### Multiples of a step -/

theorem tenTo_cast (n : Nat) : (tenTo n : ℚ) = 10 ^ n := by
  rw [tenTo, Nat.pow_eq, Nat.cast_pow, Nat.cast_ofNat]

theorem strictMono_multiples {step : ℚ} (hstep : 0 < step) :
    StrictMono fun k : Nat => (k : ℚ) * step := by
  intro j k h
  exact mul_lt_mul_of_pos_right (Nat.cast_lt.2 h) hstep

/-- A quotient counts steps, and the rounded quotient is the nearest count. -/
theorem nearest_roundDiv (n : Nat) {d : Nat} (hd : 0 < d) {step : ℚ} (hstep : 0 < step) :
    Nearest (fun k => k * step) (n / d * step) (roundDiv n d) := by
  have hd' : (0 : ℚ) < d := Nat.cast_pos.2 hd
  have hscale (j : Nat) : (j : ℚ) * step = (j * d : Nat) * (step / d) := by
    rw [Nat.cast_mul]
    field_simp
  refine nearest_of_dist (div_pos hstep hd') (by field_simp) hscale (dist_roundDiv_le n hd) ?_
  intro j hj h
  exact even_roundDiv_of_dist_eq hd hj h

/-- Within half a step of a multiple there is no nearer one. -/
theorem nearest_multiple_of_lt {q step : ℚ} {k : Nat} (hstep : 0 < step)
    (h : |q - k * step| < step / 2) : Nearest (fun k => k * step) q k := by
  intro j hj
  refine .inl ?_
  obtain ⟨hlow, hhigh⟩ := abs_lt.1 h
  rcases Nat.lt_or_gt_of_ne hj with hlt | hgt
  · have hmul : ((j : ℚ) + 1) * step ≤ k * step :=
      mul_le_mul_of_nonneg_right (by exact_mod_cast hlt) hstep.le
    refine h.trans_le (le_trans ?_ (le_abs_self _))
    linarith
  · have hmul : ((k : ℚ) + 1) * step ≤ j * step :=
      mul_le_mul_of_nonneg_right (by exact_mod_cast hgt) hstep.le
    refine h.trans_le (le_trans ?_ (neg_le_abs _))
    linarith

/-! ### Magnitudes -/

theorem unitsPerOne_cast_pos : (0 : ℚ) < unitsPerOne := Nat.cast_pos.2 (twoTo_pos 1074)

/-- The exact magnitude of a rank. -/
def magnitude (rank : Nat) : ℚ := unitsAt rank / unitsPerOne

theorem magnitude_strictMono : StrictMono magnitude := by
  intro r s h
  exact div_lt_div_of_pos_right (Nat.cast_lt.2 (unitsAt_strictMono h)) unitsPerOne_cast_pos

@[simp] theorem magnitude_zero : magnitude 0 = 0 := by
  rw [magnitude, unitsAt_zero, Nat.cast_zero, zero_div]

theorem magnitude_nonneg (rank : Nat) : 0 ≤ magnitude rank :=
  div_nonneg (Nat.cast_nonneg _) unitsPerOne_cast_pos.le

theorem magnitude_eq_zero_iff {rank : Nat} : magnitude rank = 0 ↔ rank = 0 := by
  rw [← magnitude_zero]
  exact magnitude_strictMono.injective.eq_iff

theorem nearest_nearestRank_units (num : Nat) {den : Nat} (hden : 0 < den) :
    Nearest magnitude (num / (unitsPerOne * den)) (nearestRank num den) := by
  have hden' : (0 : ℚ) < den := Nat.cast_pos.2 hden
  have hunit : (0 : ℚ) < 1 / (unitsPerOne * den) :=
    one_div_pos.2 (mul_pos unitsPerOne_cast_pos hden')
  have hscale (rank : Nat) :
      magnitude rank = (unitsAt rank * den : Nat) * (1 / (unitsPerOne * den)) := by
    rw [magnitude, Nat.cast_mul, mul_one_div, mul_div_mul_right _ _ hden'.ne']
  refine nearest_of_dist hunit (by rw [mul_one_div]) hscale (dist_nearestRank_le num hden) ?_
  intro rank hrank h
  exact even_nearestRank_of_dist_eq hden hrank h

theorem nearest_nearestRank (num : Nat) {den : Nat} (hden : 0 < den) :
    Nearest magnitude (num / den) (nearestRank (num * unitsPerOne) den) := by
  have hnearest := nearest_nearestRank_units (num * unitsPerOne) hden
  rwa [Nat.cast_mul, mul_comm (num : ℚ), mul_div_mul_left _ _ unitsPerOne_cast_pos.ne'] at hnearest

theorem nearest_magnitude_iff {num den rank : Nat} (hden : 0 < den) :
    Nearest magnitude (num / den) rank ↔ nearestRank (num * unitsPerOne) den = rank := by
  constructor
  · intro h
    exact (nearest_nearestRank num hden).unique magnitude_strictMono h
  · rintro rfl
    exact nearest_nearestRank num hden

theorem nearestRank_mono {m n den : Nat} (hden : 0 < den) (h : m ≤ n) :
    nearestRank m den ≤ nearestRank n den := by
  refine (nearest_nearestRank_units m hden).mono magnitude_strictMono
    (nearest_nearestRank_units n hden) ?_
  exact div_le_div_of_nonneg_right (Nat.cast_le.2 h)
    (mul_nonneg unitsPerOne_cast_pos.le (Nat.cast_nonneg den))

/-! ### Signed values -/

namespace Binary64

/-- The exact value of a finite number; zero for the others. -/
def value (x : Binary64) : ℚ := x.units / unitsPerOne

theorem value_finite (negative : Bool) (rank : Fin rankBound) :
    (finite negative rank).value = if negative then -magnitude rank else magnitude rank := by
  rw [value, units, magnitude]
  cases negative with
  | false => simp only [Bool.false_eq_true, if_false, Int.cast_natCast]
  | true => simp only [if_true, Int.cast_neg, Int.cast_natCast, neg_div']

theorem abs_value_finite (negative : Bool) (rank : Fin rankBound) :
    |(finite negative rank).value| = magnitude rank := by
  have hnonneg := abs_of_nonneg (magnitude_nonneg rank)
  rw [value_finite]
  split
  · rw [abs_neg, hnonneg]
  · exact hnonneg

/-- The number with the nearest magnitude and the same sign is nearest of all numbers. -/
theorem abs_value_sub_le {q : ℚ} (hq : 0 ≤ q) {rank : Fin rankBound}
    (h : Nearest magnitude q rank) (negative : Bool) {z : Binary64} (hz : z.isFinite = true) :
    |(finite negative rank).value - (if negative then -q else q)| ≤
      |z.value - (if negative then -q else q)| := by
  cases z with
  | infinite => cases hz
  | nan => cases hz
  | finite sign other =>
      have hsigned : |if negative then -q else q| = q := by
        split
        · rw [abs_neg, abs_of_nonneg hq]
        · exact abs_of_nonneg hq
      calc
        _ = |q - magnitude rank| := by
          rw [value_finite]
          split
          · rw [neg_sub_neg]
          · rw [abs_sub_comm]
        _ ≤ |q - magnitude other| := h.abs_sub_le other
        _ = |(|(finite sign other).value| - |if negative then -q else q|)| := by
          rw [abs_value_finite, hsigned, abs_sub_comm]
        _ ≤ _ := abs_abs_sub_abs_le _ _

end Binary64

end Reckoner
