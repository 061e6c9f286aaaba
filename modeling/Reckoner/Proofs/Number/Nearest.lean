import Mathlib.Data.Nat.Dist
import Mathlib.Order.Monotone.Basic
import Reckoner.Number.Binary64

/-!
# The nearest number

Distances are compared on whole numbers: the magnitude of a rank lies at the
distance `Nat.dist num (unitsAt rank * den)` from `num / den` units, counted in
units over `den`. `nearestRank` is nearest in this sense among all ranks
(`dist_nearestRank_le`), and since magnitudes grow strictly with the rank it
gives every magnitude its own rank back (`nearestRank_unitsAt_mul`).
-/

namespace Reckoner

/-! ### Multiples of a number -/

theorem mul_add_le_of_ne {j k : Nat} (h : j ≠ k) (d : Nat) :
    j * d + d ≤ k * d ∨ k * d + d ≤ j * d := by
  rw [← Nat.succ_mul, ← Nat.succ_mul]
  rcases Nat.lt_or_gt_of_ne h with hlt | hgt
  · exact .inl (Nat.mul_le_mul_right d hlt)
  · exact .inr (Nat.mul_le_mul_right d hgt)

/-- A number lies at a multiple of the divisor, or between it and the next one. -/
theorem between_multiples (n : Nat) {d : Nat} (hd : 0 < d) :
    n / d * d + n % d = n ∧ n % d < d ∧ (n / d + 1) * d = n / d * d + d :=
  ⟨Nat.div_add_mod' n d, Nat.mod_lt n hd, Nat.succ_mul (n / d) d⟩

theorem roundDiv_cases (n d : Nat) :
    (roundDiv n d = n / d ∧ 2 * (n % d) ≤ d) ∨ (roundDiv n d = n / d + 1 ∧ d ≤ 2 * (n % d)) := by
  simp only [roundDiv]
  have hparity := Nat.mod_two_eq_zero_or_one (n / d)
  split
  · exact .inl ⟨rfl, by omega⟩
  · split
    · exact .inr ⟨rfl, by omega⟩
    · rcases hparity with h | h
      · exact .inl ⟨by omega, by omega⟩
      · exact .inr ⟨by omega, by omega⟩

/-- The rounded quotient is off by at most one half. -/
theorem two_mul_dist_roundDiv_le (n : Nat) {d : Nat} (hd : 0 < d) :
    2 * Nat.dist n (roundDiv n d * d) ≤ d := by
  obtain ⟨hdiv, hmod, hsucc⟩ := between_multiples n hd
  unfold Nat.dist
  rcases roundDiv_cases n d with ⟨h, hle⟩ | ⟨h, hle⟩
  · rw [h]
    omega
  · rw [h]
    omega

/-- No multiple of the divisor is nearer than that of the rounded quotient. -/
theorem dist_roundDiv_le (n : Nat) {d : Nat} (hd : 0 < d) (k : Nat) :
    Nat.dist n (roundDiv n d * d) ≤ Nat.dist n (k * d) := by
  obtain ⟨hdiv, hmod, hsucc⟩ := between_multiples n hd
  have hside : k * d ≤ n / d * d ∨ (n / d + 1) * d ≤ k * d := by
    rcases Nat.lt_or_ge (n / d) k with h | h
    · exact .inr (Nat.mul_le_mul_right d h)
    · exact .inl (Nat.mul_le_mul_right d h)
  unfold Nat.dist
  rcases roundDiv_cases n d with ⟨h, hle⟩ | ⟨h, hle⟩
  · rw [h]
    omega
  · rw [h]
    omega

/-- A quotient half way between two whole numbers is rounded to the even one. -/
theorem even_roundDiv_of_two_mul_dist_eq {n d : Nat} (hd : 0 < d)
    (h : 2 * Nat.dist n (roundDiv n d * d) = d) : roundDiv n d % 2 = 0 := by
  obtain ⟨hdiv, hmod, hsucc⟩ := between_multiples n hd
  have hhalf : 2 * (n % d) = d := by
    unfold Nat.dist at h
    rcases roundDiv_cases n d with ⟨hround, hle⟩ | ⟨hround, hle⟩
    · rw [hround] at h
      omega
    · rw [hround] at h
      omega
  simp only [roundDiv]
  rw [if_neg (by omega), if_neg (by omega)]
  omega

/-- A quotient that is as near to the multiple of another number lies half way. -/
theorem even_roundDiv_of_dist_eq {n d k : Nat} (hd : 0 < d) (hk : k ≠ roundDiv n d)
    (h : Nat.dist n (roundDiv n d * d) = Nat.dist n (k * d)) : roundDiv n d % 2 = 0 := by
  have hle := two_mul_dist_roundDiv_le n hd
  have hstep := mul_add_le_of_ne hk d
  refine even_roundDiv_of_two_mul_dist_eq hd ?_
  unfold Nat.dist at h hle ⊢
  omega

/-- What lies within one half of a whole number, and not at one half of an odd
one, is rounded to it. -/
theorem roundDiv_eq_of_two_mul_dist_le {n d k : Nat} (hd : 0 < d)
    (h : 2 * Nat.dist n (k * d) ≤ d) (heven : 2 * Nat.dist n (k * d) = d → k % 2 = 0) :
    roundDiv n d = k := by
  obtain ⟨hdiv, hmod, hsucc⟩ := between_multiples n hd
  have hsucc' := Nat.succ_mul (n / d + 1) d
  rw [Nat.succ_eq_add_one] at hsucc'
  unfold Nat.dist at h heven
  have hk : k = n / d ∨ k = n / d + 1 := by
    by_contra hne
    rcases Nat.lt_or_ge (n / d) k with hlt | hge
    · have := Nat.mul_le_mul_right d (show n / d + 1 + 1 ≤ k by omega)
      omega
    · have := Nat.mul_le_mul_right d (show k + 1 ≤ n / d by omega)
      rw [Nat.succ_mul] at this
      omega
  simp only [roundDiv]
  rcases hk with rfl | rfl
  · split
    · rfl
    · have := heven (by omega)
      rw [if_neg (by omega)]
      omega
  · rw [if_neg (by omega)]
    split
    · rfl
    · have := heven (by omega)
      omega

/-- A number that is at least as near to the multiple to which another one was
rounded is rounded to the same multiple. -/
theorem roundDiv_eq_roundDiv_of_dist_le {m n d : Nat} (hd : 0 < d)
    (h : Nat.dist m (roundDiv n d * d) ≤ Nat.dist n (roundDiv n d * d)) :
    roundDiv m d = roundDiv n d := by
  have hle := two_mul_dist_roundDiv_le n hd
  refine roundDiv_eq_of_two_mul_dist_le hd (by omega) fun heq => ?_
  exact even_roundDiv_of_two_mul_dist_eq hd (by omega)

theorem roundDiv_mul_le (n d : Nat) : roundDiv n d * d ≤ 2 * n := by
  have hdiv := Nat.div_add_mod' n d
  have hsucc := Nat.succ_mul (n / d) d
  rw [Nat.succ_eq_add_one] at hsucc
  rcases roundDiv_cases n d with ⟨h, -⟩ | ⟨h, hle⟩
  · rw [h]
    omega
  · rw [h]
    omega

theorem roundDiv_mul_mul_right (n d : Nat) {c : Nat} (hc : 0 < c) :
    roundDiv (n * c) (d * c) = roundDiv n d := by
  have hlt : 2 * (n % d * c) < d * c ↔ 2 * (n % d) < d := by
    rw [← Nat.mul_assoc]
    exact Nat.mul_lt_mul_right hc
  have hgt : d * c < 2 * (n % d * c) ↔ d < 2 * (n % d) := by
    rw [← Nat.mul_assoc]
    exact Nat.mul_lt_mul_right hc
  simp only [roundDiv, Nat.mul_div_mul_right _ _ hc, Nat.mul_mod_mul_right, hlt, hgt]

/-! ### Magnitudes -/

/-- Within a block, and at the first rank of the next one, magnitudes grow by
the power of two of the block. -/
theorem unitsAt_block {b q : Nat} (hq : q ≤ twoTo 53) (hb : b = 0 ∨ twoTo 52 ≤ q) :
    unitsAt (b * twoTo 52 + q) = q * twoTo b := by
  have hpos := twoTo_pos 52
  have hsucc : twoTo 53 = twoTo 52 * 2 := twoTo_succ 52
  rcases Nat.lt_or_ge q (twoTo 52) with hlt | hge
  · obtain rfl : b = 0 := hb.resolve_right (by omega)
    rw [Nat.zero_mul, Nat.zero_add, unitsAt, if_pos hlt, twoTo_zero, Nat.mul_one]
  · have hnot : ¬ b * twoTo 52 + q < twoTo 52 := by omega
    rw [unitsAt, if_neg hnot]
    rcases Nat.lt_or_ge q (twoTo 53) with hlt' | hge'
    · obtain ⟨m, rfl⟩ := Nat.exists_eq_add_of_le hge
      have hdiv : (b * twoTo 52 + (twoTo 52 + m)) / twoTo 52 = b + 1 := by
        rw [← Nat.add_assoc, ← Nat.succ_mul, Nat.mul_comm, Nat.mul_add_div hpos,
          Nat.div_eq_of_lt (by omega)]
      have hmod : (b * twoTo 52 + (twoTo 52 + m)) % twoTo 52 = m := by
        rw [← Nat.add_assoc, ← Nat.succ_mul, Nat.mul_comm, Nat.mul_add_mod,
          Nat.mod_eq_of_lt (by omega)]
      rw [hdiv, hmod, Nat.add_sub_cancel]
    · obtain rfl : q = twoTo 53 := by omega
      have hsum : b * twoTo 52 + twoTo 53 = (b + 2) * twoTo 52 := by
        rw [hsucc, Nat.add_mul, Nat.mul_comm 2]
      rw [hsum, Nat.mul_mod_left, Nat.mul_div_cancel _ hpos, Nat.add_zero, ← twoTo_add,
        ← twoTo_add]
      congr 1
      omega

/-- Every rank is one of a block. -/
theorem exists_block (rank : Nat) :
    ∃ b q, rank = b * twoTo 52 + q ∧ q < twoTo 53 ∧ (b = 0 ∨ twoTo 52 ≤ q) := by
  have hpos := twoTo_pos 52
  have hsucc : twoTo 53 = twoTo 52 * 2 := twoTo_succ 52
  rcases Nat.lt_or_ge rank (twoTo 53) with hlt | hge
  · exact ⟨0, rank, by omega, hlt, .inl rfl⟩
  · have hdiv := Nat.div_add_mod' rank (twoTo 52)
    have hmod := Nat.mod_lt rank hpos
    obtain ⟨b, hb⟩ : ∃ b, rank / twoTo 52 = b + 1 :=
      Nat.exists_eq_succ_of_ne_zero (Nat.div_pos (by omega) hpos).ne'
    rw [hb, Nat.succ_mul] at hdiv
    exact ⟨b, twoTo 52 + rank % twoTo 52, by omega, by omega, .inr (by omega)⟩

theorem unitsAt_strictMono : StrictMono unitsAt := by
  refine strictMono_nat_of_lt_succ fun rank => ?_
  obtain ⟨b, q, rfl, hq, hb⟩ := exists_block rank
  have hb' : b = 0 ∨ twoTo 52 ≤ q + 1 := hb.imp_right fun h => Nat.le_succ_of_le h
  rw [Nat.add_assoc, unitsAt_block hq.le hb, unitsAt_block hq hb']
  exact Nat.mul_lt_mul_of_pos_right (Nat.lt_succ_self q) (twoTo_pos b)

theorem two_mul_unitsAt_le (rank : Nat) : 2 * unitsAt rank ≤ unitsAt (rank + twoTo 52) := by
  have hsucc : twoTo 53 = twoTo 52 * 2 := twoTo_succ 52
  obtain ⟨b, q, rfl, hq, hb⟩ := exists_block rank
  rw [unitsAt_block hq.le hb]
  rcases Nat.lt_or_ge q (twoTo 52) with hlt | hge
  · obtain rfl : b = 0 := hb.resolve_right (by omega)
    have hnext : 0 * twoTo 52 + q + twoTo 52 = 0 * twoTo 52 + (q + twoTo 52) := by omega
    rw [hnext, unitsAt_block (by omega) (.inl rfl), twoTo_zero]
    omega
  · have hnext : b * twoTo 52 + q + twoTo 52 = (b + 1) * twoTo 52 + q := by
      rw [Nat.succ_mul]
      omega
    rw [hnext, unitsAt_block hq.le (.inr hge), twoTo_succ, Nat.mul_comm 2, Nat.mul_assoc]

@[simp] theorem unitsAt_zero : unitsAt 0 = 0 := by
  rw [unitsAt, if_pos (twoTo_pos 52)]

/-- At the granularity of a block a magnitude is a multiple, or below all
magnitudes of the block. -/
theorem exists_eq_mul_or_lt (rank b : Nat) :
    (∃ k, unitsAt rank = k * twoTo b) ∨ (0 < b ∧ unitsAt rank < twoTo 52 * twoTo b) := by
  obtain ⟨b', q, rfl, hq, hb'⟩ := exists_block rank
  rw [unitsAt_block hq.le hb']
  rcases Nat.lt_or_ge b' b with hlt | hge
  · refine .inr ⟨by omega, ?_⟩
    calc
      q * twoTo b' < twoTo 53 * twoTo b' := Nat.mul_lt_mul_of_pos_right hq (twoTo_pos b')
      _ = twoTo 52 * twoTo (b' + 1) := by
        rw [← twoTo_add, ← twoTo_add]
        congr 1
        omega
      _ ≤ twoTo 52 * twoTo b :=
        Nat.mul_le_mul_left _ (Nat.pow_le_pow_right (by decide) hlt)
  · obtain ⟨c, rfl⟩ := Nat.exists_eq_add_of_le hge
    exact .inl ⟨q * twoTo c, by rw [twoTo_add, Nat.mul_assoc, Nat.mul_comm (twoTo c)]⟩

/-! ### The nearest magnitude -/

/-- A quotient is rounded in a block that leaves it 53 bits. -/
theorem nearestRank_eq (num den : Nat) :
    ∃ b, nearestRank num den = b * twoTo 52 + roundDiv num (den * twoTo b) ∧
      (b = 0 ∨ twoTo 52 ≤ num / (den * twoTo b)) ∧ num / (den * twoTo b) < twoTo 53 := by
  rw [nearestRank]
  rcases Nat.lt_or_ge (num / den) (twoTo 53) with hlt | hge
  · refine ⟨0, by simp only [if_pos hlt], .inl rfl, ?_⟩
    rw [twoTo_zero, Nat.mul_one]
    exact hlt
  · have hne : num / den ≠ 0 := (Nat.lt_of_lt_of_le (twoTo_pos 53) hge).ne'
    have hlow : twoTo (num / den).log2 ≤ num / den := Nat.log2_self_le hne
    have hhigh : num / den < twoTo ((num / den).log2 + 1) := Nat.lt_log2_self
    have hlog : 53 ≤ (num / den).log2 := (Nat.le_log2 hne).2 hge
    obtain ⟨b, hb⟩ := Nat.exists_eq_add_of_le (Nat.le_of_succ_le hlog)
    refine ⟨b, ?_, .inr ?_, ?_⟩
    · simp only [if_neg (Nat.not_lt.2 hge), hb, Nat.add_sub_cancel_left]
    · rw [← Nat.div_div_eq_div_mul, Nat.le_div_iff_mul_le (twoTo_pos b), ← twoTo_add, ← hb]
      exact hlow
    · rw [← Nat.div_div_eq_div_mul, Nat.div_lt_iff_lt_mul (twoTo_pos b), ← twoTo_add,
        show 53 + b = (num / den).log2 + 1 by omega]
      exact hhigh

theorem unitsAt_nearestRank (num : Nat) {den : Nat} (hden : 0 < den) :
    ∃ b, unitsAt (nearestRank num den) = roundDiv num (den * twoTo b) * twoTo b ∧
      (b = 0 ∨ twoTo 52 * (den * twoTo b) ≤ num) := by
  obtain ⟨b, hrank, hlow, hhigh⟩ := nearestRank_eq num den
  have hround := roundDiv_eq_or num (den * twoTo b)
  refine ⟨b, ?_, hlow.imp_right ?_⟩
  · rw [hrank, unitsAt_block (by omega) (hlow.imp_right fun h => by omega)]
  · exact (Nat.le_div_iff_mul_le (Nat.mul_pos hden (twoTo_pos b))).1

theorem mul_twoTo_mul (k b den : Nat) : k * twoTo b * den = k * (den * twoTo b) := by
  rw [Nat.mul_assoc, Nat.mul_comm (twoTo b)]

/-- A magnitude below a block is not as near as the multiple to which a quotient in the block is
rounded. -/
theorem dist_roundDiv_lt {num den rank b : Nat} (hden : 0 < den)
    (hnum : twoTo 52 * (den * twoTo b) ≤ num) (hrank : unitsAt rank < twoTo 52 * twoTo b) :
    Nat.dist num (roundDiv num (den * twoTo b) * (den * twoTo b)) <
      Nat.dist num (unitsAt rank * den) := by
  have hlt : unitsAt rank * den < twoTo 52 * (den * twoTo b) := by
    rw [← mul_twoTo_mul]
    exact Nat.mul_lt_mul_of_pos_right hrank hden
  refine (dist_roundDiv_le num (Nat.mul_pos hden (twoTo_pos b)) (twoTo 52)).trans_lt ?_
  unfold Nat.dist
  omega

/-- No magnitude is nearer to a quotient than that of its nearest rank. -/
theorem dist_nearestRank_le (num : Nat) {den : Nat} (hden : 0 < den) (rank : Nat) :
    Nat.dist num (unitsAt (nearestRank num den) * den) ≤ Nat.dist num (unitsAt rank * den) := by
  obtain ⟨b, hunits, hb⟩ := unitsAt_nearestRank num hden
  rw [hunits, mul_twoTo_mul]
  rcases exists_eq_mul_or_lt rank b with ⟨k, hk⟩ | ⟨hpos, hlt⟩
  · rw [hk, mul_twoTo_mul]
    exact dist_roundDiv_le num (Nat.mul_pos hden (twoTo_pos b)) k
  · exact (dist_roundDiv_lt hden (hb.resolve_left (by omega)) hlt).le

/-- If the magnitude of another rank is as near to a quotient, its nearest rank is even. -/
theorem even_nearestRank_of_dist_eq {num den rank : Nat} (hden : 0 < den)
    (hrank : rank ≠ nearestRank num den)
    (h : Nat.dist num (unitsAt (nearestRank num den) * den) = Nat.dist num (unitsAt rank * den)) :
    nearestRank num den % 2 = 0 := by
  obtain ⟨b, hnearest, hlow, hhigh⟩ := nearestRank_eq num den
  have hd : 0 < den * twoTo b := Nat.mul_pos hden (twoTo_pos b)
  have hround := roundDiv_eq_or num (den * twoTo b)
  have hunits : unitsAt (nearestRank num den) = roundDiv num (den * twoTo b) * twoTo b := by
    rw [hnearest, unitsAt_block (by omega) (hlow.imp_right fun h => by omega)]
  rw [hunits, mul_twoTo_mul] at h
  -- Only ranks of the block, or of a finer one that starts where the block starts, are as near.
  rcases exists_eq_mul_or_lt rank b with ⟨k, hk⟩ | ⟨hpos, hlt⟩
  · rw [hk, mul_twoTo_mul] at h
    have hne : k ≠ roundDiv num (den * twoTo b) := by
      rintro rfl
      exact hrank (unitsAt_strictMono.injective (hk.trans hunits.symm))
    have heven := even_roundDiv_of_dist_eq hd hne h
    have hblock : twoTo 52 = 2 * twoTo 51 := by rw [twoTo_succ, Nat.mul_comm]
    rw [hnearest, hblock, Nat.mul_left_comm, Nat.mul_add_mod]
    exact heven
  · have hbelow := (Nat.le_div_iff_mul_le hd).1 (hlow.resolve_left (by omega))
    exact absurd h (dist_roundDiv_lt hden hbelow hlt).ne

/-- A magnitude is nearest to itself. -/
theorem nearestRank_unitsAt_mul (rank : Nat) {den : Nat} (hden : 0 < den) :
    nearestRank (unitsAt rank * den) den = rank := by
  have hdist := dist_nearestRank_le (unitsAt rank * den) hden rank
  rw [Nat.dist_self, Nat.le_zero] at hdist
  exact unitsAt_strictMono.injective
    (Nat.eq_of_mul_eq_mul_right hden (Nat.eq_of_dist_eq_zero hdist).symm)

theorem nearestRank_unitsAt (rank : Nat) : nearestRank (unitsAt rank) 1 = rank := by
  simpa using nearestRank_unitsAt_mul rank Nat.one_pos

/-- What is at most a magnitude is rounded to at most its rank. -/
theorem nearestRank_le_of_le {num den rank : Nat} (hden : 0 < den)
    (h : num ≤ unitsAt rank * den) : nearestRank num den ≤ rank := by
  by_contra hlt
  have hunits := unitsAt_strictMono (Nat.not_le.1 hlt)
  have hmul := Nat.mul_lt_mul_of_pos_right hunits hden
  have hdist := dist_nearestRank_le num hden rank
  unfold Nat.dist at hdist
  omega

/-- Only the quotient matters, not the fraction that it is written as. -/
theorem nearestRank_mul_mul_right (num den : Nat) {c : Nat} (hc : 0 < c) :
    nearestRank (num * c) (den * c) = nearestRank num den := by
  have hscale (b : Nat) : den * c * twoTo b = den * twoTo b * c := by
    rw [Nat.mul_assoc, Nat.mul_comm c, Nat.mul_assoc]
  simp only [nearestRank, Nat.mul_div_mul_right _ _ hc, hscale, roundDiv_mul_mul_right _ _ hc]

@[simp] theorem nearestRank_zero_left (den : Nat) : nearestRank 0 den = 0 := by
  simp [nearestRank, twoTo_pos]

end Reckoner
