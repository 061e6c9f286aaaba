import Reckoner.Proofs.Number.Notation
import Reckoner.Proofs.Number.Scale

/-!
# The shortest decimal

The decimals that read back as a rank lie around its magnitude without a gap. So with a given
number of places one of the two that enclose the magnitude reads back if any does, and the search
passes over no number of places with which one reads back: `shortestDecimal_le`. It follows that
the shortest decimal of a magnitude does not end in a zero (`not_dvd_shortestDecimal`), and that
it has places unless the magnitude is whole.
-/

namespace Reckoner

theorem readsAs_iff {rank k places : Nat} :
    readsAs rank k places = true ↔ nearestRank (k * unitsPerOne) (tenTo places) = rank := by
  rw [readsAs, beq_iff_eq]

/-- A decimal reads back as the rank whose magnitude is nearest to it. -/
theorem readsAs_iff_nearest {rank k places : Nat} :
    readsAs rank k places = true ↔ Nearest magnitude (k / 10 ^ places) rank := by
  rw [readsAs_iff, ← tenTo_cast, nearest_magnitude_iff (tenTo_pos places)]

/-- What lies between a decimal that reads back and the magnitude reads back too. -/
theorem readsAs_of_le {rank j k places : Nat} (h : readsAs rank k places = true) (hkj : k ≤ j)
    (hj : j * unitsPerOne ≤ unitsAt rank * tenTo places) : readsAs rank j places = true := by
  have hpos := tenTo_pos places
  have hlow := nearestRank_mono hpos (Nat.mul_le_mul_right unitsPerOne hkj)
  have hhigh := nearestRank_mono hpos hj
  rw [readsAs_iff.1 h] at hlow
  rw [nearestRank_unitsAt_mul rank hpos] at hhigh
  exact readsAs_iff.2 (Nat.le_antisymm hhigh hlow)

theorem readsAs_of_ge {rank j k places : Nat} (h : readsAs rank k places = true) (hjk : j ≤ k)
    (hj : unitsAt rank * tenTo places ≤ j * unitsPerOne) : readsAs rank j places = true := by
  have hpos := tenTo_pos places
  have hhigh := nearestRank_mono hpos (Nat.mul_le_mul_right unitsPerOne hjk)
  have hlow := nearestRank_mono hpos hj
  rw [readsAs_iff.1 h] at hhigh
  rw [nearestRank_unitsAt_mul rank hpos] at hlow
  exact readsAs_iff.2 (Nat.le_antisymm hhigh hlow)

theorem isSome_takenOf? {below nearer : Nat} {readsBelow readsAbove : Bool}
    (h : readsBelow = true ∨ readsAbove = true) :
    (takenOf? below nearer readsBelow readsAbove).isSome = true := by
  cases readsBelow <;> cases readsAbove <;> simp [takenOf?] at h ⊢

/-- If any decimal reads back, so does one of the two that enclose the magnitude. -/
theorem isSome_nearestReading? {rank k places : Nat} (h : readsAs rank k places = true) :
    (nearestReading? rank places).isSome = true := by
  refine isSome_takenOf? ?_
  have habove := Nat.lt_succ_self (unitsAt rank * tenTo places / unitsPerOne)
  rw [Nat.div_lt_iff_lt_mul unitsPerOne_pos] at habove
  rcases Nat.lt_or_ge (unitsAt rank * tenTo places / unitsPerOne) k with hlt | hge
  · exact .inr (readsAs_of_ge h hlt habove.le)
  · exact .inl (readsAs_of_le h hge (Nat.div_mul_le_self _ _))

/-- No decimal with fewer places reads back. -/
theorem shortestDecimal_le {rank k places : Nat} (h : readsAs rank k places = true) :
    (shortestDecimal rank).2 ≤ places := by
  obtain ⟨k', hk'⟩ := Option.isSome_iff_exists.1 (isSome_nearestReading? h)
  by_contra hlt
  rw [Nat.not_le, shortestDecimal] at hlt
  cases hfind : (List.range 1075).findSome? fun places =>
      (nearestReading? rank places).map (·, places) with
  | none =>
      rw [hfind, Option.getD_none] at hlt
      have hnone := List.findSome?_eq_none_iff.1 hfind places (List.mem_range.2 (by omega))
      rw [hk'] at hnone
      cases hnone
  | some decimal =>
      obtain ⟨before, first, after, hrange, hfirst, hbefore⟩ := List.findSome?_eq_some_iff.1 hfind
      obtain ⟨_, _, rfl⟩ := Option.map_eq_some_iff.1 hfirst
      rw [hfind, Option.getD_some] at hlt
      -- The number of places that is found is the first one in the range with a reading.
      have hsorted : (before ++ first :: after).Pairwise (· < ·) := hrange ▸ List.pairwise_lt_range
      have hfirst : first ∈ List.range 1075 := by
        rw [hrange]
        exact List.mem_append_right before List.mem_cons_self
      have hmem : places ∈ before ++ first :: after := by
        rw [← hrange, List.mem_range]
        exact Nat.lt_trans hlt (List.mem_range.1 hfirst)
      rcases List.mem_append.1 hmem with hmem | hmem
      · have hnone := hbefore places hmem
        rw [hk'] at hnone
        cases hnone
      · have hlast := (List.pairwise_cons.1 (List.pairwise_append.1 hsorted).2.1).1
        rcases List.mem_cons.1 hmem with rfl | hmem
        · exact Nat.lt_irrefl _ hlt
        · exact Nat.lt_asymm hlt (hlast places hmem)

/-! ### Its last digit -/

theorem readsAs_mul_tenTo (rank k places zeros : Nat) :
    readsAs rank (k * tenTo zeros) (places + zeros) = readsAs rank k places := by
  rw [readsAs, readsAs, tenTo_add, Nat.mul_right_comm, nearestRank_mul_mul_right _ _ (tenTo_pos _)]

/-- Whole numbers are only read as whole magnitudes. -/
theorem isWholeUnits_of_readsAs {rank k : Nat} (h : readsAs rank k 0 = true) :
    Binary64.isWholeUnits (unitsAt rank) = true := by
  obtain ⟨b, hunits, -⟩ := unitsAt_nearestRank (k * unitsPerOne) (tenTo_pos 0)
  rw [readsAs_iff.1 h, tenTo_zero, Nat.one_mul] at hunits
  suffices hdvd : unitsPerOne ∣ unitsAt rank from beq_iff_eq.2 (Nat.mod_eq_zero_of_dvd hdvd)
  rw [hunits]
  rcases Nat.le_total b 1074 with hle | hge
  · obtain ⟨c, hc⟩ := Nat.exists_eq_add_of_le hle
    have hone : unitsPerOne = twoTo b * twoTo c := by rw [← twoTo_add, ← hc, unitsPerOne]
    have hexact : k * unitsPerOne = k * twoTo c * twoTo b := by
      rw [hone, Nat.mul_assoc, Nat.mul_comm (twoTo b)]
    rw [hexact, roundDiv_mul_left _ _ (twoTo_pos b), ← hexact]
    exact Nat.dvd_mul_left _ k
  · obtain ⟨c, rfl⟩ := Nat.exists_eq_add_of_le hge
    rw [twoTo_add]
    exact (Nat.dvd_mul_right _ _).mul_left _

variable {rank : Nat}

theorem shortestDecimal_pos (h : Binary64.isWholeUnits (unitsAt rank) = false) :
    0 < (shortestDecimal rank).2 := by
  have hreads := readsAs_shortestDecimal rank
  by_contra hpos
  rw [Nat.eq_zero_of_not_pos hpos] at hreads
  cases h.symm.trans (isWholeUnits_of_readsAs hreads)

/-- Without the zero at its end there were a shorter one. -/
theorem not_dvd_shortestDecimal (h : Binary64.isWholeUnits (unitsAt rank) = false) :
    ¬ 10 ∣ (shortestDecimal rank).1 := by
  rintro ⟨k, hk⟩
  obtain ⟨places, hplaces⟩ := Nat.exists_eq_add_one_of_ne_zero (shortestDecimal_pos h).ne'
  have hreads := readsAs_shortestDecimal rank
  have hten : tenTo 1 = 10 := rfl
  rw [hk, hplaces, Nat.mul_comm, ← hten, readsAs_mul_tenTo] at hreads
  have hle := shortestDecimal_le hreads
  omega

/-! ### What is written -/

/-- The decimal that is written of a rank, with its number of places. -/
def writtenDecimal (rank : Nat) : Nat × Nat :=
  if Binary64.isWholeUnits (unitsAt rank) then (unitsAt rank / unitsPerOne, 0)
  else shortestDecimal rank

theorem readsAs_writtenDecimal (rank : Nat) :
    readsAs rank (writtenDecimal rank).1 (writtenDecimal rank).2 = true := by
  unfold writtenDecimal
  split
  · next hwhole =>
    have hdvd : unitsPerOne ∣ unitsAt rank := Nat.dvd_of_mod_eq_zero (beq_iff_eq.1 hwhole)
    rw [readsAs_iff, Nat.div_mul_cancel hdvd, tenTo_zero, nearestRank_unitsAt]
  · exact readsAs_shortestDecimal rank

theorem writtenDecimal_le {k places : Nat} (h : readsAs rank k places = true) :
    (writtenDecimal rank).2 ≤ places := by
  unfold writtenDecimal
  split
  · exact Nat.zero_le places
  · exact shortestDecimal_le h

theorem writtenDecimal_reduced (rank : Nat) :
    (writtenDecimal rank).2 = 0 ∨ ¬ 10 ∣ (writtenDecimal rank).1 := by
  unfold writtenDecimal
  split
  · exact .inl rfl
  · next hfraction => exact .inr (not_dvd_shortestDecimal (Bool.eq_false_iff.2 hfraction))

theorem writtenDecimal_ne_zero (h : rank ≠ 0) : (writtenDecimal rank).1 ≠ 0 := by
  intro hzero
  have hreads := readsAs_iff.1 (readsAs_writtenDecimal rank)
  rw [hzero, Nat.zero_mul, nearestRank_zero_left] at hreads
  exact h hreads.symm

theorem magnitudeDigits_eq (rank : Nat) :
    magnitudeDigits rank =
      if (writtenDecimal rank).2 = 0 then Nat.toDigits 10 (writtenDecimal rank).1
      else decimalDigits (writtenDecimal rank).1 (writtenDecimal rank).2 := by
  unfold writtenDecimal
  split
  · next hwhole => rw [if_pos rfl, magnitudeDigits_of_whole hwhole]
  · next hfraction =>
    rw [if_neg (shortestDecimal_pos (Bool.eq_false_iff.2 hfraction)).ne',
      magnitudeDigits_of_fraction hfraction]

end Reckoner
