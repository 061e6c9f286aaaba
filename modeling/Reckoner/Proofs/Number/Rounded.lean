import Reckoner.Expression.Reduction
import Reckoner.Proofs.Number.Nearest

/-!
# Numbers that are rounded already

Rounding to decimal places first moves a number to a multiple of `10 ^ -places`
and then to the number nearest to that multiple. The second step leads back to
at least the distance at which the number was before, so that the multiple
nearest to the result is the same one. Hence what was rounded stays as it is:
`cleanResult_of_cleanResult`.
-/

namespace Reckoner

theorem unitsPerOne_pos : 0 < unitsPerOne := twoTo_pos 1074

/-- Only small magnitudes have a fraction. -/
theorem lt_of_not_isWholeUnits {rank : Nat}
    (h : Binary64.isWholeUnits (unitsAt rank) = false) : rank + twoTo 52 < rankBound := by
  have hsucc : twoTo 53 = twoTo 52 * 2 := twoTo_succ 52
  have hpos := twoTo_pos 52
  obtain ⟨b, q, rfl, hq, hb⟩ := exists_block rank
  have hlt : b < 1074 := by
    by_contra hge
    obtain ⟨c, rfl⟩ := Nat.exists_eq_add_of_le (Nat.not_lt.1 hge)
    rw [unitsAt_block hq.le hb, twoTo_add, Nat.mul_comm (twoTo 1074), ← Nat.mul_assoc,
      Binary64.isWholeUnits, unitsPerOne, Nat.mul_mod_left] at h
    cases h
  have hmul : b * twoTo 52 ≤ 1073 * twoTo 52 := Nat.mul_le_mul_right _ (by omega)
  unfold rankBound
  omega

namespace Binary64

/-- The rank of the multiple of `10 ^ -places` that is nearest to a magnitude. -/
def placesRank (rank : Nat) (places : Int) : Nat :=
  nearestRank (nearestMultiple (unitsAt rank) places * tenTo (-places).toNat * unitsPerOne)
    (tenTo places.toNat)

theorem ofMultiple_nearestMultiple (negative : Bool) (rank : Nat) (places : Int) :
    ofMultiple negative (nearestMultiple (unitsAt rank) places) places =
      ofRank negative (placesRank rank places) := rfl

/-- Rounding to places at most doubles a magnitude. -/
theorem placesRank_le (rank : Nat) (places : Int) :
    placesRank rank places ≤ rank + twoTo 52 := by
  refine nearestRank_le_of_le (tenTo_pos _) ?_
  have hround := roundDiv_mul_le (unitsAt rank * tenTo places.toNat)
    (unitsPerOne * tenTo (-places).toNat)
  calc
    _ = nearestMultiple (unitsAt rank) places * (unitsPerOne * tenTo (-places).toNat) := by
      rw [Nat.mul_assoc, Nat.mul_comm unitsPerOne]
    _ ≤ 2 * (unitsAt rank * tenTo places.toNat) := hround
    _ = 2 * unitsAt rank * tenTo places.toNat := by rw [Nat.mul_assoc]
    _ ≤ unitsAt (rank + twoTo 52) * tenTo places.toNat :=
      Nat.mul_le_mul_right _ (two_mul_unitsAt_le rank)

/-- The rounded number is nearest to the same multiple as the number itself. -/
theorem nearestMultiple_placesRank (rank : Nat) (places : Int) :
    nearestMultiple (unitsAt (placesRank rank places)) places =
      nearestMultiple (unitsAt rank) places := by
  have hpos : 0 < unitsPerOne * tenTo (-places).toNat :=
    Nat.mul_pos unitsPerOne_pos (tenTo_pos _)
  have hnearest := dist_nearestRank_le
    (nearestMultiple (unitsAt rank) places * tenTo (-places).toNat * unitsPerOne)
    (tenTo_pos places.toNat) rank
  rw [Nat.mul_assoc, Nat.mul_comm (tenTo (-places).toNat), Nat.dist_comm,
    Nat.dist_comm _ (unitsAt rank * _)] at hnearest
  have hsame := roundDiv_eq_roundDiv_of_dist_le hpos hnearest
  rw [placesRank, Nat.mul_assoc, Nat.mul_comm (tenTo (-places).toNat)]
  exact hsame

/-- Rounding twice is rounding once. -/
theorem toPlaces_toPlaces (x : Binary64) (places : Int)
    (h : x.isFinite = true) (hfraction : x.isIntegral = false) :
    (x.toPlaces places).isFinite = true ∧
      (x.toPlaces places).toPlaces places = x.toPlaces places := by
  cases x with
  | infinite => cases h
  | nan => cases h
  | finite negative rank =>
      rw [toPlaces]
      split
      · next hmost =>
        rw [toPlaces, if_pos hmost]
        exact ⟨rfl, rfl⟩
      · next hmost =>
        split
        · next hfewest =>
          rw [zero, toPlaces, if_neg hmost, if_pos hfewest]
          exact ⟨rfl, rfl⟩
        · next hfewest =>
          have hbound := Nat.lt_of_le_of_lt (placesRank_le rank places)
            (lt_of_not_isWholeUnits hfraction)
          rw [ofMultiple_nearestMultiple, ofRank_of_lt hbound, toPlaces, if_neg hmost,
            if_neg hfewest, nearestMultiple_placesRank, ofMultiple_nearestMultiple,
            ofRank_of_lt hbound]
          exact ⟨rfl, rfl⟩

end Binary64

/-- A rounded result is finite, and rounding leaves it as it is. -/
theorem cleanResult_of_cleanResult {x y : Binary64} {precision : Int}
    (h : cleanResult x precision = .ok y) :
    y.isFinite = true ∧ cleanResult y precision = .ok y := by
  unfold cleanResult at h
  split at h
  · cases h
  · next hfinite =>
    have hx : x.isFinite = true := by simpa using hfinite
    split at h
    · next hwhole =>
      obtain rfl := Except.ok.inj h
      refine ⟨hx, ?_⟩
      rw [cleanResult, if_neg hfinite, if_pos hwhole]
    · next hfraction =>
      obtain rfl := Except.ok.inj h
      obtain ⟨hy, hsame⟩ :=
        Binary64.toPlaces_toPlaces x precision hx (Bool.eq_false_iff.2 hfraction)
      refine ⟨hy, ?_⟩
      rw [cleanResult, hsame, hy]
      simp

end Reckoner
