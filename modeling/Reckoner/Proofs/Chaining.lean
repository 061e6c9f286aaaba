import Reckoner.Proofs.Meaning
import Reckoner.Proofs.Number.Equality
import Reckoner.Proofs.Number.Notation
import Reckoner.Proofs.Number.Rounded
import Reckoner.Proofs.Stages

/-!
# Evaluating a written result

A finite number is written as a numeral, with a minus before it if the number
is negative, and the minus is read as the difference from zero. Both readings
are exact, so what is written is evaluated to the number itself; only the sign
of a zero is lost. As a result is rounded already, rounding leaves it as it is:
`evaluate_text_of_evaluate`.
-/

namespace Reckoner

open Token (isNumeralChar isNumeral)

theorem Tree.value_leaf_zero : (leaf "0").value = .ok (.zero false) := by
  rw [value, ofText?_zero]

/-- A sign means the difference from zero. -/
theorem Tree.value_signed (t : Tree) :
    (node Operator.sub.symbol (leaf "0") t).value =
      t.value.map fun x => (Binary64.zero false).sub x := by
  have hsub : Operator.sub ≠ .div := by decide
  rw [value_node, value_leaf_zero, Except.ok_bind_eq]
  cases t.value with
  | error cause => rfl
  | ok x => exact applySymbol_of_ne_div hsub _ x

theorem Tree.value_leaf_magnitudeDigits (rank : Fin rankBound) :
    (leaf (String.ofList (magnitudeDigits rank))).value = .ok (.finite false rank) := by
  rw [value, ofText?_magnitudeDigits, Binary64.ofRank_of_lt rank.isLt]

theorem phrase_magnitudeDigits (p rank : Nat) :
    Phrase p (magnitudeDigits rank) (.leaf (String.ofList (magnitudeDigits rank))) :=
  .numeral p (List.all_eq_true.2 fun _ => isNumeralChar_of_mem_magnitudeDigits)
    (isNumeral_magnitudeDigits rank)

/-- What is written of a finite number is an expression, and its value is the
number itself, or zero without a sign for a zero with one. -/
theorem exists_phrase_chars (negative : Bool) (rank : Fin rankBound) :
    ∃ t, Phrase 0 (Binary64.finite negative rank).chars t ∧
      (rank.val ≠ 0 → t.value = .ok (.finite negative rank)) ∧
      (rank.val = 0 → t.value = .ok (.zero false)) := by
  have hdigits := Tree.value_leaf_magnitudeDigits rank
  have hnumeral (p : Nat) := phrase_magnitudeDigits p rank
  by_cases hsign : negative = true ∧ rank.val ≠ 0
  · rw [Binary64.chars_of_sign hsign]
    refine ⟨_, .signed (Nat.zero_le _) (hnumeral _), fun hrank => ?_, fun hrank => ?_⟩
    · rw [Tree.value_signed, hdigits, Except.map_ok_eq, Binary64.zero_sub_finite hrank, hsign.1]
    · exact absurd hrank hsign.2
  · rw [Binary64.chars_of_not_sign hsign]
    refine ⟨_, hnumeral 0, fun hrank => ?_, fun hrank => ?_⟩
    · have hpositive : negative = false := Bool.eq_false_iff.2 fun h => hsign ⟨h, hrank⟩
      rw [hdigits, hpositive]
    · have hzero : rank = ⟨0, by decide⟩ := Fin.ext hrank
      rw [hdigits, hzero, Binary64.zero]

theorem cleanResult_zero (negative : Bool) (precision : Int) :
    cleanResult (.zero negative) precision = .ok (.zero negative) := by
  rw [cleanResult, Binary64.isIntegral_zero]
  rfl

/-- A result that is written and evaluated again gives an equal number, the same
one unless it is the negative zero, and the same text. -/
theorem evaluate_text_of_evaluate {text : String} {precision : Int} {v : Binary64}
    (h : evaluate text precision = .ok v) :
    ∃ w, evaluate v.text precision = .ok w ∧ w.Equals v ∧
      (v ≠ Binary64.zero true → w = v) ∧ w.text = v.text := by
  obtain ⟨-, -, x, -, -, -, hclean⟩ := evaluate_eq_ok_iff.1 h
  obtain ⟨hfinite, hsame⟩ := cleanResult_of_cleanResult hclean
  cases v with
  | infinite => cases hfinite
  | nan => cases hfinite
  | finite negative rank =>
      obtain ⟨t, hphrase, hvalue, hvalueZero⟩ := exists_phrase_chars negative rank
      have heval := hphrase.evaluate_eq precision
      by_cases hzero : rank.val = 0
      · have hrank : rank = ⟨0, by decide⟩ := Fin.ext hzero
        rw [hvalueZero hzero, Except.ok_bind_eq, cleanResult_zero] at heval
        refine ⟨.zero false, heval, .inr ⟨rfl, ?_⟩, fun hne => ?_, ?_⟩
        · rw [hrank]
          rfl
        · cases negative with
          | false => rw [hrank, Binary64.zero]
          | true => exact absurd (by rw [hrank, Binary64.zero]) hne
        · rw [Binary64.text, Binary64.text, Binary64.zero,
            Binary64.chars_of_not_sign fun h => h.2 rfl,
            Binary64.chars_of_not_sign fun h => h.2 hzero, hrank]
      · rw [hvalue hzero, Except.ok_bind_eq, hsame] at heval
        exact ⟨_, heval, .refl _, fun _ => rfl, rfl⟩

/-- A negative result whose last places were rounded away. -/
theorem evaluate_text_of_evaluate_third :
    let v := Binary64.ofFraction true 333333333333 (tenTo 12)
    evaluate "-1/3" 12 = .ok v ∧
      ∃ w, evaluate v.text 12 = .ok w ∧ w.Equals v ∧ (v ≠ Binary64.zero true → w = v) ∧
        w.text = v.text := by
  intro v
  have h : evaluate "-1/3" 12 = .ok v := Except.eq_ok_of_toOption (by decide +kernel)
  exact ⟨h, evaluate_text_of_evaluate h⟩

/-! ### Any number -/

/-- A finite number that is written and evaluated is rounded, and a zero has lost its
sign before. -/
theorem evaluate_text_finite (negative : Bool) (rank : Fin rankBound) (precision : Int) :
    evaluate (Binary64.finite negative rank).text precision =
      (cleanResult (if rank.val = 0 then .zero false else .finite negative rank) precision).mapError
        .failure := by
  obtain ⟨t, hphrase, hvalue, hvalueZero⟩ := exists_phrase_chars negative rank
  rw [Binary64.text, hphrase.evaluate_eq]
  by_cases hzero : rank.val = 0
  · rw [hvalueZero hzero, Except.ok_bind_eq, if_pos hzero]
  · rw [hvalue hzero, Except.ok_bind_eq, if_neg hzero]

theorem text_zero (negative : Bool) : (Binary64.zero negative).text = "0" := by
  cases negative <;> decide +kernel

/-- A rounded number that is written and evaluated gives an equal number, which is written the
same again. -/
theorem exists_evaluate_text {x v : Binary64} {precision : Int}
    (h : cleanResult x precision = .ok v) :
    ∃ w, evaluate v.text precision = .ok w ∧ w.Equals v ∧ w.text = v.text := by
  obtain ⟨hfinite, hsame⟩ := cleanResult_of_cleanResult h
  cases v with
  | infinite => cases hfinite
  | nan => cases hfinite
  | finite negative rank =>
      rw [evaluate_text_finite]
      by_cases hzero : rank.val = 0
      · obtain rfl : rank = ⟨0, by decide⟩ := Fin.ext hzero
        rw [if_pos rfl, cleanResult_zero]
        exact ⟨_, rfl, Binary64.zero_equals_zero false negative,
          (text_zero false).trans (text_zero negative).symm⟩
      · rw [if_neg hzero, hsame]
        exact ⟨_, rfl, .refl _, rfl⟩

end Reckoner
