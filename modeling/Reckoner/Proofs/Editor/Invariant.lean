import Reckoner.Proofs.Editor.Action
import Reckoner.Proofs.Editor.Typed
import Reckoner.Proofs.Number.Rounded

/-!
# What an editor holds

Whatever is done to a new editor, its expression stays typed, so that it can always
be scanned: `typed_run`. A result that replaces the expression is typed because it is
finite, and a hundredth because the number that percent is applied to is finite.
-/

namespace Reckoner.Editor

/-! ### Written numbers -/

theorem typedNumber_magnitudeDigits (rank : Nat) : TypedNumber (magnitudeDigits rank) where
  isNumeralChar_mem _ := isNumeralChar_of_mem_magnitudeDigits
  head_isDigit := exists_head?_magnitudeDigits rank
  count_point_le := count_magnitudeDigits_le rank

/-- A finite number is written as it could be typed. -/
theorem typed_chars {x : Binary64} (h : x.isFinite = true) : Typed x.chars := by
  cases x with
  | infinite => cases h
  | nan => cases h
  | finite negative rank =>
      by_cases hsign : negative = true ∧ rank.val ≠ 0
      · have hminus : Typed ([] ++ [Operator.sub.char]) := typed_nil.typeOperator .sub
        rw [Binary64.chars_of_sign hsign, ← List.singleton_append]
        exact hminus.append_number (by simp) (typedNumber_magnitudeDigits rank)
      · rw [Binary64.chars_of_not_sign hsign, ← List.nil_append (magnitudeDigits _)]
        exact typed_nil.append_number (by simp) (typedNumber_magnitudeDigits rank)

/-- One hundred is finite and at least one. -/
theorem exists_hundred :
    ∃ rank : Fin rankBound, hundred = .finite false rank ∧ unitsPerOne ≤ unitsAt rank :=
  ⟨⟨4636737291354636288, by decide⟩, by decide +kernel, by decide +kernel⟩

/-- A hundredth is not greater than the number. -/
theorem exists_div_hundred (rank : Fin rankBound) :
    ∃ rank', (Binary64.finite false rank).div hundred = .finite false rank' := by
  obtain ⟨divisor, hdivisor, hle⟩ := exists_hundred
  have hpos : 0 < unitsAt divisor := Nat.lt_of_lt_of_le unitsPerOne_pos hle
  have hne : divisor.val ≠ 0 := by
    intro hzero
    rw [hzero, unitsAt_zero] at hpos
    exact absurd hpos (by decide)
  have hlt : nearestRank (unitsAt rank * unitsPerOne) (unitsAt divisor) < rankBound :=
    Nat.lt_of_le_of_lt (nearestRank_le_of_le hpos (Nat.mul_le_mul_left _ hle)) rank.isLt
  refine ⟨⟨_, hlt⟩, ?_⟩
  rw [hdivisor, Binary64.div, if_neg hne, Binary64.ofUnits, Binary64.ofRank_of_lt hlt]
  rfl

/-! ### Actions -/

/-- What percent takes for its operand, if it takes anything, is read as a finite
number. -/
def FiniteOperand (cs : List Char) : Prop :=
  ∀ before number, percentOperand? cs = some (before, number) →
    ∃ x, Binary64.ofText? (String.ofList number) = some x ∧ x.isFinite = true

theorem Typed.percent {cs before number : List Char} {x : Binary64} (h : Typed cs)
    (hoperand : percentOperand? cs = some (before, number))
    (hread : Binary64.ofText? (String.ofList number) = some x) (hfinite : x.isFinite = true) :
    Typed (before ++ (x.div hundred).chars) := by
  obtain ⟨hrun, hnumeral⟩ := isNumeral_of_percentOperand? hoperand
  obtain ⟨front, last, rfl, hfront, hlast, hnumber⟩ := h.exists_last_number
  rw [percentOperand?_append h.line_end_notMem hlast (isNumeral_of_typedNumber hnumber),
    Option.ite_none_right_eq_some, Option.some.injEq] at hoperand
  obtain ⟨-, rfl, rfl⟩ := hoperand
  rcases ofText?_unsigned hrun hnumeral with ⟨rank, hrank⟩ | hinfinite
  · obtain rfl := Option.some.inj (hread.symm.trans hrank)
    obtain ⟨rank', hrank'⟩ := exists_div_hundred rank
    rw [hrank', Binary64.chars_unsigned]
    exact hfront.append_number hlast (typedNumber_magnitudeDigits rank')
  · obtain rfl := Option.some.inj (hread.symm.trans hinfinite)
    cases hfinite

/-- What a command makes of a typed expression is typed. -/
theorem Edits.typed {precision : Int} {cs after : List Char} {c : Command}
    (h : Edits precision cs c after) (hcs : Typed cs) (hpercent : c = .percent → FiniteOperand cs) :
    Typed after := by
  cases h with
  | @push value _ h =>
      rw [pushed?] at h
      split at h
      · exact hcs.type? h
      · cases h
  | backspace => exact hcs.dropLast
  | clear => exact typed_nil
  | percent hoperand hread =>
      obtain ⟨x, hx, hfinite⟩ := hpercent rfl _ _ hoperand
      obtain rfl := Option.some.inj (hread.symm.trans hx)
      exact hcs.percent hoperand hread hfinite
  | preview => exact hcs
  | calculate h => exact typed_chars (isFinite_of_evaluate h)

theorem typed_after {precision : Int} {e : Editor} {a : Action} (h : Typed e.expression.toList)
    (hpercent : a.command? = some .percent → FiniteOperand e.expression.toList) :
    Typed (e.after precision a).expression.toList := by
  rcases expression_after precision e a with ⟨c, hcommand, hedits⟩ | hkept
  · refine hedits.typed h fun hc => hpercent ?_
    rw [hcommand, hc]
  · rwa [hkept]

/-- Whatever is done to a new editor, its expression can be scanned: it has only the
characters of lexemes, each of its runs of digits and points starts with a digit and
has at most one point, and no two operators are neighbours. -/
theorem typed_run {previewPlaceholder errorPlaceholder : String} {precision : Int}
    {actions : List Action}
    (hpercent : ∀ first a rest, actions = first ++ a :: rest → a.command? = some .percent →
      FiniteOperand (((start "" previewPlaceholder errorPlaceholder precision).editor.run precision
        first).expression.toList)) :
    let e := (start "" previewPlaceholder errorPlaceholder precision).editor.run precision actions
    Typed e.expression.toList ∧ ∃ tokens, Token.scan e.expression = .ok tokens := by
  intro e
  suffices h : Typed e.expression.toList from
    ⟨h, (exists_scanFrom_eq_ok_iff none 0 _).2 h.legible⟩
  induction actions using List.reverseRecOn with
  | nil =>
      have hexpression : e.expression = "" := by
        simp only [e, run_nil, editor_start, refreshed]
      rw [hexpression]
      exact typed_nil
  | append_singleton actions a ih =>
      simp only [e, run_append_singleton]
      refine typed_after (ih fun first b rest hsplit => ?_) (hpercent actions a [] rfl)
      exact hpercent first b (rest ++ [a]) (by rw [hsplit, List.append_assoc, List.cons_append])

/-- A percentage that is taken, and calculated. -/
theorem typed_run_percentage :
    let e := (start "" "…" "Error" 12).editor.run 12
      [.key "5", .key "0", .key "%", .command .calculate]
    Typed e.expression.toList ∧ ∃ tokens, Token.scan e.expression = .ok tokens := by
  refine typed_run fun first a rest hsplit ha => ?_
  match first, hsplit with
  | [], hsplit =>
      cases hsplit
      exact absurd ha (by decide)
  | [_], hsplit =>
      cases hsplit
      exact absurd ha (by decide)
  | [_, _], hsplit =>
      cases hsplit
      have hexpression : ((start "" "…" "Error" 12).editor.run 12 [.key "5", .key "0"]).expression =
          "50" := by
        decide +kernel
      rw [hexpression]
      intro before number hoperand
      obtain ⟨rfl, rfl⟩ : [] = before ∧ ['5', '0'] = number :=
        Prod.mk.inj (Option.some.inj hoperand)
      exact ⟨.ofInt 50, by decide +kernel, by decide +kernel⟩
  | [_, _, _], hsplit =>
      cases hsplit
      cases ha
  | _ :: _ :: _ :: _ :: _, hsplit => simp at hsplit

end Reckoner.Editor
