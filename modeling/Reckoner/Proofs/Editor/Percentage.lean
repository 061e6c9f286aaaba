import Reckoner.Proofs.Editor.Invariant
import Reckoner.Proofs.Number.Equality
import Reckoner.Proofs.Rejection

/-!
# The percentage of the last number

Percent finds its operand from the end of the expression, and the scanner finds its numbers from
the start. In an expression that ends in a number they agree on what that number is, so the
tokens before it stay and its own token becomes that of its hundredth. There are two exceptions:
a number that ends in a point is left as it is, and the hundredth of a number that is too large to
be finite cannot be scanned (`percent_of_scan`).
-/

namespace Reckoner.Editor

open Token

/-- The last number of an expression, as the scanner and as percent find it. -/
theorem exists_last_number {cs : List Char} {tokens : List Token}
    (hscan : scanFrom none 0 cs = .ok tokens) (hlast : ∃ c ∈ cs.getLast?, isNumeralChar c) :
    ∃ before run first, run.all isNumeralChar ∧ isNumeral run ∧
      (∀ c ∈ before.getLast?, isNumeralChar c = false) ∧ scanFrom none 0 before = .ok first ∧
      tokens = first ++ [number (String.ofList run)] ∧
      percentOperand? cs = if cs.getLast?.any Char.isDigit then some (before, run) else none := by
  have hlegible := (exists_scanFrom_eq_ok_iff none 0 cs).1 ⟨tokens, hscan⟩
  have hend : '\n' ∉ cs := fun hmem => (hlegible.mem_chars _ hmem).elim (by decide) (by decide)
  obtain ⟨before, run, rfl, hrun, hbefore⟩ := exists_last_run isNumeralChar cs
  obtain ⟨c, hc, hnumeral⟩ := hlast
  have hne : run ≠ [] := by
    rintro rfl
    rw [List.append_nil] at hc
    rw [hbefore c hc] at hnumeral
    cases hnumeral
  rw [scanFrom_append_run none 0 hbefore hne hrun, Except.bind_eq_ok_iff] at hscan
  obtain ⟨first, hfirst, htokens⟩ := hscan
  split at htokens
  · next h =>
    have hall : run.all isNumeralChar := List.all_eq_true.2 hrun
    exact ⟨before, run, first, hall, h, hbefore, hfirst, (Except.ok.inj htokens).symm,
      percentOperand?_append hend hbefore (.inr ⟨hall, h⟩)⟩
  · cases htokens

/-! ### The hundredth behind what stands before -/

variable {before : List Char} {first : List Token}

/-- The hundredth of a finite number is written as a number. -/
theorem scanFrom_append_hundredth (hbefore : ∀ c ∈ before.getLast?, isNumeralChar c = false)
    (hfirst : scanFrom none 0 before = .ok first) (rank : Fin rankBound) :
    ∃ n, scanFrom none 0 (before ++ ((Binary64.finite false rank).div hundred).chars) =
        .ok (first ++ [number n]) ∧
      Binary64.ofText? n = some ((Binary64.finite false rank).div hundred) := by
  obtain ⟨rank', hrank'⟩ := exists_div_hundred rank
  have hdigits := typedNumber_magnitudeDigits rank'
  refine ⟨String.ofList (magnitudeDigits rank'), ?_, ?_⟩
  · rw [hrank', Binary64.chars_unsigned,
      scanFrom_append_run none 0 hbefore hdigits.ne_nil hdigits.isNumeralChar_mem, hfirst,
      Except.ok_bind_eq, if_pos (isNumeral_magnitudeDigits rank')]
  · rw [ofText?_magnitudeDigits, Binary64.ofRank_of_lt rank'.isLt, hrank']

/-- The hundredth of a number that is not finite is not finite either, and is not written as a
number. -/
theorem scanFrom_append_infinite (hfirst : scanFrom none 0 before = .ok first) :
    scanFrom none 0 (before ++ ((Binary64.infinite false).div hundred).chars) =
      .error (.invalidCharacter 'i' before.length) := by
  obtain ⟨rank, hrank, -⟩ := exists_hundred
  have hinfinite : (Binary64.infinite false).div hundred = .infinite false := by
    rw [hrank]
    rfl
  have hletter : ∀ c ∈ (Binary64.infinite false).chars.head?, isNumeralChar c = false := by
    simp [Binary64.chars, isNumeralChar]
  rw [hinfinite, scanFrom_append none 0 hletter, hfirst, Except.ok_bind_eq, Nat.zero_add]
  exact Except.map_eq_error_iff.2 (scanFrom_cons_of_not_mem (by decide) (by decide) _ _ _)

/-- Percent on an expression that ends in a number replaces the token of that number by one that
is read as its hundredth. If the expression ends in a point, percent has no effect. If the number
is too large to be finite, no number is written in its place, and the expression cannot be scanned
any more. -/
theorem percent_of_scan {precision : Int} {e : Editor} {tokens : List Token}
    (hscan : scan e.expression = .ok tokens)
    (hlast : ∃ c ∈ e.expression.toList.getLast?, isNumeralChar c) :
    ∃ first n x, tokens = first ++ [number n] ∧ Binary64.ofText? n = some x ∧
      (('.' ∈ e.expression.toList.getLast? ∧ (e.percent precision).editor = e) ∨
        (∃ c ∈ e.expression.toList.getLast?, c.isDigit) ∧
          (x.isFinite = true ∧
              (∃ n', scan (e.percent precision).editor.expression = .ok (first ++ [number n']) ∧
                Binary64.ofText? n' = some (x.div hundred)) ∨
            x.isFinite = false ∧
              ∃ place, scan (e.percent precision).editor.expression =
                .error (.invalidCharacter 'i' place))) := by
  obtain ⟨before, run, first, hrun, hnumeral, hbefore, hfirst, htokens, hoperand⟩ :=
    exists_last_number hscan hlast
  obtain ⟨c, hc, hchar⟩ := hlast
  obtain ⟨x, hx⟩ := isSome_ofText?_of_isNumeral hrun hnumeral
  refine ⟨first, _, x, htokens, hx, ?_⟩
  rw [hc, Option.any_some] at hoperand
  rcases Bool.or_eq_true_iff.1 hchar with hdigit | hpoint
  · refine .inr ⟨⟨c, hc, hdigit⟩, ?_⟩
    rw [if_pos hdigit] at hoperand
    have hafter : scan (e.percent precision).editor.expression =
        scanFrom none 0 (before ++ (x.div hundred).chars) := by
      rw [percent_of_operand hoperand hx, editor_edit]
      exact congrArg (scanFrom none 0) String.toList_ofList
    rw [hafter]
    rcases ofText?_unsigned hrun hnumeral with ⟨rank, hrank⟩ | hinfinite
    · obtain rfl := Option.some.inj (hx.symm.trans hrank)
      exact .inl ⟨rfl, scanFrom_append_hundredth hbefore hfirst rank⟩
    · obtain rfl := Option.some.inj (hx.symm.trans hinfinite)
      exact .inr ⟨rfl, before.length, scanFrom_append_infinite hfirst⟩
  · obtain rfl : c = '.' := beq_iff_eq.1 hpoint
    exact .inl ⟨hc, perform_of_idle precision (.percent hoperand)⟩

/-- The second operand of a sum. -/
theorem percent_of_scan_sum :
    let e := (start "200+50" "…" "Error" 12).editor
    let tokens := [number "200", operator .add, number "50"]
    (scan e.expression = .ok tokens ∧ ∃ c ∈ e.expression.toList.getLast?, isNumeralChar c) ∧
    ∃ first n x, tokens = first ++ [number n] ∧ Binary64.ofText? n = some x ∧
      (('.' ∈ e.expression.toList.getLast? ∧ (e.percent 12).editor = e) ∨
        (∃ c ∈ e.expression.toList.getLast?, c.isDigit) ∧
          (x.isFinite = true ∧
              (∃ n', scan (e.percent 12).editor.expression = .ok (first ++ [number n']) ∧
                Binary64.ofText? n' = some (x.div hundred)) ∨
            x.isFinite = false ∧
              ∃ place, scan (e.percent 12).editor.expression =
                .error (.invalidCharacter 'i' place))) := by
  intro e tokens
  have hscan : scan e.expression = .ok tokens := by decide +kernel
  have hlast : ∃ c ∈ e.expression.toList.getLast?, isNumeralChar c :=
    ⟨'0', by decide +kernel, rfl⟩
  exact ⟨⟨hscan, hlast⟩, percent_of_scan hscan hlast⟩

/-- A number that ends in a point is not replaced by its hundredth. -/
theorem not_percent_of_scan :
    ¬ ∀ (precision : Int) (e : Editor) (first : List Token) (n : String) (x : Binary64),
      scan e.expression = .ok (first ++ [number n]) →
      (∃ c ∈ e.expression.toList.getLast?, isNumeralChar c) → Binary64.ofText? n = some x →
      ∃ n' y, scan (e.percent precision).editor.expression = .ok (first ++ [number n']) ∧
        Binary64.ofText? n' = some y ∧ y.Equals (x.div hundred) := by
  intro hall
  let e : Editor := ⟨"5.", "…", "Error", "5"⟩
  have hkept : (e.percent 12).editor.expression = "5." := by decide +kernel
  have hscan : scan "5." = .ok [number "5."] := by decide +kernel
  have hfive : Binary64.ofText? "5." = some (.ofInt 5) := by decide +kernel
  obtain ⟨n', y, hscan', hy, hequals⟩ := hall 12 e [] "5." (.ofInt 5) hscan
    ⟨'.', by decide +kernel, rfl⟩ hfive
  rw [hkept, hscan] at hscan'
  obtain rfl : n' = "5." := by simpa [number] using hscan'.symm
  obtain rfl := Option.some.inj (hfive.symm.trans hy)
  exact absurd hequals (by decide +kernel)

end Reckoner.Editor
