import Reckoner.Proofs.Editor.Keys
import Reckoner.Text.Pattern

/-!
# Searching for the trailing number

The trailing number is found from the end of an expression. A search from the start finds it too:
for digits, perhaps a point, and more digits, up to the end (`searchEnd?_numberPattern`). The
operand of percent is found by the same pattern with a digit at its end
(`searchEnd?_operandPattern`).

A search goes from left to right, so among the places from which a pattern leads to the end it
takes the first, and what it takes there is the longest end that the pattern takes at all
(`searchEnd?_of_isLongestEnd`). In an expression without line ends this is an end of the last run
of digits and points, which decides what a point and percent do (`trailing_searched`).
-/

namespace Reckoner.Editor

open Token (isNumeralChar)
open Text (Pattern)

/-! ### Searches that find a longest end -/

section Search

variable {p : Pattern} {cs before taken : List Char}

theorem exists_withoutLineEnd (cs : List Char) :
    ∃ rest, cs = withoutLineEnd cs ++ rest ∧ Pattern.isEnd rest = true := by
  rw [withoutLineEnd]
  split
  · next hlast =>
    obtain ⟨front, rfl⟩ := List.getLast?_eq_some_iff.1 hlast
    exact ⟨['\n'], by rw [List.dropLast_concat], rfl⟩
  · exact ⟨[], (List.append_nil cs).symm, rfl⟩

theorem withoutLineEnd_append {rest : List Char} (htaken : '\n' ∉ taken)
    (hrest : Pattern.isEnd rest = true) : withoutLineEnd (taken ++ rest) = taken := by
  rcases Pattern.isEnd_iff.1 hrest with rfl | rfl
  · rw [List.append_nil, withoutLineEnd_of_not_mem htaken]
  · rw [withoutLineEnd, List.getLast?_concat, if_pos rfl, List.dropLast_concat]

theorem withoutLineEnd_append_of_ne_nil {front back : List Char} (hne : back ≠ []) :
    withoutLineEnd (front ++ back) = front ++ withoutLineEnd back := by
  rw [withoutLineEnd, withoutLineEnd, List.getLast?_append_of_ne_nil front hne]
  split
  · exact List.dropLast_append_of_ne_nil hne
  · rfl

/-- A pattern without line ends leads to the end of a text if it takes all of it but a last line
end. -/
theorem matchEnd?_of_takes (hline : ∀ t, p.Takes t → '\n' ∉ t) (h : p.Takes (withoutLineEnd cs)) :
    ∃ rest, p.matchEnd? cs = some (withoutLineEnd cs, rest) := by
  cases hmatch : p.matchEnd? cs with
  | none =>
      obtain ⟨rest, hcs, hrest⟩ := exists_withoutLineEnd cs
      exact absurd h (Pattern.matchEnd?_eq_none_iff.1 hmatch _ rest hcs hrest)
  | some s =>
      obtain ⟨hcs, hrest, htaken⟩ := Pattern.of_matchEnd?_eq_some hmatch
      refine ⟨s.2, ?_⟩
      rw [hcs, withoutLineEnd_append (hline _ htaken) hrest]

theorem matchEnd?_of_not_takes (hline : ∀ t, p.Takes t → '\n' ∉ t)
    (h : ¬ p.Takes (withoutLineEnd cs)) : p.matchEnd? cs = none := by
  rw [Pattern.matchEnd?_eq_none_iff]
  rintro taken rest rfl hrest htaken
  rw [withoutLineEnd_append (hline taken htaken) hrest] at h
  exact h htaken

/-- A search for a pattern without line ends finds the longest end that the pattern takes. -/
theorem searchEnd?_of_isLongestEnd (hline : ∀ t, p.Takes t → '\n' ∉ t)
    (hcs : withoutLineEnd cs = before ++ taken)
    (h : IsLongestEnd p.Takes taken (withoutLineEnd cs)) :
    p.searchEnd? cs = some (before, taken) := by
  obtain ⟨rest, hrest, hend⟩ := exists_withoutLineEnd cs
  rw [hcs] at h
  rw [hcs, List.append_assoc] at hrest
  have hplace : withoutLineEnd (taken ++ rest) = taken :=
    withoutLineEnd_append (hline taken h.holds) hend
  obtain ⟨rest', hmatch⟩ := matchEnd?_of_takes hline (hplace.symm ▸ h.holds)
  rw [hplace] at hmatch
  rw [hrest] at hcs ⊢
  refine Pattern.searchEnd?_append ?_ hmatch
  rintro t ⟨front, rfl⟩ hne
  refine matchEnd?_of_not_takes hline fun htakes => ?_
  -- From a place further left the pattern would take a longer end.
  have hlonger : withoutLineEnd (t ++ (taken ++ rest)) = t ++ taken := by
    rw [List.append_assoc, List.append_assoc,
      withoutLineEnd_append_of_ne_nil (List.append_ne_nil_of_left_ne_nil hne _)] at hcs
    exact List.append_cancel_left hcs
  rw [hlonger] at htakes
  have hle := h.length_le (t ++ taken) ⟨front, (List.append_assoc ..).symm⟩ htakes
  rw [List.length_append] at hle
  exact hne (List.length_eq_zero_iff.1 (by omega))

theorem searchEnd?_of_not_takes (hline : ∀ t, p.Takes t → '\n' ∉ t)
    (h : ∀ t, t <:+ withoutLineEnd cs → ¬ p.Takes t) : p.searchEnd? cs = none := by
  refine Pattern.searchEnd?_eq_none ?_
  rintro t ⟨front, rfl⟩
  refine matchEnd?_of_not_takes hline (h _ ?_)
  rcases eq_or_ne t [] with rfl | hne
  · exact List.nil_suffix
  · rw [withoutLineEnd_append_of_ne_nil hne]
    exact List.suffix_append front _

end Search

/-! ### The patterns -/

/-- Digits, perhaps a point, and then the pattern `last`. -/
def pointedPattern (last : Pattern) : Pattern :=
  .followedBy (.many Char.isDigit) (.followedBy (.optional (.one (· == '.'))) last)

/-- The pattern of a trailing number. -/
def numberPattern : Pattern := pointedPattern (.many Char.isDigit)

/-- The pattern of an operand of percent, which has a digit at its end. -/
def operandPattern : Pattern := pointedPattern (.atLeastOne Char.isDigit)

theorem takes_pointedPattern_iff {last : Pattern} {cs : List Char} :
    (pointedPattern last).Takes cs ↔
      ∃ whole fraction, (cs = whole ++ fraction ∨ cs = whole ++ '.' :: fraction) ∧
        (∀ c ∈ whole, c.isDigit) ∧ last.Takes fraction := by
  constructor
  · rintro ⟨whole, _, rfl, hwhole, point, fraction, rfl, ⟨c, hc, rfl⟩ | rfl, hfraction⟩
    · obtain rfl := beq_iff_eq.1 hc
      exact ⟨whole, fraction, .inr rfl, hwhole, hfraction⟩
    · exact ⟨whole, fraction, .inl rfl, hwhole, hfraction⟩
  · rintro ⟨whole, fraction, rfl | rfl, hwhole, hfraction⟩
    · exact ⟨whole, _, rfl, hwhole, [], fraction, rfl, .inr rfl, hfraction⟩
    · exact ⟨whole, _, rfl, hwhole, ['.'], fraction, rfl, .inl ⟨'.', rfl, rfl⟩, hfraction⟩

theorem takes_numberPattern_iff {cs : List Char} : numberPattern.Takes cs ↔ PointedDigits cs := by
  rw [numberPattern, takes_pointedPattern_iff, pointedDigits_iff]
  rfl

theorem takes_operandPattern_iff {cs : List Char} :
    operandPattern.Takes cs ↔ PointedDigits cs ∧ ∃ c ∈ cs.getLast?, c.isDigit := by
  simp only [operandPattern, takes_pointedPattern_iff, pointedDigits_iff,
    Pattern.takes_atLeastOne_iff]
  constructor
  · rintro ⟨whole, fraction, hcs, hwhole, hne, hfraction⟩
    refine ⟨⟨whole, fraction, hcs, hwhole, hfraction⟩, fraction.getLast hne, ?_,
      hfraction _ (List.getLast_mem hne)⟩
    have hsuffix : fraction <:+ cs := by
      rcases hcs with rfl | rfl
      · exact List.suffix_append whole fraction
      · exact (List.suffix_cons '.' fraction).trans (List.suffix_append whole _)
    exact getLast?_of_suffix hsuffix (List.getLast?_eq_some_getLast hne)
  · rintro ⟨⟨whole, fraction, hcs, hwhole, hfraction⟩, d, hd, hdigit⟩
    rcases eq_or_ne fraction [] with rfl | hne
    · -- Nothing is behind the point, so there is none, and the digits before it can be taken last.
      rw [List.append_nil] at hcs
      rcases hcs with rfl | rfl
      · exact ⟨[], cs, .inl rfl, by simp, List.ne_nil_of_mem (List.mem_of_getLast? hd), hwhole⟩
      · obtain rfl : '.' = d := by simpa using hd
        cases hdigit
    · exact ⟨whole, fraction, hcs, hwhole, hne, hfraction⟩

/-- The trailing number is what a search for its pattern finds, in every expression. -/
theorem searchEnd?_numberPattern {cs before : List Char}
    (hcs : withoutLineEnd cs = before ++ trailingNumber cs) :
    numberPattern.searchEnd? cs = some (before, trailingNumber cs) := by
  have h := isLongestEnd_trailingNumber cs
  refine searchEnd?_of_isLongestEnd (fun t ht => ?_) hcs
    ⟨h.suffix, takes_numberPattern_iff.2 h.holds, fun t hsuffix ht => ?_⟩
  · exact (takes_numberPattern_iff.1 ht).line_end_notMem
  · exact h.length_le t hsuffix (takes_numberPattern_iff.1 ht)

/-- Of several points in a run, the last one is found with the digits around it. -/
example : numberPattern.searchEnd? "7*1.2.35".toList = some ("7*1.".toList, "2.35".toList) := by
  decide

/-- The operand of percent is what a search for its pattern finds, in every expression. -/
theorem searchEnd?_operandPattern (cs : List Char) :
    operandPattern.searchEnd? cs = percentOperand? cs := by
  have hline (t : List Char) (ht : operandPattern.Takes t) : '\n' ∉ t :=
    (takes_operandPattern_iff.1 ht).1.line_end_notMem
  by_cases hlast : ∃ d ∈ (withoutLineEnd cs).getLast?, d.isDigit
  · obtain ⟨before, hcs⟩ := exists_append_trailingNumber cs
    have h := isLongestEnd_trailingNumber cs
    rw [percentOperand?_eq_some hcs hlast]
    obtain ⟨d, hd, hdigit⟩ := hlast
    refine searchEnd?_of_isLongestEnd hline hcs
      ⟨h.suffix, takes_operandPattern_iff.2 ⟨h.holds, d, ?_, hdigit⟩, fun t hsuffix ht => ?_⟩
    · exact getLast?_trailingNumber hd hdigit
    · exact h.length_le t hsuffix (takes_operandPattern_iff.1 ht).1
  · rw [percentOperand?_eq_none_iff.2 hlast]
    refine searchEnd?_of_not_takes hline fun t hsuffix ht => hlast ?_
    obtain ⟨-, d, hd, hdigit⟩ := takes_operandPattern_iff.1 ht
    exact ⟨d, getLast?_of_suffix hsuffix hd, hdigit⟩

/-! ### Behind the last run -/

/-- The longest end of `cs` that has only digits and points. -/
def IsLastRun (run cs : List Char) : Prop :=
  IsLongestEnd (fun t => ∀ c ∈ t, isNumeralChar c = true) run cs

/-- What a point makes of an expression with the last run `run`: nothing new if the run has a
point, and else an expression whose last run has one point, behind a digit. -/
structure PointTyped (run cs after : List Char) : Prop where
  eq_iff : after = cs ↔ '.' ∈ run
  eq_append : '.' ∉ run → after = cs ++ if run = [] then ['0', '.'] else ['.']
  isLastRun : '.' ∉ run → ∃ front d, IsLastRun (front ++ [d, '.']) after ∧ d.isDigit ∧
    (front ++ [d, '.']).count '.' = 1

section Run

variable {before run : List Char}

/-- In an expression without line ends, the trailing number is an end of the last run. -/
theorem isLongestEnd_trailingNumber_run (hmem : '\n' ∉ before ++ run)
    (hrun : ∀ c ∈ run, isNumeralChar c = true)
    (hbefore : ∀ c ∈ before.getLast?, isNumeralChar c = false) :
    IsLongestEnd (fun t => t.count '.' ≤ 1) (trailingNumber (before ++ run)) run := by
  have h := isLongestEnd_trailingNumber (before ++ run)
  rw [withoutLineEnd_of_not_mem hmem] at h
  exact .within (fun _ _ h c hc => h c (List.mem_append_right _ hc))
    (isLongestEnd_run hrun hbefore) h

/-- A run without a point in its longest end with at most one has no point at all. -/
theorem IsLongestEnd.eq_of_not_mem {number : List Char}
    (h : IsLongestEnd (fun t => t.count '.' ≤ 1) number run) (hpoint : '.' ∉ number) :
    number = run := by
  obtain ⟨front, rfl⟩ := h.suffix
  cases hlast : front.getLast? with
  | none => rw [List.getLast?_eq_none_iff.1 hlast, List.nil_append]
  | some c =>
      obtain ⟨rest, rfl⟩ := List.getLast?_eq_some_iff.1 hlast
      have hcount : (c :: number).count '.' ≤ 1 := by
        rw [List.count_cons, List.count_eq_zero.2 hpoint]
        split <;> omega
      have hle := h.length_le (c :: number) ⟨rest, by simp⟩ hcount
      exact absurd hle (by simp)

/-- A point behind a run without one stands behind a digit, which is a zero if the run is empty. -/
theorem exists_digits_of_not_mem (hrun : ∀ c ∈ run, isNumeralChar c = true) (hpoint : '.' ∉ run) :
    ∃ front d, (run ++ if run = [] then ['0', '.'] else ['.']) = front ++ [d, '.'] ∧
      ∀ c ∈ front ++ [d], c.isDigit := by
  rcases run.eq_nil_or_concat with rfl | ⟨front, d, rfl⟩
  · exact ⟨[], '0', rfl, by simp⟩
  · rw [List.concat_eq_append] at hrun hpoint ⊢
    refine ⟨front, d, by simp, fun c hc => ?_⟩
    have hne : c ≠ '.' := fun h => hpoint (h ▸ hc)
    simpa [isNumeralChar, hne] using hrun c hc

theorem pointTyped_typePoint (hmem : '\n' ∉ before ++ run)
    (hrun : ∀ c ∈ run, isNumeralChar c = true)
    (hbefore : ∀ c ∈ before.getLast?, isNumeralChar c = false) :
    PointTyped run (before ++ run) (typePoint (before ++ run)) := by
  have hnumber := isLongestEnd_trailingNumber_run hmem hrun hbefore
  by_cases hpoint : '.' ∈ trailingNumber (before ++ run)
  · have hkept : typePoint (before ++ run) = before ++ run := by
      simp [typePoint, hpoint]
    have hmem : '.' ∈ run := hnumber.suffix.mem hpoint
    exact ⟨iff_of_true hkept hmem, fun h => absurd hmem h, fun h => absurd hmem h⟩
  · have heq := hnumber.eq_of_not_mem hpoint
    rw [heq] at hpoint
    have happend : typePoint (before ++ run) =
        before ++ run ++ if run = [] then ['0', '.'] else ['.'] := by
      rw [typePoint, heq, if_neg (by simpa using hpoint), apply_ite (before ++ run ++ ·)]
    obtain ⟨front, d, hrow, hdigits⟩ := exists_digits_of_not_mem hrun hpoint
    have hsplit : front ++ [d, '.'] = (front ++ [d]) ++ '.' :: [] := by simp
    refine ⟨iff_of_false (fun hkept => ?_) hpoint, fun _ => happend,
      fun _ => ⟨front, d, ?_, hdigits d (by simp), ?_⟩⟩
    · rw [happend, List.append_right_eq_self] at hkept
      split at hkept <;> cases hkept
    · rw [happend, List.append_assoc, hrow, hsplit]
      exact isLongestEnd_run (pointedDigits_iff.2 ⟨_, [], .inr rfl, hdigits, by simp⟩).1 hbefore
    · rw [hsplit, List.count_append, count_point_of_digits hdigits]
      rfl

end Run

/-! ### What is found and what is done with it -/

/-- In an expression with the last run `run`, the searches find `number` behind `before`, and a
point and percent do what this number asks for. -/
structure TrailingSearched (precision : Int) (e : Editor) (run before number : List Char) :
    Prop where
  isLastRun : IsLastRun run e.expression.toList
  isLongestEnd : IsLongestEnd (fun t => t.count '.' ≤ 1) number run
  expression_eq : e.expression.toList = before ++ number
  search_number : numberPattern.searchEnd? e.expression.toList = some (before, number)
  trailingNumber_eq : trailingNumber e.expression.toList = number
  answer_point : (e.push precision ".").answer = .ok ()
  pointTyped : PointTyped run e.expression.toList (e.push precision ".").editor.expression.toList
  search_operand_eq_none_iff : operandPattern.searchEnd? e.expression.toList = none ↔
    ¬ ∃ d ∈ e.expression.toList.getLast?, d.isDigit
  search_operand : (∃ d ∈ e.expression.toList.getLast?, d.isDigit) →
    operandPattern.searchEnd? e.expression.toList = some (before, number)
  percentOperand?_eq :
    percentOperand? e.expression.toList = operandPattern.searchEnd? e.expression.toList
  answer_percent : (e.percent precision).answer = .ok ()
  percent_idle : (¬ ∃ d ∈ e.expression.toList.getLast?, d.isDigit) →
    (e.percent precision).editor = e
  percent_eq : (∃ d ∈ e.expression.toList.getLast?, d.isDigit) →
    ∃ x, Binary64.ofText? (String.ofList number) = some x ∧
      (e.percent precision).editor.expression.toList = before ++ (x.div hundred).chars

/-- In an expression without line ends, the search for a trailing number finds the longest end of
the last run that has at most one point, and so does the search for an operand of percent, unless
the expression does not end in a digit. A point is refused exactly by a run that has one, and else
comes to stand behind a digit; percent keeps everything before its operand. -/
theorem trailing_searched {precision : Int} {e : Editor} (hmem : '\n' ∉ e.expression.toList) :
    ∃ run before number, TrailingSearched precision e run before number := by
  obtain ⟨front, run, hcs, hrun, hfront⟩ := exists_last_run isNumeralChar e.expression.toList
  obtain ⟨before, hnumber⟩ := exists_append_trailingNumber e.expression.toList
  have hbody := withoutLineEnd_of_not_mem hmem
  have hsome := percentOperand?_eq_some hnumber
  have hnone : percentOperand? e.expression.toList = none ↔ _ := percentOperand?_eq_none_iff
  rw [hbody] at hsome hnone
  have hpush : e.push precision "." = e.edit precision (typePoint e.expression.toList) := push_eq ..
  have hedit (cs : List Char) : (e.edit precision cs).editor.expression.toList = cs := by
    rw [editor_edit]
    exact String.toList_ofList
  have hmem' := hcs ▸ hmem
  refine ⟨run, before, trailingNumber e.expression.toList, ?_⟩
  exact {
    isLastRun := hcs ▸ isLongestEnd_run hrun hfront
    isLongestEnd := hcs ▸ isLongestEnd_trailingNumber_run hmem' hrun hfront
    expression_eq := hbody.symm.trans hnumber
    search_number := searchEnd?_numberPattern hnumber
    trailingNumber_eq := rfl
    answer_point := by rw [hpush, answer_edit]
    pointTyped := by
      rw [hpush, hedit, hcs]
      exact pointTyped_typePoint hmem' hrun hfront
    search_operand_eq_none_iff := by rw [searchEnd?_operandPattern, hnone]
    search_operand := fun hlast => by rw [searchEnd?_operandPattern, hsome hlast]
    percentOperand?_eq := (searchEnd?_operandPattern _).symm
    answer_percent := answer_percent precision e
    percent_idle := fun hlast => perform_of_idle precision (.percent (hnone.2 hlast))
    percent_eq := by
      intro hlast
      obtain ⟨x, hx⟩ := exists_ofText?_of_percentOperand? (hsome hlast)
      exact ⟨x, hx, by rw [percent_of_operand (hsome hlast) hx, hedit]⟩ }

/-- A last run with two points, of which the number has only the last. -/
theorem trailing_searched_points :
    let e := (start "7*1.2.35" "…" "Error" 12).editor
    '\n' ∉ e.expression.toList ∧
      ∃ run, TrailingSearched 12 e run "7*1.".toList "2.35".toList := by
  intro e
  have hmem : '\n' ∉ e.expression.toList := by decide +kernel
  have hfound : numberPattern.searchEnd? e.expression.toList =
      some ("7*1.".toList, "2.35".toList) := by decide +kernel
  refine ⟨hmem, ?_⟩
  obtain ⟨run, before, number, h⟩ := trailing_searched hmem
  obtain ⟨rfl, rfl⟩ := Prod.mk.inj (Option.some.inj (hfound.symm.trans h.search_number))
  exact ⟨run, h⟩

end Reckoner.Editor
