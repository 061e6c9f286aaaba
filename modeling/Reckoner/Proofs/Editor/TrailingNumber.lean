import Mathlib.Data.List.Induction
import Reckoner.Editor.Typing
import Reckoner.Proofs.Number.Notation
import Reckoner.Proofs.Scanning

/-!
# The trailing number of an expression

The trailing number is found from the end of the expression, one run of digits
after the other. It is the longest end of the expression that has digits and at most
one point (`isLongestEnd_trailingNumber`). What percent takes for its operand is a
number that can be read, whatever the expression is (`isNumeral_of_percentOperand?`).
In an expression without a line end, the trailing number is the whole last run of
digits and points, if that run has at most one point (`trailingNumber_append`).
-/

namespace Reckoner.Editor

open Token (isNumeralChar isNumeral)

/-! ### Longest ends -/

/-- Of the ends of `cs` with the property `P`, `s` is the longest. -/
structure IsLongestEnd (P : List Char → Prop) (s cs : List Char) : Prop where
  suffix : s <:+ cs
  holds : P s
  length_le : ∀ t, t <:+ cs → P t → t.length ≤ s.length

namespace IsLongestEnd

variable {P Q : List Char → Prop} {s t run cs : List Char}

theorem unique (hs : IsLongestEnd P s cs) (ht : IsLongestEnd P t cs) : s = t := by
  have hle := ht.length_le s hs.suffix hs.holds
  exact (List.suffix_of_suffix_length_le hs.suffix ht.suffix hle).eq_of_length_le
    (hs.length_le t ht.suffix ht.holds)

/-- Where a property is lost by one character, it is not regained by more of them. -/
theorem of_append (hclosed : ∀ front back, P (front ++ back) → P back) {before : List Char}
    (hs : P s) (hbefore : ∀ c ∈ before.getLast?, ¬ P (c :: s)) :
    IsLongestEnd P s (before ++ s) where
  suffix := List.suffix_append before s
  holds := hs
  length_le t ht hP := by
    rcases List.suffix_or_suffix_of_suffix ht (List.suffix_append before s) with hle | ⟨more, rfl⟩
    · exact hle.length_le
    · rw [List.suffix_append_self_iff] at ht
      cases hlast : more.getLast? with
      | none =>
          obtain rfl := List.getLast?_eq_none_iff.1 hlast
          exact Nat.le_refl _
      | some c =>
          obtain ⟨front, rfl⟩ := List.getLast?_eq_some_iff.1 hlast
          obtain ⟨rest, rfl⟩ := ht
          rw [List.append_assoc] at hP
          exact absurd (hclosed front (c :: s) hP) (hbefore c (by simp))

/-- An end with two properties can be looked for in the longest end with one of them. -/
theorem within (hclosed : ∀ front back, P (front ++ back) → P back) (hrun : IsLongestEnd P run cs)
    (h : IsLongestEnd (fun t => P t ∧ Q t) s cs) : IsLongestEnd Q s run where
  suffix := List.suffix_of_suffix_length_le h.suffix hrun.suffix
    (hrun.length_le s h.suffix h.holds.1)
  holds := h.holds.2
  length_le := by
    rintro t ⟨front, rfl⟩ hQ
    refine h.length_le t ((List.suffix_append front t).trans hrun.suffix) ⟨?_, hQ⟩
    exact hclosed front t hrun.holds

end IsLongestEnd

/-- Every expression is a part before its last run of characters of a class, and that
run, which may be empty. -/
theorem exists_last_run (p : Char → Bool) (cs : List Char) :
    ∃ before run, cs = before ++ run ∧ (∀ c ∈ run, p c = true) ∧
      ∀ c ∈ before.getLast?, p c = false := by
  induction cs using List.reverseRecOn with
  | nil => exact ⟨[], [], rfl, by simp, by simp⟩
  | append_singleton cs c ih =>
      obtain ⟨before, run, rfl, hrun, hbefore⟩ := ih
      cases hc : p c with
      | true =>
          refine ⟨before, run ++ [c], by simp, ?_, hbefore⟩
          simpa [or_imp, forall_and] using ⟨hrun, hc⟩
      | false => exact ⟨before ++ run ++ [c], [], by simp, by simp, by simpa using hc⟩

theorem isLongestEnd_run {p : Char → Bool} {before run : List Char}
    (hrun : ∀ c ∈ run, p c = true) (hbefore : ∀ c ∈ before.getLast?, p c = false) :
    IsLongestEnd (fun t => ∀ c ∈ t, p c = true) run (before ++ run) :=
  .of_append (fun _ _ h c hc => h c (List.mem_append_right _ hc)) hrun fun c hc h =>
    Bool.eq_false_iff.1 (hbefore c hc) (h c List.mem_cons_self)

/-! ### Digits with a point -/

/-- Digits with at most one point. -/
def PointedDigits (cs : List Char) : Prop :=
  (∀ c ∈ cs, isNumeralChar c = true) ∧ cs.count '.' ≤ 1

theorem PointedDigits.of_append (front back : List Char) (h : PointedDigits (front ++ back)) :
    PointedDigits back :=
  ⟨fun c hc => h.1 c (List.mem_append_right _ hc),
    Nat.le_trans (by rw [List.count_append]; omega) h.2⟩

theorem PointedDigits.line_end_notMem {cs : List Char} (h : PointedDigits cs) : '\n' ∉ cs :=
  fun hmem => absurd (h.1 _ hmem) (by decide)

theorem pointedDigits_iff {cs : List Char} :
    PointedDigits cs ↔ ∃ whole fraction, (cs = whole ++ fraction ∨ cs = whole ++ '.' :: fraction) ∧
      (∀ c ∈ whole, c.isDigit) ∧ ∀ c ∈ fraction, c.isDigit := by
  constructor
  · rintro ⟨hrun, hcount⟩
    rcases digits_or_point hrun hcount with hdigits | ⟨whole, fraction, hcs, hdigits⟩
    · exact ⟨[], cs, .inl rfl, by simp, hdigits⟩
    · exact ⟨whole, fraction, .inr hcs, hdigits⟩
  · rintro ⟨whole, fraction, rfl | rfl, hwhole, hfraction⟩
    · have hdigits := List.forall_mem_append.2 ⟨hwhole, hfraction⟩
      refine ⟨fun c hc => isNumeralChar_of_isDigit (hdigits c hc), ?_⟩
      rw [count_point_of_digits hdigits]
      exact Nat.zero_le 1
    · refine ⟨fun c hc => ?_, ?_⟩
      · rw [List.mem_append, List.mem_cons] at hc
        rcases hc with hc | rfl | hc
        · exact isNumeralChar_of_isDigit (hwhole c hc)
        · rfl
        · exact isNumeralChar_of_isDigit (hfraction c hc)
      · rw [List.count_append, List.count_cons_self, count_point_of_digits hwhole,
          count_point_of_digits hfraction]

/-- Nothing but digits and points can make a number longer. -/
theorem PointedDigits.isLongestEnd {before run : List Char} (h : PointedDigits run)
    (hbefore : ∀ c ∈ before.getLast?, isNumeralChar c = false) :
    IsLongestEnd PointedDigits run (before ++ run) :=
  .of_append PointedDigits.of_append h fun c hc h =>
    Bool.eq_false_iff.1 (hbefore c hc) (h.1 c List.mem_cons_self)

/-! ### The trailing number -/

theorem withoutLineEnd_of_not_mem {cs : List Char} (h : '\n' ∉ cs) : withoutLineEnd cs = cs := by
  rw [withoutLineEnd, if_neg]
  exact fun hlast => h (List.mem_of_getLast? hlast)

/-- Read from its end, digits are taken up to the first other character. -/
theorem takeWhile_reverse_append {digits rest : List Char} (hdigits : ∀ c ∈ digits, c.isDigit)
    (hrest : ∀ c ∈ rest.head?, c.isDigit = false) :
    (digits.reverse ++ rest).takeWhile Char.isDigit = digits.reverse := by
  rw [Token.takeWhile_append_of_head hrest, List.takeWhile_eq_self_iff]
  simpa using hdigits

theorem dropWhile_reverse_append {digits rest : List Char} (hdigits : ∀ c ∈ digits, c.isDigit)
    (hrest : ∀ c ∈ rest.head?, c.isDigit = false) :
    (digits.reverse ++ rest).dropWhile Char.isDigit = rest := by
  rw [Token.dropWhile_append_of_head hrest, List.dropWhile_eq_nil_iff.2 (by simpa using hdigits),
    List.nil_append]

theorem trailingNumberRev_digits {digits rest : List Char} (hdigits : ∀ c ∈ digits, c.isDigit)
    (hrest : ∀ c ∈ rest.head?, isNumeralChar c = false) :
    trailingNumberRev (digits.reverse ++ rest) = digits := by
  have hdigit : ∀ c ∈ rest.head?, c.isDigit = false := fun c hc =>
    (Bool.or_eq_false_iff.1 (hrest c hc)).1
  rw [trailingNumberRev, takeWhile_reverse_append hdigits hdigit,
    dropWhile_reverse_append hdigits hdigit]
  split
  · exact absurd (hrest '.' rfl) (by decide)
  · exact List.reverse_reverse digits

theorem trailingNumberRev_point {whole fraction rest : List Char} (hwhole : ∀ c ∈ whole, c.isDigit)
    (hfraction : ∀ c ∈ fraction, c.isDigit) (hrest : ∀ c ∈ rest.head?, c.isDigit = false) :
    trailingNumberRev (fraction.reverse ++ '.' :: (whole.reverse ++ rest)) =
      whole ++ '.' :: fraction := by
  have hpoint : ∀ c ∈ ('.' :: (whole.reverse ++ rest)).head?, c.isDigit = false := by simp
  rw [trailingNumberRev, takeWhile_reverse_append hfraction hpoint,
    dropWhile_reverse_append hfraction hpoint]
  simp only
  rw [takeWhile_reverse_append hwhole hrest, List.reverse_reverse, List.reverse_reverse]

/-- The trailing number is the longest end of an expression that has digits and at most
one point. -/
theorem isLongestEnd_trailingNumber (cs : List Char) :
    IsLongestEnd PointedDigits (trailingNumber cs) (withoutLineEnd cs) := by
  rw [trailingNumber]
  generalize withoutLineEnd cs = body
  obtain ⟨front, fraction, rfl, hfraction, hfront⟩ := exists_last_run Char.isDigit body
  by_cases hpoint : '.' ∈ front.getLast?
  · obtain ⟨front, rfl⟩ := List.getLast?_eq_some_iff.1 hpoint
    obtain ⟨before, whole, rfl, hwhole, hbefore⟩ := exists_last_run Char.isDigit front
    have hhead : ∀ c ∈ before.reverse.head?, c.isDigit = false := by simpa using hbefore
    have hnumber : trailingNumberRev (before ++ whole ++ ['.'] ++ fraction).reverse =
        whole ++ '.' :: fraction := by
      simpa using trailingNumberRev_point hwhole hfraction hhead
    rw [hnumber, List.append_assoc, List.append_assoc]
    refine .of_append PointedDigits.of_append
      (pointedDigits_iff.2 ⟨whole, fraction, .inr rfl, hwhole, hfraction⟩) fun c hc h => ?_
    -- Only a second point could make the number longer.
    obtain rfl : c = '.' := by simpa [isNumeralChar, hbefore c hc] using h.1 c List.mem_cons_self
    have hcount := h.2
    simp at hcount
  · have hnumeral : ∀ c ∈ front.getLast?, isNumeralChar c = false := by
      intro c hc
      have hne : c ≠ '.' := fun h => hpoint (h ▸ hc)
      simp [isNumeralChar, hfront c hc, hne]
    have hnumber : trailingNumberRev (front ++ fraction).reverse = fraction := by
      rw [List.reverse_append]
      exact trailingNumberRev_digits hfraction (by simpa using hnumeral)
    rw [hnumber]
    exact (pointedDigits_iff.2 ⟨[], fraction, .inl rfl, by simp, hfraction⟩).isLongestEnd hnumeral

theorem exists_append_trailingNumber (cs : List Char) :
    ∃ before, withoutLineEnd cs = before ++ trailingNumber cs := by
  obtain ⟨before, h⟩ := (isLongestEnd_trailingNumber cs).suffix
  exact ⟨before, h.symm⟩

/-- A last run with at most one point is the trailing number. -/
theorem trailingNumber_append {before run : List Char} (hmem : '\n' ∉ before ++ run)
    (hbefore : ∀ c ∈ before.getLast?, isNumeralChar c = false)
    (hrun : run = [] ∨ run.all isNumeralChar ∧ isNumeral run) :
    trailingNumber (before ++ run) = run := by
  have hpointed : PointedDigits run := by
    rcases hrun with rfl | ⟨hrun, hnumeral⟩
    · exact ⟨by simp, by simp⟩
    · exact ⟨List.all_eq_true.1 hrun, (isNumeral_iff.1 hnumeral).2⟩
  have h := isLongestEnd_trailingNumber (before ++ run)
  rw [withoutLineEnd_of_not_mem hmem] at h
  exact h.unique (hpointed.isLongestEnd hbefore)

theorem getLast?_of_suffix {t cs : List Char} (hsuffix : t <:+ cs) {c : Char}
    (hc : c ∈ t.getLast?) : c ∈ cs.getLast? := by
  obtain ⟨front, rfl⟩ := hsuffix
  rwa [List.getLast?_append_of_ne_nil front (List.ne_nil_of_mem (List.mem_of_getLast? hc))]

/-- Where an expression ends in a digit, its trailing number ends in this digit. -/
theorem getLast?_trailingNumber {cs : List Char} {d : Char}
    (hd : d ∈ (withoutLineEnd cs).getLast?) (hdigit : d.isDigit) :
    d ∈ (trailingNumber cs).getLast? := by
  have h := isLongestEnd_trailingNumber cs
  obtain ⟨front, hfront⟩ := List.getLast?_eq_some_iff.1 hd
  have hle := h.length_le [d] ⟨front, hfront.symm⟩
    (pointedDigits_iff.2 ⟨[], [d], .inl rfl, by simp, by simpa using hdigit⟩)
  have hlast := List.getLast?_eq_some_getLast (List.ne_nil_of_length_pos hle)
  rwa [Option.mem_unique hd (getLast?_of_suffix h.suffix hlast)]

/-! ### What percent reads -/

theorem percentOperand?_eq_some_iff {cs before number : List Char} :
    percentOperand? cs = some (before, number) ↔
      (∃ c ∈ (withoutLineEnd cs).getLast?, c.isDigit) ∧
        before = (withoutLineEnd cs).take ((withoutLineEnd cs).length - number.length) ∧
        number = trailingNumber cs := by
  simp only [percentOperand?, Option.ite_none_right_eq_some, Option.any_eq_true, Option.some.injEq,
    Prod.mk.injEq, Option.mem_def]
  constructor
  · rintro ⟨hdigit, rfl, rfl⟩
    exact ⟨hdigit, rfl, rfl⟩
  · rintro ⟨hdigit, rfl, rfl⟩
    exact ⟨hdigit, rfl, rfl⟩

theorem percentOperand?_eq_some {cs before : List Char}
    (hcs : withoutLineEnd cs = before ++ trailingNumber cs)
    (hlast : ∃ c ∈ (withoutLineEnd cs).getLast?, c.isDigit) :
    percentOperand? cs = some (before, trailingNumber cs) :=
  percentOperand?_eq_some_iff.2 ⟨hlast, by simp [hcs], rfl⟩

theorem percentOperand?_eq_none_iff {cs : List Char} :
    percentOperand? cs = none ↔ ¬ ∃ c ∈ (withoutLineEnd cs).getLast?, c.isDigit := by
  constructor
  · intro h hlast
    obtain ⟨before, hcs⟩ := exists_append_trailingNumber cs
    rw [percentOperand?_eq_some hcs hlast] at h
    cases h
  · intro hlast
    exact Option.eq_none_iff_forall_ne_some.2 fun s hs => hlast (percentOperand?_eq_some_iff.1 hs).1

/-- What percent takes for its operand is a number. -/
theorem isNumeral_of_percentOperand? {cs before number : List Char}
    (h : percentOperand? cs = some (before, number)) :
    number.all isNumeralChar ∧ isNumeral number := by
  obtain ⟨⟨d, hd, hdigit⟩, -, rfl⟩ := percentOperand?_eq_some_iff.1 h
  obtain ⟨hrun, hcount⟩ := (isLongestEnd_trailingNumber cs).holds
  have hmem := List.mem_of_getLast? (getLast?_trailingNumber hd hdigit)
  exact ⟨List.all_eq_true.2 hrun, isNumeral_iff.2 ⟨⟨d, hmem, hdigit⟩, hcount⟩⟩

theorem exists_ofText?_of_percentOperand? {cs before number : List Char}
    (h : percentOperand? cs = some (before, number)) :
    ∃ x, Binary64.ofText? (String.ofList number) = some x := by
  obtain ⟨hrun, hnumeral⟩ := isNumeral_of_percentOperand? h
  exact isSome_ofText?_of_isNumeral hrun hnumeral

/-- Percent takes the last run for its operand if that run ends in a digit. -/
theorem percentOperand?_append {before run : List Char} (hmem : '\n' ∉ before ++ run)
    (hbefore : ∀ c ∈ before.getLast?, isNumeralChar c = false)
    (hrun : run = [] ∨ run.all isNumeralChar ∧ isNumeral run) :
    percentOperand? (before ++ run) =
      if (before ++ run).getLast?.any Char.isDigit then some (before, run) else none := by
  rw [percentOperand?, trailingNumber_append hmem hbefore hrun, withoutLineEnd_of_not_mem hmem]
  simp

end Reckoner.Editor
