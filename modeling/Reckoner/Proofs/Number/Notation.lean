import Mathlib.Data.List.Basic
import Mathlib.Data.Nat.Digits.Defs
import Reckoner.Number.Positional
import Reckoner.Proofs.Number.Nearest
import Reckoner.Proofs.Number.Reading
import Reckoner.Proofs.Number.Rounded

/-!
# Reading what was written

The positional digits of a magnitude are a numeral of the scanner, and they are
read as the magnitude that they write: `ofText?_magnitudeDigits`. A decimal is
written only if it reads back, and with enough places one always does.
-/

namespace Reckoner

open Token (isNumeralChar isNumeral)

/-! ### The shortest decimal -/

/-- Of two neighbours one that reads back is taken. -/
theorem reads_of_takenOf? (reads : Nat → Bool) {below nearer k : Nat}
    (hnearer : nearer = below ∨ nearer = below + 1)
    (h : takenOf? below nearer (reads below) (reads (below + 1)) = some k) : reads k = true := by
  unfold takenOf? at h
  split at h
  · next hbelow habove =>
    obtain rfl := Option.some.inj h
    rcases hnearer with rfl | rfl
    · exact hbelow
    · exact habove
  · next hbelow _ => exact Option.some.inj h ▸ hbelow
  · next _ habove => exact Option.some.inj h ▸ habove
  · cases h

theorem readsAs_of_nearestReading? {rank places k : Nat}
    (h : nearestReading? rank places = some k) : readsAs rank k places = true :=
  reads_of_takenOf? (fun k => readsAs rank k places) (roundDiv_eq_or _ _) h

theorem twoTo_dvd_tenTo (n : Nat) : twoTo n ∣ tenTo n :=
  Dvd.intro (Nat.pow 5 n) (Nat.mul_pow 2 5 n).symm

/-- As many places as the finest magnitude has are enough for each of them. -/
theorem readsAs_finest (rank : Nat) :
    readsAs rank (unitsAt rank * tenTo 1074 / unitsPerOne) 1074 = true := by
  have hdvd : unitsPerOne ∣ unitsAt rank * tenTo 1074 :=
    Dvd.dvd.mul_left (twoTo_dvd_tenTo 1074) _
  rw [readsAs, Nat.div_mul_cancel hdvd, nearestRank_unitsAt_mul rank (tenTo_pos 1074),
    beq_self_eq_true]

/-- The shortest decimal reads back. -/
theorem readsAs_shortestDecimal (rank : Nat) :
    readsAs rank (shortestDecimal rank).1 (shortestDecimal rank).2 = true := by
  rw [shortestDecimal]
  cases hfind : (List.range 1075).findSome? fun places =>
      (nearestReading? rank places).map (·, places) with
  | none => exact readsAs_finest rank
  | some decimal =>
      obtain ⟨places, -, hplaces⟩ := List.exists_of_findSome?_eq_some hfind
      obtain ⟨k, hk, rfl⟩ := Option.map_eq_some_iff.1 hplaces
      exact readsAs_of_nearestReading? hk

/-! ### Digits -/

theorem isDigit_of_mem_toDigits {n : Nat} {c : Char} (h : c ∈ Nat.toDigits 10 n) : c.isDigit :=
  Nat.isDigit_of_mem_toDigits (by decide) (by decide) h

theorem isDigit_of_mem_replicate {count : Nat} {c : Char} (h : c ∈ List.replicate count '0') :
    c.isDigit := by
  rw [List.eq_of_mem_replicate h]
  rfl

/-- The digits of a decimal behind the point. -/
def fractionDigits (k places : Nat) : List Char :=
  let fraction := Nat.toDigits 10 (k % tenTo places)
  List.replicate (places - fraction.length) '0' ++ fraction

theorem decimalDigits_eq (k places : Nat) :
    decimalDigits k places =
      Nat.toDigits 10 (k / tenTo places) ++ '.' :: fractionDigits k places := rfl

theorem isDigit_of_mem_fractionDigits {k places : Nat} {c : Char}
    (h : c ∈ fractionDigits k places) : c.isDigit := by
  rcases List.mem_append.1 h with h | h
  · exact isDigit_of_mem_replicate h
  · exact isDigit_of_mem_toDigits h

/-- There are as many digits behind the point as there are places, but at least
one. -/
theorem length_fractionDigits (k places : Nat) :
    (fractionDigits k places).length = max 1 places := by
  have hpos : 0 < (Nat.toDigits 10 (k % tenTo places)).length :=
    List.length_pos_iff.2 Nat.toDigits_ne_nil
  have hle : (Nat.toDigits 10 (k % tenTo places)).length ≤ max 1 places := by
    refine Nat.toDigits_length 10 _ _ (by omega) ?_
    calc
      k % tenTo places < tenTo places := Nat.mod_lt _ (tenTo_pos places)
      _ ≤ 10 ^ max 1 places := Nat.pow_le_pow_right (by decide) (by omega)
  rw [fractionDigits, List.length_append, List.length_replicate]
  omega

/-- All digits together write the decimal, counted in its last place. -/
theorem ofDigitChars_decimal (k places : Nat) :
    Nat.ofDigitChars 10 (Nat.toDigits 10 (k / tenTo places) ++ fractionDigits k places) 0 =
      tenTo (max 1 places) * (k / tenTo places) + k % tenTo places := by
  have hlength := length_fractionDigits k places
  rw [fractionDigits, List.length_append, List.length_replicate] at hlength
  rw [Nat.ofDigitChars_append, Nat.ofDigitChars_ten_toDigits, fractionDigits,
    Nat.ofDigitChars_append, Nat.ofDigitChars_replicate_zero,
    Nat.ofDigitChars_eq_ofDigitChars_zero, Nat.ofDigitChars_ten_toDigits, ← Nat.mul_assoc,
    ← Nat.pow_add, Nat.add_comm (Nat.toDigits 10 _).length, hlength]
  rfl

theorem ofFraction_mul_mul_right (negative : Bool) (num den : Nat) {c : Nat} (hc : 0 < c) :
    Binary64.ofFraction negative (num * c) (den * c) = Binary64.ofFraction negative num den := by
  rw [Binary64.ofFraction, Binary64.ofFraction, Nat.mul_right_comm, Binary64.ofUnits,
    nearestRank_mul_mul_right _ _ hc, Binary64.ofUnits]

/-- A decimal is read as the fraction that it writes. -/
theorem ofText?_decimalDigits (k places : Nat) :
    Binary64.ofText? (String.ofList (decimalDigits k places)) =
      some (Binary64.ofFraction false k (tenTo places)) := by
  have hne : Nat.toDigits 10 (k / tenTo places) ++ fractionDigits k places ≠ [] := by
    simp [Nat.toDigits_ne_nil]
  rw [decimalDigits_eq, ofText?_point hne (fun _ => isDigit_of_mem_toDigits)
    (fun _ => isDigit_of_mem_fractionDigits), ofDigitChars_decimal, length_fractionDigits]
  cases places with
  | zero =>
      -- Without places a zero is written behind the point, which is one place more.
      have hten : tenTo (max 1 0) = tenTo 0 * 10 := rfl
      rw [tenTo_zero, Nat.div_one, Nat.mod_one, Nat.add_zero, hten, tenTo_zero, Nat.mul_comm,
        ofFraction_mul_mul_right _ _ _ (by decide)]
  | succ places =>
      rw [Nat.max_eq_right (by omega), Nat.div_add_mod]

theorem magnitudeDigits_of_whole {rank : Nat} (h : Binary64.isWholeUnits (unitsAt rank) = true) :
    magnitudeDigits rank = Nat.toDigits 10 (unitsAt rank / unitsPerOne) := by
  unfold magnitudeDigits
  rw [if_pos h]

theorem magnitudeDigits_of_fraction {rank : Nat}
    (h : ¬ Binary64.isWholeUnits (unitsAt rank) = true) :
    magnitudeDigits rank = decimalDigits (shortestDecimal rank).1 (shortestDecimal rank).2 := by
  unfold magnitudeDigits
  rw [if_neg h]

/-- The digits of a magnitude are read as this magnitude. -/
theorem ofText?_magnitudeDigits (rank : Nat) :
    Binary64.ofText? (String.ofList (magnitudeDigits rank)) =
      some (Binary64.ofRank false rank) := by
  by_cases hwhole : Binary64.isWholeUnits (unitsAt rank) = true
  · have hdvd : unitsPerOne ∣ unitsAt rank :=
      Nat.dvd_of_mod_eq_zero (beq_iff_eq.1 hwhole)
    rw [magnitudeDigits_of_whole hwhole,
      ofText?_digits Nat.toDigits_ne_nil fun c hc => isDigit_of_mem_toDigits hc,
      Nat.ofDigitChars_ten_toDigits, Binary64.ofFraction, Nat.div_mul_cancel hdvd,
      Binary64.ofUnits, nearestRank_unitsAt]
  · have hreads := readsAs_shortestDecimal rank
    rw [readsAs, beq_iff_eq] at hreads
    rw [magnitudeDigits_of_fraction hwhole, ofText?_decimalDigits, Binary64.ofFraction,
      Binary64.ofUnits, hreads]

/-! ### The numeral -/

/-- The digits of a magnitude start with a digit and have at most one point, with
digits behind it. -/
theorem exists_magnitudeDigits (rank : Nat) :
    ∃ whole, whole ≠ [] ∧ (∀ c ∈ whole, c.isDigit) ∧
      (magnitudeDigits rank = whole ∨
        ∃ fraction, (∀ c ∈ fraction, c.isDigit) ∧
          magnitudeDigits rank = whole ++ '.' :: fraction) := by
  by_cases hwhole : Binary64.isWholeUnits (unitsAt rank) = true
  · exact ⟨_, Nat.toDigits_ne_nil, fun _ => isDigit_of_mem_toDigits,
      .inl (magnitudeDigits_of_whole hwhole)⟩
  · have hdecimal := magnitudeDigits_of_fraction hwhole
    rw [decimalDigits_eq] at hdecimal
    exact ⟨_, Nat.toDigits_ne_nil, fun _ => isDigit_of_mem_toDigits,
      .inr ⟨_, fun _ => isDigit_of_mem_fractionDigits, hdecimal⟩⟩

theorem isNumeralChar_of_isDigit {c : Char} (h : c.isDigit) : isNumeralChar c := by
  rw [isNumeralChar, h, Bool.true_or]

theorem count_point_of_digits {digits : List Char} (h : ∀ c ∈ digits, c.isDigit) :
    digits.count '.' = 0 :=
  List.count_eq_zero.2 fun hmem => absurd (h '.' hmem) (by decide)

theorem isNumeralChar_of_mem_magnitudeDigits {rank : Nat} {c : Char}
    (h : c ∈ magnitudeDigits rank) : isNumeralChar c := by
  obtain ⟨whole, -, hwhole, heq | ⟨fraction, hfraction, heq⟩⟩ := exists_magnitudeDigits rank
  · rw [heq] at h
    exact isNumeralChar_of_isDigit (hwhole c h)
  · rw [heq, List.mem_append, List.mem_cons] at h
    rcases h with h | rfl | h
    · exact isNumeralChar_of_isDigit (hwhole c h)
    · rfl
    · exact isNumeralChar_of_isDigit (hfraction c h)

theorem exists_head?_magnitudeDigits (rank : Nat) :
    ∃ c ∈ (magnitudeDigits rank).head?, c.isDigit := by
  obtain ⟨whole, hne, hwhole, heq | ⟨fraction, -, heq⟩⟩ := exists_magnitudeDigits rank
  · exact ⟨whole.head hne, heq ▸ List.head?_eq_some_head hne, hwhole _ (List.head_mem hne)⟩
  · refine ⟨whole.head hne, ?_, hwhole _ (List.head_mem hne)⟩
    rw [heq, List.head?_append_of_ne_nil _ hne]
    exact List.head?_eq_some_head hne

theorem count_magnitudeDigits_le (rank : Nat) : (magnitudeDigits rank).count '.' ≤ 1 := by
  obtain ⟨whole, -, hwhole, heq | ⟨fraction, hfraction, heq⟩⟩ := exists_magnitudeDigits rank
  · rw [heq, count_point_of_digits hwhole]
    exact Nat.zero_le 1
  · rw [heq, List.count_append, List.count_cons_self, count_point_of_digits hwhole,
      count_point_of_digits hfraction]

/-- A run of digits and points is a number token if it starts with a digit and
has at most one point. -/
theorem isNumeral_of_head? {run : List Char} (hhead : ∃ c ∈ run.head?, c.isDigit)
    (hcount : run.count '.' ≤ 1) : isNumeral run := by
  obtain ⟨c, hc, hdigit⟩ := hhead
  exact isNumeral_iff.2 ⟨⟨c, List.mem_of_mem_head? hc, hdigit⟩, hcount⟩

/-- The digits of a magnitude are a number token of the scanner. -/
theorem isNumeral_magnitudeDigits (rank : Nat) : isNumeral (magnitudeDigits rank) :=
  isNumeral_of_head? (exists_head?_magnitudeDigits rank) (count_magnitudeDigits_le rank)

/-! ### The sign -/

namespace Binary64

/-- Only a negative number that is not zero is written with a minus. -/
theorem chars_of_sign {negative : Bool} {rank : Fin rankBound}
    (h : negative = true ∧ rank.val ≠ 0) :
    (finite negative rank).chars = '-' :: magnitudeDigits rank := by
  rw [chars, if_pos (Bool.and_eq_true_iff.2 ⟨h.1, bne_iff_ne.2 h.2⟩)]

theorem chars_of_not_sign {negative : Bool} {rank : Fin rankBound}
    (h : ¬ (negative = true ∧ rank.val ≠ 0)) :
    (finite negative rank).chars = magnitudeDigits rank := by
  rw [chars, if_neg]
  intro hsign
  obtain ⟨hnegative, hrank⟩ := Bool.and_eq_true_iff.1 hsign
  exact h ⟨hnegative, bne_iff_ne.1 hrank⟩

theorem chars_unsigned (rank : Fin rankBound) : (finite false rank).chars = magnitudeDigits rank :=
  chars_of_not_sign fun h => Bool.false_ne_true h.1

/-- A finite number is written as digits and points, with no more than a sign before. -/
theorem exists_chars {x : Binary64} (h : x.isFinite = true) :
    ∃ sign digits, (∀ c ∈ sign, c = '-') ∧ digits ≠ [] ∧
      (∀ c ∈ digits, isNumeralChar c = true) ∧ x.chars = sign ++ digits := by
  cases x with
  | infinite => cases h
  | nan => cases h
  | finite negative rank =>
      have hne : magnitudeDigits rank ≠ [] := by
        obtain ⟨c, hc, -⟩ := exists_head?_magnitudeDigits rank
        exact List.ne_nil_of_mem (List.mem_of_mem_head? hc)
      have hdigits : ∀ c ∈ magnitudeDigits rank, isNumeralChar c = true :=
        fun _ => isNumeralChar_of_mem_magnitudeDigits
      by_cases hsign : negative = true ∧ rank.val ≠ 0
      · exact ⟨['-'], _, fun _ => List.mem_singleton.1, hne, hdigits, chars_of_sign hsign⟩
      · exact ⟨[], _, fun _ hc => absurd hc List.not_mem_nil, hne, hdigits,
          chars_of_not_sign hsign⟩

end Binary64

end Reckoner
