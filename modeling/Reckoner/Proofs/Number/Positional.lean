import Mathlib.Data.List.Induction
import Reckoner.Proofs.Number.Equality
import Reckoner.Proofs.Number.Shortest
import Reckoner.Proofs.Scanning

/-!
# Positional numerals

A `Positional` is a numeral of digits with at most one point that has no superfluous character:
no zero in front or behind, no point without places, and no sign on a zero. Two of them with the
same exact value are the same (`Positional.eq_of_value_eq`).

Every finite number is written as one of them, which is read back as the number and is scanned
into a single number token, with a minus behind an implied zero if it is negative. So different
numbers are written differently, apart from the two zeros: `text_positional`.
-/

namespace Reckoner

open Token (isNumeralChar isNumeral)

/-! ### Digits -/

theorem digitChar_toNat {c : Char} (h : c.isDigit) : (c.toNat - 48).digitChar = c := by
  obtain ⟨hlow, hhigh⟩ := toNat_of_isDigit h
  refine Char.toNat_inj.1 ?_
  rw [Nat.toNat_digitChar_of_lt_ten (by omega)]
  omega

theorem ofDigitChars_append_singleton (digits : List Char) (c : Char) :
    Nat.ofDigitChars 10 (digits ++ [c]) 0 = 10 * Nat.ofDigitChars 10 digits 0 + (c.toNat - 48) := by
  rw [Nat.ofDigitChars_append, Nat.ofDigitChars_cons, Nat.ofDigitChars_nil]
  rfl

/-- Digits without a zero in front are the digits of the number that they write. -/
theorem toDigits_ofDigitChars {digits : List Char} (hne : digits ≠ [])
    (hdigits : ∀ c ∈ digits, c.isDigit) (hzero : digits.head? = some '0' → digits = ['0']) :
    Nat.toDigits 10 (Nat.ofDigitChars 10 digits 0) = digits := by
  induction digits using List.reverseRecOn with
  | nil => exact absurd rfl hne
  | append_singleton digits c ih =>
      have hc := hdigits c (by simp)
      have hlt := (toNat_of_isDigit hc).2
      rw [ofDigitChars_append_singleton]
      by_cases hnil : digits = []
      · rw [hnil, Nat.ofDigitChars_nil, Nat.mul_zero, Nat.zero_add,
          Nat.toDigits_of_lt_base (by omega), digitChar_toNat hc, List.nil_append]
      · have hhead : digits.head? ≠ some '0' := by
          intro hhead
          have := hzero (by rw [List.head?_append_of_ne_nil _ hnil, hhead])
          have hlength := congrArg List.length this
          rw [List.length_append, List.length_singleton, List.length_singleton] at hlength
          exact hnil (List.length_eq_zero_iff.1 (by omega))
        have ih := ih hnil (fun x hx => hdigits x (by simp [hx])) fun h => absurd h hhead
        have hpos : 0 < Nat.ofDigitChars 10 digits 0 := by
          by_contra hnot
          rw [Nat.eq_zero_of_not_pos hnot, Nat.toDigits_zero] at ih
          rw [← ih] at hhead
          exact hhead rfl
        rw [← Nat.toDigits_append_toDigits (by decide) hpos (by omega), ih,
          Nat.toDigits_of_lt_base (by omega), digitChar_toNat hc]

theorem toDigits_of_head? {n : Nat} (h : (Nat.toDigits 10 n).head? = some '0') :
    Nat.toDigits 10 n = ['0'] := by
  induction n using Nat.strongRecOn with
  | ind n ih =>
      rcases Nat.lt_or_ge n 10 with hlt | hge
      · rw [Nat.toDigits_of_lt_base hlt] at h ⊢
        rw [List.head?_cons, Option.some_inj] at h
        rw [h]
      · rw [Nat.toDigits_of_base_le (by decide) hge,
          List.head?_append_of_ne_nil _ Nat.toDigits_ne_nil] at h
        have hdigits := ih (n / 10) (Nat.div_lt_self (by omega) (by decide)) h
        have hvalue := congrArg (Nat.ofDigitChars 10 · 0) hdigits
        simp only [Nat.ofDigitChars_ten_toDigits] at hvalue
        have hzero : Nat.ofDigitChars 10 ['0'] 0 = 0 := rfl
        omega

/-- A number that is written with a zero at the end is a multiple of ten, and no other one is. -/
theorem getLast?_eq_zero_iff {digits : List Char} (hne : digits ≠ [])
    (hdigits : ∀ c ∈ digits, c.isDigit) :
    digits.getLast? = some '0' ↔ 10 ∣ Nat.ofDigitChars 10 digits 0 := by
  obtain ⟨digits, c, rfl⟩ := (List.eq_nil_or_concat digits).resolve_left hne
  rw [List.concat_eq_append] at hdigits ⊢
  have hc := hdigits c (by simp)
  obtain ⟨hlow, hhigh⟩ := toNat_of_isDigit hc
  rw [ofDigitChars_append_singleton, List.getLast?_concat, Option.some_inj,
    ← Nat.dvd_add_iff_right (Nat.dvd_mul_right 10 _)]
  constructor
  · rintro rfl
    exact Nat.dvd_zero 10
  · intro hdvd
    rw [← digitChar_toNat hc, Nat.eq_zero_of_dvd_of_lt hdvd (by omega)]
    rfl

theorem ofDigitChars_lt {digits : List Char} (hdigits : ∀ c ∈ digits, c.isDigit) :
    Nat.ofDigitChars 10 digits 0 < 10 ^ digits.length := by
  induction digits using List.reverseRecOn with
  | nil => exact Nat.one_pos
  | append_singleton digits c ih =>
      have ih := ih fun x hx => hdigits x (by simp [hx])
      have hc := (toNat_of_isDigit (hdigits c (by simp))).2
      rw [ofDigitChars_append_singleton, List.length_append, List.length_singleton, Nat.pow_succ]
      omega

/-- As many digits that write the same number are the same. -/
theorem eq_of_ofDigitChars_eq {digits digits' : List Char} (hdigits : ∀ c ∈ digits, c.isDigit)
    (hdigits' : ∀ c ∈ digits', c.isDigit) (hlength : digits.length = digits'.length)
    (h : Nat.ofDigitChars 10 digits 0 = Nat.ofDigitChars 10 digits' 0) : digits = digits' := by
  -- A one in front leaves no zero there.
  have hone {digits : List Char} (hdigits : ∀ c ∈ digits, c.isDigit) :
      Nat.toDigits 10 (10 ^ digits.length + Nat.ofDigitChars 10 digits 0) = '1' :: digits := by
    have hvalue : Nat.ofDigitChars 10 ('1' :: digits) 0 = Nat.ofDigitChars 10 digits 1 := rfl
    rw [Nat.ofDigitChars_eq_ofDigitChars_zero (l := digits), Nat.mul_one] at hvalue
    rw [← hvalue]
    exact toDigits_ofDigitChars (List.cons_ne_nil '1' digits)
      (List.forall_mem_cons.2 ⟨rfl, hdigits⟩) (by simp)
  have heq := hone hdigits
  rw [hlength, h, hone hdigits'] at heq
  exact (List.cons.inj heq).2.symm

/-! ### Canonical numerals -/

/-- A numeral of the form `-?(0|[1-9][0-9]*)(\.[0-9]*[1-9])?` other than `-0`. -/
@[ext]
structure Positional where
  negative : Bool
  whole : List Char
  fraction : List Char
  whole_ne_nil : whole ≠ []
  isDigit_of_mem_whole : ∀ c ∈ whole, c.isDigit
  isDigit_of_mem_fraction : ∀ c ∈ fraction, c.isDigit
  whole_of_head? : whole.head? = some '0' → whole = ['0']
  getLast?_fraction_ne : fraction.getLast? ≠ some '0'
  not_zero_of_negative : negative = true → ¬ (whole = ['0'] ∧ fraction = [])

namespace Positional

/-- The digits with the point between them. -/
def digits (n : Positional) : List Char :=
  if n.fraction = [] then n.whole else n.whole ++ '.' :: n.fraction

/-- The numeral as it is written. -/
def chars (n : Positional) : List Char := if n.negative then '-' :: n.digits else n.digits

/-- The whole number that the digits write without the point. -/
def scaled (n : Positional) : Nat := Nat.ofDigitChars 10 (n.whole ++ n.fraction) 0

/-- The exact value without the sign. -/
def magnitude (n : Positional) : ℚ := n.scaled / 10 ^ n.fraction.length

/-- The exact value. -/
def value (n : Positional) : ℚ := if n.negative then -n.magnitude else n.magnitude

variable {m n : Positional}

theorem isDigit_of_mem (n : Positional) {c : Char} (h : c ∈ n.whole ++ n.fraction) : c.isDigit :=
  (List.mem_append.1 h).elim (n.isDigit_of_mem_whole c) (n.isDigit_of_mem_fraction c)

theorem magnitude_nonneg (n : Positional) : 0 ≤ n.magnitude := by
  unfold magnitude
  positivity

theorem magnitude_eq_iff :
    m.magnitude = n.magnitude ↔
      m.scaled * tenTo n.fraction.length = n.scaled * tenTo m.fraction.length := by
  rw [magnitude, magnitude, div_eq_div_iff (by positivity) (by positivity), ← tenTo_cast,
    ← tenTo_cast, ← Nat.cast_mul, ← Nat.cast_mul, Nat.cast_inj]

/-- The last place is not a zero, so a multiple of ten has no places. -/
theorem fraction_eq_nil (h : 10 ∣ n.scaled) : n.fraction = [] := by
  by_contra hne
  have hlast := (getLast?_eq_zero_iff (List.append_ne_nil_of_right_ne_nil n.whole hne)
    fun _ => n.isDigit_of_mem).2 h
  rw [List.getLast?_append_of_ne_nil _ hne] at hlast
  exact n.getLast?_fraction_ne hlast

theorem length_fraction_le (h : m.magnitude = n.magnitude) :
    n.fraction.length ≤ m.fraction.length := by
  by_contra hlt
  obtain ⟨places, hplaces⟩ := Nat.exists_eq_add_of_lt (Nat.lt_of_not_le hlt)
  rw [magnitude_eq_iff, hplaces, Nat.add_assoc, tenTo_add, Nat.mul_left_comm, Nat.mul_comm n.scaled,
    Nat.mul_right_inj (tenTo_pos _).ne', tenTo_succ, ← Nat.mul_assoc] at h
  rw [fraction_eq_nil ⟨_, h.symm.trans (Nat.mul_comm _ _)⟩] at hplaces
  cases hplaces

theorem scaled_eq (n : Positional) :
    n.scaled = tenTo n.fraction.length * Nat.ofDigitChars 10 n.whole 0 +
      Nat.ofDigitChars 10 n.fraction 0 := by
  rw [scaled, Nat.ofDigitChars_append, Nat.ofDigitChars_eq_ofDigitChars_zero]
  rfl

theorem scaled_fraction_lt (n : Positional) :
    Nat.ofDigitChars 10 n.fraction 0 < tenTo n.fraction.length :=
  ofDigitChars_lt n.isDigit_of_mem_fraction

theorem eq_of_magnitude_eq (h : m.magnitude = n.magnitude) :
    m.whole = n.whole ∧ m.fraction = n.fraction := by
  have hlength := Nat.le_antisymm (length_fraction_le h.symm) (length_fraction_le h)
  have hpos := tenTo_pos n.fraction.length
  have hm := m.scaled_fraction_lt
  have hn := n.scaled_fraction_lt
  rw [magnitude_eq_iff, hlength, Nat.mul_left_inj hpos.ne', scaled_eq, scaled_eq, hlength] at h
  rw [hlength] at hm
  have hwhole : Nat.ofDigitChars 10 m.whole 0 = Nat.ofDigitChars 10 n.whole 0 := by
    have hdiv := congrArg (· / tenTo n.fraction.length) h
    simpa only [Nat.mul_add_div hpos, Nat.div_eq_of_lt hm, Nat.div_eq_of_lt hn, Nat.add_zero]
      using hdiv
  rw [hwhole, Nat.add_left_cancel_iff] at h
  refine ⟨?_, eq_of_ofDigitChars_eq m.isDigit_of_mem_fraction n.isDigit_of_mem_fraction hlength h⟩
  rw [← toDigits_ofDigitChars m.whole_ne_nil m.isDigit_of_mem_whole m.whole_of_head?, hwhole,
    toDigits_ofDigitChars n.whole_ne_nil n.isDigit_of_mem_whole n.whole_of_head?]

theorem magnitude_eq_zero_iff : n.magnitude = 0 ↔ n.whole = ['0'] ∧ n.fraction = [] := by
  rw [magnitude, div_eq_zero_iff, or_iff_left (by positivity), Nat.cast_eq_zero]
  constructor
  · intro h
    have hfraction := fraction_eq_nil (h ▸ Nat.dvd_zero 10)
    rw [scaled, hfraction, List.append_nil] at h
    rw [← toDigits_ofDigitChars n.whole_ne_nil n.isDigit_of_mem_whole n.whole_of_head?, h]
    exact ⟨rfl, hfraction⟩
  · rintro ⟨hwhole, hfraction⟩
    rw [scaled, hwhole, hfraction]
    rfl

/-- A sign does not stand before a zero, so the sign is that of the value. -/
theorem value_neg_iff : n.value < 0 ↔ n.negative = true := by
  rw [value]
  split
  · next hsign =>
    have hpos : 0 < n.magnitude := lt_of_le_of_ne n.magnitude_nonneg fun hzero =>
      n.not_zero_of_negative hsign (magnitude_eq_zero_iff.1 hzero.symm)
    exact iff_of_true (neg_neg_of_pos hpos) hsign
  · next hsign => exact iff_of_false (not_lt.2 n.magnitude_nonneg) hsign

theorem eq_of_value_eq (h : m.value = n.value) : m = n := by
  have hsign : m.negative = n.negative := by
    rw [Bool.eq_iff_iff, ← value_neg_iff, ← value_neg_iff, h]
  have hmagnitude : m.magnitude = n.magnitude := by
    rw [value, value, hsign] at h
    split at h
    · exact neg_inj.1 h
    · exact h
  obtain ⟨hwhole, hfraction⟩ := eq_of_magnitude_eq hmagnitude
  exact Positional.ext hsign hwhole hfraction

/-! ### Of a decimal -/

theorem fractionDigits_ne_nil (k places : Nat) : fractionDigits k places ≠ [] := by
  intro hnil
  have hlength := length_fractionDigits k places
  rw [hnil, List.length_nil] at hlength
  omega

theorem getLast?_fractionDigits_ne {k places : Nat} (hplaces : places ≠ 0) (h : ¬ 10 ∣ k) :
    (fractionDigits k places).getLast? ≠ some '0' := by
  have hne := fractionDigits_ne_nil k places
  have hdigits : ∀ c ∈ Nat.toDigits 10 (k / tenTo places) ++ fractionDigits k places, c.isDigit :=
    fun _ hc => (List.mem_append.1 hc).elim isDigit_of_mem_toDigits isDigit_of_mem_fractionDigits
  rw [← List.getLast?_append_of_ne_nil (Nat.toDigits 10 (k / tenTo places)) hne, Ne,
    getLast?_eq_zero_iff (List.append_ne_nil_of_right_ne_nil _ hne) hdigits, ofDigitChars_decimal,
    Nat.max_eq_right (Nat.one_le_iff_ne_zero.2 hplaces), Nat.div_add_mod]
  exact h

theorem toDigits_eq_zero {n : Nat} (h : Nat.toDigits 10 n = ['0']) : n = 0 := by
  rw [← Nat.ofDigitChars_ten_toDigits (n := n), h]
  rfl

/-- The numeral of a decimal whose last place is not a zero. -/
def ofDecimal (negative : Bool) (k places : Nat) (hreduced : places = 0 ∨ ¬ 10 ∣ k)
    (hsign : negative = true → k ≠ 0) : Positional where
  negative
  whole := Nat.toDigits 10 (k / tenTo places)
  fraction := if places = 0 then [] else fractionDigits k places
  whole_ne_nil := Nat.toDigits_ne_nil
  isDigit_of_mem_whole _ := isDigit_of_mem_toDigits
  isDigit_of_mem_fraction c hc := by
    split at hc
    · cases hc
    · exact isDigit_of_mem_fractionDigits hc
  whole_of_head? := toDigits_of_head?
  getLast?_fraction_ne := by
    split
    · simp
    · next hplaces => exact getLast?_fractionDigits_ne hplaces (hreduced.resolve_left hplaces)
  not_zero_of_negative hnegative := by
    rintro ⟨hwhole, hfraction⟩
    split at hfraction
    · next hplaces =>
      rw [hplaces, tenTo_zero, Nat.div_one] at hwhole
      exact hsign hnegative (toDigits_eq_zero hwhole)
    · exact fractionDigits_ne_nil k places hfraction

section OfDecimal

variable {negative : Bool} {k places : Nat} (hreduced : places = 0 ∨ ¬ 10 ∣ k)
  (hsign : negative = true → k ≠ 0)

theorem whole_ofDecimal :
    (ofDecimal negative k places hreduced hsign).whole = Nat.toDigits 10 (k / tenTo places) := rfl

theorem fraction_ofDecimal :
    (ofDecimal negative k places hreduced hsign).fraction =
      if places = 0 then [] else fractionDigits k places := rfl

theorem digits_ofDecimal :
    (ofDecimal negative k places hreduced hsign).digits =
      if places = 0 then Nat.toDigits 10 k else decimalDigits k places := by
  rw [digits, whole_ofDecimal, fraction_ofDecimal]
  by_cases hplaces : places = 0
  · rw [if_pos hplaces, if_pos rfl, if_pos hplaces, hplaces, tenTo_zero, Nat.div_one]
  · rw [if_neg hplaces, if_neg (fractionDigits_ne_nil k places), if_neg hplaces, decimalDigits_eq]

theorem magnitude_ofDecimal :
    (ofDecimal negative k places hreduced hsign).magnitude = k / 10 ^ places := by
  rw [magnitude, scaled, whole_ofDecimal, fraction_ofDecimal]
  by_cases hplaces : places = 0
  · rw [if_pos hplaces, hplaces, tenTo_zero, Nat.div_one, List.append_nil,
      Nat.ofDigitChars_ten_toDigits, List.length_nil]
  · rw [if_neg hplaces, ofDigitChars_decimal, length_fractionDigits,
      Nat.max_eq_right (Nat.one_le_iff_ne_zero.2 hplaces), Nat.div_add_mod]

end OfDecimal

/-- The numeral as a text. -/
def text (n : Positional) : String := String.ofList n.chars

/-- A number, behind a minus and the zero that the minus implies if the numeral is negative. -/
def tokens (n : Positional) : List Token :=
  if n.negative then [.number "0", .operator .sub, .number (String.ofList n.digits)]
  else [.number (String.ofList n.digits)]

end Positional

/-! ### Numbers -/

namespace Binary64

/-- The number that a text is read as, if its sign is set aside before and given back after. -/
def readBack? (text : String) : Option Binary64 :=
  let parts := Numeral.splitSign text.toList
  (ofText? (String.ofList parts.2)).map fun x => if parts.1 then x.neg else x

/-- The numeral of a finite number. -/
def positional (negative : Bool) (rank : Nat) : Positional :=
  .ofDecimal (negative && rank != 0) (writtenDecimal rank).1 (writtenDecimal rank).2
    (writtenDecimal_reduced rank) fun h =>
      writtenDecimal_ne_zero (bne_iff_ne.1 (Bool.and_eq_true_iff.1 h).2)

variable (negative : Bool) (rank : Fin rankBound)

theorem digits_positional : (positional negative rank).digits = magnitudeDigits rank := by
  rw [positional, Positional.digits_ofDecimal, magnitudeDigits_eq]

theorem text_finite : (finite negative rank).text = (positional negative rank).text := by
  rw [text, Positional.text, chars, Positional.chars, digits_positional]
  rfl

theorem readBack?_text_finite :
    readBack? (finite negative rank).text =
      some (if (finite negative rank).isZero then zero false else finite negative rank) := by
  have hread := ofText?_magnitudeDigits rank
  rw [ofRank_of_lt rank.isLt] at hread
  rw [readBack?, text, String.toList_ofList, isZero]
  by_cases hsign : negative = true ∧ rank.val ≠ 0
  · have hsplit : Numeral.splitSign ('-' :: magnitudeDigits rank) = (true, magnitudeDigits rank) :=
      rfl
    rw [chars_of_sign hsign, hsplit, beq_eq_false_iff_ne.2 hsign.2, hsign.1]
    simp only [hread, neg]
    rfl
  · rw [chars_of_not_sign hsign,
      splitSign_of_isNumeralChar fun _ => isNumeralChar_of_mem_magnitudeDigits]
    simp only [hread]
    by_cases hzero : rank.val = 0
    · obtain rfl : rank = ⟨0, by decide⟩ := Fin.ext hzero
      rfl
    · have hpositive : negative = false := Bool.eq_false_iff.2 fun h => hsign ⟨h, hzero⟩
      rw [beq_eq_false_iff_ne.2 hzero, hpositive]
      rfl

theorem scan_text_finite :
    Token.scan (finite negative rank).text = .ok (positional negative rank).tokens := by
  have hrun (previous : Option TokenKind) (position : Nat) :
      Token.scanFrom previous position (magnitudeDigits rank) =
        .ok [.number (String.ofList (magnitudeDigits rank))] := by
    have hrun : (magnitudeDigits rank).all isNumeralChar = true :=
      List.all_eq_true.2 fun _ => isNumeralChar_of_mem_magnitudeDigits
    have hend : ∀ c ∈ ([] : List Char).head?, isNumeralChar c = false := by simp
    have hscan := Token.scanFrom_run previous position hrun (isNumeral_magnitudeDigits rank) hend
    rw [List.append_nil, Token.scanFrom_nil] at hscan
    exact hscan
  rw [text_finite, Token.scan, Positional.text, String.toList_ofList, Positional.chars,
    Positional.tokens, digits_positional]
  split
  · have hminus : Token.ofMark? '-' = some (.operator .sub) := Token.ofMark?_char .sub
    rw [Token.scanFrom_mark none 0 _ hminus, hrun]
    rfl
  · exact hrun none 0

theorem text_finite_ne : (finite negative rank).text ≠ "-0" := by
  intro h
  have hread := readBack?_text_finite negative rank
  have hzero : readBack? "-0" = some (zero true) := by
    have hsplit : Numeral.splitSign "-0".toList = (true, ['0']) := by decide
    rw [readBack?, hsplit]
    exact congrArg (Option.map neg) ofText?_zero
  rw [h, hzero, Option.some_inj] at hread
  split at hread
  · cases hread
  · next hne => exact hne (hread ▸ rfl)

theorem readBack?_text {x : Binary64} (hx : x.isFinite = true) :
    readBack? x.text = some (if x.isZero then zero false else x) := by
  cases x with
  | finite negative rank => exact readBack?_text_finite negative rank
  | infinite => cases hx
  | nan => cases hx

/-- Only the two zeros are written in the same way. -/
theorem equals_of_text_eq {x y : Binary64} (hx : x.isFinite = true) (hy : y.isFinite = true)
    (h : y.text = x.text) : y.Equals x := by
  have hread := readBack?_text hy
  rw [h, readBack?_text hx, Option.some_inj] at hread
  split at hread
  · next hzero =>
    split at hread
    · next hzero' => exact .inr ⟨hzero', hzero⟩
    · next hne => exact absurd (hread ▸ rfl) hne
  · next hne =>
    split at hread
    · exact absurd (hread ▸ rfl) hne
    · exact .inl hread.symm

end Binary64

/-- A finite number is written as a canonical numeral. The numeral is read back as the number, or
as the zero without a sign for a zero with one, and it is scanned into one number token or into a
difference from zero. No other number is written in the same way, apart from the other zero. -/
theorem text_positional {x : Binary64} (hx : x.isFinite = true) :
    ∃ n : Positional, x.text = n.text ∧ x.text ≠ "-0" ∧
      Binary64.readBack? x.text = some (if x.isZero then .zero false else x) ∧
      Token.scan x.text = .ok n.tokens ∧
      ∀ y : Binary64, y.isFinite = true → y.text = x.text → y.Equals x := by
  cases x with
  | infinite => cases hx
  | nan => cases hx
  | finite negative rank =>
      exact ⟨Binary64.positional negative rank, Binary64.text_finite negative rank,
        Binary64.text_finite_ne negative rank, Binary64.readBack?_text hx,
        Binary64.scan_text_finite negative rank, fun y hy h => Binary64.equals_of_text_eq hx hy h⟩

/-- The number nearest to zero from below, which is written with 324 places. -/
theorem text_positional_finest :
    let x := Binary64.finite true ⟨1, by decide⟩
    x.isFinite = true ∧
    ∃ n : Positional, x.text = n.text ∧ x.text ≠ "-0" ∧
      Binary64.readBack? x.text = some (if x.isZero then .zero false else x) ∧
      Token.scan x.text = .ok n.tokens ∧
      ∀ y : Binary64, y.isFinite = true → y.text = x.text → y.Equals x :=
  ⟨rfl, text_positional rfl⟩

end Reckoner
