import Mathlib.Data.List.TakeWhile
import Reckoner.Expression.Scan
import Reckoner.Number.Numeral
import Reckoner.Proofs.Number.Nearest

/-!
# Reading a numeral of the scanner

A run of digits with at most one point is read without any of the forms that
`Binary64.ofText?` allows besides: what is read is its digits as a whole number,
divided by a power of ten. So every number token of the scanner can be read:
`isSome_ofText?_of_isNumeral`.
-/

namespace Reckoner

open Token (isNumeralChar isNumeral)

/-! ### Characters of a numeral -/

theorem toNat_of_isDigit {c : Char} (h : c.isDigit) : 48 ≤ c.toNat ∧ c.toNat ≤ 57 := by
  rw [Char.isDigit, Bool.and_eq_true, decide_eq_true_eq, decide_eq_true_eq] at h
  exact ⟨UInt32.le_iff_toNat_le.1 h.1, UInt32.le_iff_toNat_le.1 h.2⟩

theorem toNat_of_isNumeralChar {c : Char} (h : isNumeralChar c) :
    46 ≤ c.toNat ∧ c.toNat ≤ 57 := by
  rw [isNumeralChar, Bool.or_eq_true, beq_iff_eq] at h
  rcases h with hdigit | rfl
  · have := toNat_of_isDigit hdigit
    omega
  · decide

theorem isAsciiBlank_of_isNumeralChar {c : Char} (h : isNumeralChar c) :
    Text.isAsciiBlank c = false := by
  have hc := toNat_of_isNumeralChar h
  have hspace : c ≠ ' ' := by
    rintro rfl
    exact absurd hc (by decide)
  simp only [Text.isAsciiBlank, beq_eq_false_iff_ne.2 hspace, Bool.false_or]
  simp
  omega

theorem toLower_of_isNumeralChar {c : Char} (h : isNumeralChar c) : c.toLower = c := by
  have hc := toNat_of_isNumeralChar h
  refine dif_neg fun hupper => ?_
  have := UInt32.le_iff_toNat_le.1 hupper.1
  have hA : ('A'.val).toNat = 65 := rfl
  have hval : c.toNat = c.val.toNat := rfl
  omega

theorem toAscii?_of_isNumeralChar {run : List Char} (h : ∀ c ∈ run, isNumeralChar c) :
    Binary64.toAscii? run = some run := by
  induction run with
  | nil => rfl
  | cons c run ih =>
      have hc : c.toNat < 127 := by
        have := toNat_of_isNumeralChar (h c (by simp))
        omega
      have ih := ih fun x hx => h x (by simp [hx])
      rw [Binary64.toAscii?] at ih ⊢
      rw [List.mapM_cons, ih]
      simp [hc]

theorem joinGroups?_of_isNumeralChar {run : List Char} (h : ∀ c ∈ run, isNumeralChar c)
    (previous : Char) : Binary64.joinGroups? previous run = some run := by
  induction run generalizing previous with
  | nil => rfl
  | cons c run ih =>
      have hc : c ≠ '_' := by
        rintro rfl
        exact absurd (h '_' (by simp)) (by decide)
      rw [Binary64.joinGroups?, if_neg hc, ih (fun x hx => h x (by simp [hx])) c]
      rfl

theorem trim_of_isNumeralChar {run : List Char} (h : ∀ c ∈ run, isNumeralChar c) :
    Text.trim Text.isAsciiBlank run = run := by
  have hkeep {cs : List Char} (hcs : ∀ c ∈ cs, isNumeralChar c) :
      cs.dropWhile Text.isAsciiBlank = cs := by
    cases cs with
    | nil => rfl
    | cons c cs => simp [isAsciiBlank_of_isNumeralChar (hcs c (by simp))]
  rw [Text.trim, Text.trimEnd, hkeep h, hkeep (by simpa using h), List.reverse_reverse]

theorem splitSign_of_isNumeralChar {run : List Char} (h : ∀ c ∈ run, isNumeralChar c) :
    Numeral.splitSign run = (false, run) := by
  unfold Numeral.splitSign
  split
  · exact absurd (h '-' (by simp)) (by decide)
  · exact absurd (h '+' (by simp)) (by decide)
  · rfl

/-- No name of a number is made of digits and points. -/
theorem ofName?_of_isNumeralChar {run : List Char} (h : ∀ c ∈ run, isNumeralChar c) :
    Binary64.ofName? false (String.ofList (run.map Char.toLower)) = none := by
  have hlower : run.map Char.toLower = run := by
    rw [List.map_congr_left fun c hc => toLower_of_isNumeralChar (h c hc), List.map_id']
  have hne (letter : Char) (hletter : isNumeralChar letter = false) (rest : List Char) :
      run ≠ letter :: rest := by
    rintro rfl
    rw [h letter (by simp)] at hletter
    cases hletter
  have htext (letter : Char) (hletter : isNumeralChar letter = false) (rest : List Char) :
      String.ofList run ≠ String.ofList (letter :: rest) :=
    fun heq => hne letter hletter rest (String.ofList_injective heq)
  rw [hlower, Binary64.ofName?, if_neg, if_neg]
  · exact htext 'n' rfl ['a', 'n']
  · rintro (heq | heq)
    · exact htext 'i' rfl ['n', 'f'] heq
    · exact htext 'i' rfl ['n', 'f', 'i', 'n', 'i', 't', 'y'] heq

/-! ### Runs of digits -/

/-- A run of digits and points is read as an unsigned numeral. -/
theorem ofText?_of_isNumeralChar {run : List Char} (h : ∀ c ∈ run, isNumeralChar c) :
    Binary64.ofText? (String.ofList run) =
      (Numeral.unsigned? false run).map Numeral.toBinary64 := by
  simp [Binary64.ofText?, toAscii?_of_isNumeralChar h, joinGroups?_of_isNumeralChar h,
    trim_of_isNumeralChar h, splitSign_of_isNumeralChar h, ofName?_of_isNumeralChar h]

theorem unsigned?_digits {digits : List Char} (hne : digits ≠ [])
    (hdigits : ∀ c ∈ digits, c.isDigit) :
    Numeral.unsigned? false digits = some ⟨false, Nat.ofDigitChars 10 digits 0, 0⟩ := by
  have htake : digits.takeWhile Char.isDigit = digits := List.takeWhile_eq_self_iff.2 hdigits
  have hdrop : digits.dropWhile Char.isDigit = [] := List.dropWhile_eq_nil_iff.2 hdigits
  have hscale : max (-((digits.length : Int) + 2000)) (min (digits.length + 2000) 0) - 0 = 0 := by
    omega
  simp only [Numeral.unsigned?, Numeral.splitPoint, htake, hdrop, List.append_nil, hne, if_false,
    Numeral.exponent?, Option.map_some, List.length_nil]
  exact congrArg (fun scale => some (Numeral.mk false (Nat.ofDigitChars 10 digits 0) scale)) hscale

theorem unsigned?_point {whole fraction : List Char} (hne : whole ++ fraction ≠ [])
    (hwhole : ∀ c ∈ whole, c.isDigit) (hfraction : ∀ c ∈ fraction, c.isDigit) :
    Numeral.unsigned? false (whole ++ '.' :: fraction) =
      some ⟨false, Nat.ofDigitChars 10 (whole ++ fraction) 0, -(fraction.length : Int)⟩ := by
  have htake : (whole ++ '.' :: fraction).takeWhile Char.isDigit = whole := by
    rw [List.takeWhile_append_of_pos hwhole, List.takeWhile_cons_of_neg (by decide),
      List.append_nil]
  have hdrop : (whole ++ '.' :: fraction).dropWhile Char.isDigit = '.' :: fraction := by
    rw [List.dropWhile_append_of_pos hwhole, List.dropWhile_cons_of_neg (by decide)]
  have htake' : fraction.takeWhile Char.isDigit = fraction :=
    List.takeWhile_eq_self_iff.2 hfraction
  have hdrop' : fraction.dropWhile Char.isDigit = [] := List.dropWhile_eq_nil_iff.2 hfraction
  have hscale (length : Int) (hlength : 0 ≤ length) (n : Int) :
      max (-(length + 2000)) (min (length + 2000) 0) - n = -n := by
    omega
  simp only [Numeral.unsigned?, Numeral.splitPoint, htake, hdrop, htake', hdrop', hne, if_false,
    Numeral.exponent?, Option.map_some]
  rw [hscale _ (Int.natCast_nonneg _)]

/-- Digits are read as the whole number that they write. -/
theorem ofText?_digits {digits : List Char} (hne : digits ≠ [])
    (hdigits : ∀ c ∈ digits, c.isDigit) :
    Binary64.ofText? (String.ofList digits) =
      some (Binary64.ofFraction false (Nat.ofDigitChars 10 digits 0) 1) := by
  have hrun : ∀ c ∈ digits, isNumeralChar c := fun c hc => by simp [isNumeralChar, hdigits c hc]
  rw [ofText?_of_isNumeralChar hrun, unsigned?_digits hne hdigits]
  simp [Numeral.toBinary64]

theorem ofText?_zero : Binary64.ofText? "0" = some (Binary64.zero false) := by
  have hread := ofText?_digits (List.cons_ne_nil '0' []) (List.forall_mem_singleton.2 rfl)
  have hdigits : Nat.ofDigitChars 10 ['0'] 0 = 0 := rfl
  rw [hdigits, Binary64.ofFraction, Nat.zero_mul, Binary64.ofUnits, nearestRank_zero_left] at hread
  exact hread

/-- Digits with a point between them are read as the number that all of them
write, divided by ten for each digit after the point. -/
theorem ofText?_point {whole fraction : List Char} (hne : whole ++ fraction ≠ [])
    (hwhole : ∀ c ∈ whole, c.isDigit) (hfraction : ∀ c ∈ fraction, c.isDigit) :
    Binary64.ofText? (String.ofList (whole ++ '.' :: fraction)) =
      some (Binary64.ofFraction false (Nat.ofDigitChars 10 (whole ++ fraction) 0)
        (tenTo fraction.length)) := by
  have hrun : ∀ c ∈ whole ++ '.' :: fraction, isNumeralChar c := by
    intro c hc
    rw [List.mem_append, List.mem_cons] at hc
    rcases hc with hc | rfl | hc
    · simp [isNumeralChar, hwhole c hc]
    · rfl
    · simp [isNumeralChar, hfraction c hc]
  rw [ofText?_of_isNumeralChar hrun, unsigned?_point hne hwhole hfraction]
  simp [Numeral.toBinary64]

/-- Digits and at most one point are digits, or digits around one point. -/
theorem digits_or_point {run : List Char} (hrun : ∀ c ∈ run, isNumeralChar c)
    (hcount : run.count '.' ≤ 1) :
    (∀ c ∈ run, c.isDigit) ∨
      ∃ whole fraction, run = whole ++ '.' :: fraction ∧
        (∀ c ∈ whole, c.isDigit) ∧ ∀ c ∈ fraction, c.isDigit := by
  have hpart {part : List Char} (hsub : part ⊆ run) (hpoint : '.' ∉ part) :
      ∀ c ∈ part, c.isDigit := by
    intro c hc
    have hchar := hrun c (hsub hc)
    rw [isNumeralChar, Bool.or_eq_true, beq_iff_eq] at hchar
    refine hchar.resolve_right ?_
    rintro rfl
    exact hpoint hc
  by_cases hpoint : '.' ∈ run
  · obtain ⟨whole, fraction, rfl⟩ := List.append_of_mem hpoint
    rw [List.count_append, List.count_cons_self] at hcount
    exact .inr ⟨whole, fraction, rfl, hpart (by simp) (List.count_eq_zero.1 (by omega)),
      hpart (fun c hc => by simp [hc]) (List.count_eq_zero.1 (by omega))⟩
  · exact .inl (hpart (List.Subset.refl run) hpoint)

theorem isNumeral_iff {run : List Char} :
    isNumeral run = true ↔ (∃ c ∈ run, c.isDigit) ∧ run.count '.' ≤ 1 := by
  rw [isNumeral, Bool.and_eq_true, List.any_eq_true, decide_eq_true_eq]

/-- A number token of the scanner is digits, or digits around one point. -/
theorem digits_or_point_of_isNumeral {run : List Char} (hrun : run.all isNumeralChar)
    (h : isNumeral run) :
    (run ≠ [] ∧ ∀ c ∈ run, c.isDigit) ∨
      ∃ whole fraction, run = whole ++ '.' :: fraction ∧ whole ++ fraction ≠ [] ∧
        (∀ c ∈ whole, c.isDigit) ∧ ∀ c ∈ fraction, c.isDigit := by
  obtain ⟨⟨digit, hmem, hdigit⟩, hcount⟩ := isNumeral_iff.1 h
  rcases digits_or_point (List.all_eq_true.1 hrun) hcount with
    hdigits | ⟨whole, fraction, rfl, hwhole, hfraction⟩
  · exact .inl ⟨List.ne_nil_of_mem hmem, hdigits⟩
  · refine .inr ⟨whole, fraction, rfl, ?_, hwhole, hfraction⟩
    intro hnil
    obtain ⟨rfl, rfl⟩ := List.append_eq_nil_iff.1 hnil
    obtain rfl : digit = '.' := by simpa using hmem
    exact absurd hdigit (by decide)

/-- What is read of a number token of the scanner is a fraction without a sign. -/
theorem exists_ofText?_eq_ofFraction {run : List Char} (hrun : run.all isNumeralChar)
    (h : isNumeral run) :
    ∃ num den, Binary64.ofText? (String.ofList run) = some (Binary64.ofFraction false num den) := by
  rcases digits_or_point_of_isNumeral hrun h with
    ⟨hne, hdigits⟩ | ⟨whole, fraction, rfl, hne, hw, hf⟩
  · exact ⟨_, _, ofText?_digits hne hdigits⟩
  · exact ⟨_, _, ofText?_point hne hw hf⟩

/-- So it is a number without a sign, which may be too large to be finite. -/
theorem ofText?_unsigned {run : List Char} (hrun : run.all isNumeralChar) (h : isNumeral run) :
    (∃ rank, Binary64.ofText? (String.ofList run) = some (.finite false rank)) ∨
      Binary64.ofText? (String.ofList run) = some (.infinite false) := by
  obtain ⟨num, den, hread⟩ := exists_ofText?_eq_ofFraction hrun h
  rw [hread, Binary64.ofFraction, Binary64.ofUnits, Binary64.ofRank]
  split
  · next hrank => exact .inl ⟨⟨_, hrank⟩, rfl⟩
  · exact .inr rfl

/-- Every number token of the scanner can be read. -/
theorem isSome_ofText?_of_isNumeral {run : List Char} (hrun : run.all isNumeralChar)
    (h : isNumeral run) : ∃ x, Binary64.ofText? (String.ofList run) = some x := by
  obtain ⟨num, den, hread⟩ := exists_ofText?_eq_ofFraction hrun h
  exact ⟨_, hread⟩

end Reckoner
