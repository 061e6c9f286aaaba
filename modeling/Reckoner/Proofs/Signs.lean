import Reckoner.Proofs.Number.Equality
import Reckoner.Proofs.Scanning
import Reckoner.Proofs.Stages

/-!
# A sign behind an operator

A minus behind an operator has no left operand, and the scanner puts a zero
before it. What follows is a subtraction from that zero, with the strength of a
subtraction: the text has a value exactly if it has one with the zero written
out, and the same one (`evaluate_sign_behind_operator`). The operator before the
zero may bind it more strongly than the minus does, so this is not the value of
the same text with the signed number in parentheses
(`not_equals_of_sign_behind_operator`).
-/

namespace Reckoner

open Token

namespace Token

theorem scanFrom_blanks (previous : Option TokenKind) (position n : Nat) (rest : List Char) :
    scanFrom previous position (List.replicate n ' ' ++ rest) =
      scanFrom previous (position + n) rest := by
  induction n generalizing position with
  | zero => rfl
  | succ n ih =>
      rw [List.replicate_succ, List.cons_append, scanFrom_space, ih, Nat.add_assoc, Nat.add_comm 1]

/-- Where an operand is expected, a minus has the tokens of a minus behind a
zero. -/
theorem scanFrom_sign_eq_ok_iff {previous : Option TokenKind}
    (hprevious : expectsOperand previous = true) (position : Nat) (rest : List Char)
    (tokens : List Token) :
    scanFrom previous position ('-' :: rest) = .ok tokens ↔
      scanFrom previous position ('0' :: '-' :: rest) = .ok tokens := by
  have hmark : ofMark? '-' = some (operator .sub) := ofMark?_char .sub
  have hzero : impliedZero previous (operator .sub) = [number "0"] := by
    simp [impliedZero, hprevious]
  have hnumber : scanFrom previous position (['0'] ++ '-' :: rest) = _ :=
    scanFrom_run previous position (by decide) (by decide) (by simp [isNumeralChar])
  rw [List.singleton_append] at hnumber
  rw [hnumber, scanFrom_mark _ _ _ hmark, scanFrom_mark _ _ _ hmark, hzero,
    impliedZero_of_expectsOperand rfl, Except.map_map_eq, Except.map_eq_ok_iff,
    Except.map_eq_ok_iff]
  constructor
  · rintro ⟨second, h, rfl⟩
    exact ⟨second, scanFrom_of_position h _, rfl⟩
  · rintro ⟨second, h, rfl⟩
    exact ⟨second, scanFrom_of_position h _, rfl⟩

theorem scan_sign_eq_ok_iff (before : List Char) (o : Operator) (n : Nat) (rest : List Char)
    (tokens : List Token) :
    scan (String.ofList (before ++ o.char :: (List.replicate n ' ' ++ '-' :: rest))) = .ok tokens ↔
      scan (String.ofList (before ++ o.char :: (List.replicate n ' ' ++ '0' :: '-' :: rest))) =
        .ok tokens := by
  have hhead (cs : List Char) : ∀ c ∈ (o.char :: cs).head?, isNumeralChar c = false := by simp
  have hsign (position : Nat) :=
    scanFrom_sign_eq_ok_iff (show expectsOperand (some .operator) = true from rfl) position rest
  simp only [scan, String.toList_ofList, scanFrom_append _ _ (hhead _),
    scanFrom_mark _ _ _ (ofMark?_char o), scanFrom_blanks, Except.bind_eq_ok_iff,
    Except.map_eq_ok_iff, kind_operator, hsign]

end Token

/-- A minus behind an operator subtracts from a zero. -/
theorem evaluate_sign_behind_operator (before : List Char) (o : Operator) (n : Nat)
    (rest : List Char) (precision : Int) (value : Binary64) :
    evaluate (String.ofList (before ++ o.char :: (List.replicate n ' ' ++ '-' :: rest)))
        precision = .ok value ↔
      evaluate (String.ofList (before ++ o.char :: (List.replicate n ' ' ++ '0' :: '-' :: rest)))
        precision = .ok value := by
  simp only [evaluate_eq_ok_iff, scan_sign_eq_ok_iff]

/-- The product of two and minus three is minus six with parentheses around the
second factor, and minus three without them. -/
theorem not_equals_of_sign_behind_operator :
    ¬ ∀ (before : List Char) (o : Operator) (n : Nat) (run rest : List Char) (precision : Int)
        (value : Binary64), run.all isNumeralChar → isNumeral run →
      (∀ c ∈ rest.head?, isNumeralChar c = false) →
      evaluate (String.ofList (before ++ o.char :: (List.replicate n ' ' ++
        '(' :: '-' :: (run ++ ')' :: rest)))) precision = .ok value →
      ∃ value', evaluate (String.ofList (before ++ o.char :: (List.replicate n ' ' ++
        '-' :: (run ++ rest)))) precision = .ok value' ∧ value'.Equals value := by
  intro hall
  have hgroup : evaluate "2*(-3)" 12 = .ok (.ofInt (-6)) :=
    Except.eq_ok_of_toOption (by decide +kernel)
  have hsign : evaluate "2*-3" 12 = .ok (.ofInt (-3)) :=
    Except.eq_ok_of_toOption (by decide +kernel)
  obtain ⟨value, hvalue, hequals⟩ :=
    hall ['2'] .mul 0 ['3'] [] 12 (.ofInt (-6)) rfl rfl (by simp) hgroup
  obtain rfl : Binary64.ofInt (-3) = value := Except.ok.inj (hsign.symm.trans hvalue)
  exact absurd hequals (by decide +kernel)

end Reckoner
