import Reckoner.Proofs.Legibility
import Reckoner.Proofs.Meaning
import Reckoner.Proofs.Nesting
import Reckoner.Proofs.Number.Rounded
import Reckoner.Proofs.Stages

/-!
# How an evaluation ends

Every text comes to one of four ends, the same at every precision: it is not
legible, its parentheses are not balanced, its value cannot be computed, or it
has a finite value (`evaluate_cases`). So no fault but the failures of the three
stages ever shows, and the stage is known from the text:
`evaluate_classified`.
-/

namespace Reckoner

open Token

/-- The evaluation of a text fails at the given stage. -/
def FailsAt (stage : Failure.Stage) (text : String) (precision : Int) : Prop :=
  ∃ cause, evaluate text precision = .error (.failure cause) ∧ cause.kind.stage = stage

namespace Token

theorem stage_of_scanFrom {previous : Option TokenKind} {position : Nat} {cs : List Char}
    {cause : Failure} (h : scanFrom previous position cs = .error cause) :
    cause.kind.stage = .scanning := by
  fun_induction scanFrom previous position cs with
  | case1 => cases h
  | case2 _ _ _ ih => exact ih h
  | case3 _ _ _ _ _ _ _ _ ih => exact ih (Except.map_eq_error_iff.1 h)
  | case4 =>
      obtain rfl := Except.error.inj h
      rfl
  | case5 _ _ _ _ _ _ _ _ ih => exact ih (Except.map_eq_error_iff.1 h)
  | case6 =>
      obtain rfl := Except.error.inj h
      rfl

/-- The tokens of the scanner but the parentheses can be reduced. -/
theorem reducible_of_lexical {t : Token} (ht : Lexical t) (hparen : t.isParen = false) :
    Reducible t := by
  cases ht with
  | number hrun hnumeral =>
      obtain ⟨x, hx⟩ := isSome_ofText?_of_isNumeral hrun hnumeral
      exact .number hx
  | operator o => exact .operator o
  | leftParen => cases hparen
  | rightParen => cases hparen

/-- They are kept from a result by nothing but a failure of that stage. -/
theorem stage_of_reduceFrom {stack : List Binary64} {ordered : List Token}
    (hordered : ∀ t ∈ ordered, t.isParen = false ∧ Lexical t) {fault : Fault}
    (h : reduceFrom stack ordered = .error fault) :
    ∃ cause, fault = .failure cause ∧ cause.kind.stage = .reduction := by
  obtain ⟨before, t, after, middle, rfl, -, hstep⟩ := exists_split_of_reduceFrom h
  obtain ⟨hparen, hlexical⟩ := hordered t (by simp)
  obtain ⟨o, -, ⟨-, rfl⟩ | ⟨b, a, rest, -, -, -, rfl⟩⟩ :=
    reduceStep_eq_error (reducible_of_lexical hlexical hparen) hstep
  · exact ⟨_, rfl, rfl⟩
  · exact ⟨_, rfl, rfl⟩

/-- The reduction fails at every precision for the same cause, or has a finite
result at every precision. -/
theorem reduce_cases {ordered : List Token}
    (hordered : ∀ t ∈ ordered, t.isParen = false ∧ Lexical t) :
    (∃ cause : Failure, cause.kind.stage = .reduction ∧
        ∀ precision, reduce ordered precision = .error (.failure cause)) ∨
      ∀ precision, ∃ value, reduce ordered precision = .ok value ∧ value.isFinite = true := by
  cases hreduce : reduceFrom [] ordered with
  | error fault =>
      obtain ⟨cause, rfl, hstage⟩ := stage_of_reduceFrom hordered hreduce
      exact .inl ⟨cause, hstage, reduce_of_error hreduce⟩
  | ok stack =>
      by_cases hlength : stack.length = 1
      · obtain ⟨x, rfl⟩ := List.length_eq_one_iff.1 hlength
        cases hfinite : x.isFinite with
        | false =>
            refine .inl ⟨.nonFiniteResult x, rfl, fun precision => ?_⟩
            rw [reduce_of_singleton hreduce, cleanResult_of_not_isFinite hfinite]
            rfl
        | true =>
            refine .inr fun precision => ?_
            obtain ⟨value, hvalue⟩ := exists_cleanResult hfinite precision
            refine ⟨value, ?_, (cleanResult_of_cleanResult hvalue).1⟩
            rw [reduce_of_singleton hreduce, hvalue]
            rfl
      · exact .inl ⟨_, rfl, reduce_of_length_ne_one hreduce hlength⟩

/-- The parentheses of a text decide whether its tokens can be ordered. -/
theorem toPostfix_cases {text : String} {tokens : List Token} (hscan : scan text = .ok tokens) :
    (¬ Balanced text.toList ∧
        ∃ cause, toPostfix tokens = .error cause ∧ cause.kind.stage = .ordering) ∨
      (Balanced text.toList ∧ ∃ ordered, toPostfix tokens = .ok ordered) := by
  have hdecides := decides_toPostfix tokens
  rw [filterMap_paren_of_scanFrom hscan] at hdecides
  rw [balanced_iff]
  cases hnesting : Paren.nesting? 0 (text.toList.filterMap Paren.ofChar?) with
  | none =>
      rw [hnesting] at hdecides
      exact .inl ⟨by simp, _, hdecides, rfl⟩
  | some depth =>
      rw [hnesting] at hdecides
      cases depth with
      | zero => exact .inr ⟨rfl, hdecides⟩
      | succ depth => exact .inl ⟨by simp, _, hdecides, rfl⟩

end Token

/-- Every text comes to one of four ends, the same at every precision. -/
theorem evaluate_cases (text : String) :
    (¬ Legible text.toList ∧ ∃ cause : Failure, cause.kind.stage = .scanning ∧
        ∀ precision, evaluate text precision = .error (.failure cause)) ∨
      (Legible text.toList ∧ ¬ Balanced text.toList ∧ ∃ cause : Failure,
        cause.kind.stage = .ordering ∧
          ∀ precision, evaluate text precision = .error (.failure cause)) ∨
      (Legible text.toList ∧ Balanced text.toList ∧ ∃ cause : Failure,
        cause.kind.stage = .reduction ∧
          ∀ precision, evaluate text precision = .error (.failure cause)) ∨
      (Legible text.toList ∧ Balanced text.toList ∧
        ∀ precision, ∃ value, evaluate text precision = .ok value ∧ value.isFinite = true) := by
  have hlegible : (∃ tokens, scan text = .ok tokens) ↔ Legible text.toList :=
    exists_scanFrom_eq_ok_iff none 0 text.toList
  rw [← hlegible]
  cases hscan : scan text with
  | error cause =>
      exact .inl ⟨by simp, cause, stage_of_scanFrom hscan, evaluate_of_scan_eq_error hscan⟩
  | ok tokens =>
      refine .inr ?_
      rcases toPostfix_cases hscan with ⟨hbalanced, cause, hordered, hstage⟩ |
        ⟨hbalanced, ordered, hordered⟩
      · exact .inl ⟨⟨tokens, rfl⟩, hbalanced, cause, hstage,
          evaluate_of_toPostfix_eq_error hscan hordered⟩
      · have hlexical := lexical_of_scanFrom hscan
        have hterms : ∀ t ∈ ordered, t.isParen = false ∧ Lexical t := fun t ht =>
          ⟨(mem_of_toPostfix hordered t ht).1, hlexical t (mem_of_toPostfix hordered t ht).2⟩
        refine .inr ?_
        simp only [evaluate_of_toPostfix hscan hordered]
        rcases reduce_cases hterms with h | h
        · exact .inl ⟨⟨tokens, rfl⟩, hbalanced, h⟩
        · exact .inr ⟨⟨tokens, rfl⟩, hbalanced, h⟩

/-- A text has a finite value or one of the failures, and no other fault. -/
theorem evaluate_ok_or_failure (text : String) (precision : Int) :
    (∃ value, evaluate text precision = .ok value ∧ value.isFinite = true) ∨
      ∃ cause, evaluate text precision = .error (.failure cause) := by
  rcases evaluate_cases text with ⟨-, cause, -, h⟩ | ⟨-, -, cause, -, h⟩ | ⟨-, -, cause, -, h⟩ |
    ⟨-, -, h⟩
  · exact .inr ⟨cause, h precision⟩
  · exact .inr ⟨cause, h precision⟩
  · exact .inr ⟨cause, h precision⟩
  · exact .inl (h precision)

/-- Nothing but a failure keeps a text from having a value. -/
theorem exists_failure_of_error {text : String} {precision : Int} {fault : Fault}
    (h : evaluate text precision = .error fault) : ∃ cause, fault = .failure cause := by
  rcases evaluate_ok_or_failure text precision with ⟨value, hvalue, -⟩ | ⟨cause, hcause⟩
  · rw [h] at hvalue
    cases hvalue
  · rw [h] at hcause
    exact ⟨cause, Except.error.inj hcause⟩

theorem isFinite_of_evaluate {text : String} {precision : Int} {value : Binary64}
    (h : evaluate text precision = .ok value) : value.isFinite = true := by
  obtain ⟨-, -, x, -, -, -, hclean⟩ := evaluate_eq_ok_iff.1 h
  exact (cleanResult_of_cleanResult hclean).1

theorem failsAt_iff_of_error {text : String} {precision : Int} {cause : Failure}
    (h : evaluate text precision = .error (.failure cause)) (stage : Failure.Stage) :
    FailsAt stage text precision ↔ cause.kind.stage = stage := by
  constructor
  · rintro ⟨cause', h', hstage⟩
    rw [h] at h'
    obtain rfl := Fault.failure.inj (Except.error.inj h')
    exact hstage
  · exact fun hstage => ⟨cause, h, hstage⟩

theorem not_failsAt_of_ok {text : String} {precision : Int} {value : Binary64}
    (h : evaluate text precision = .ok value) (stage : Failure.Stage) :
    ¬ FailsAt stage text precision := by
  rintro ⟨cause, h', -⟩
  rw [h] at h'
  cases h'

/-- An evaluation gives a finite number or one of the failures. It fails at the
scanning stage exactly if the text is not legible, at the ordering stage exactly
if it is legible and its parentheses are not balanced, and nowhere else but at
the reduction stage otherwise. Whether and how it fails is the same at every
precision. -/
theorem evaluate_classified (text : String) (precision : Int) :
    ((∃ value, evaluate text precision = .ok value ∧ value.isFinite = true) ∨
        ∃ cause, evaluate text precision = .error (.failure cause)) ∧
      (FailsAt .scanning text precision ↔ ¬ Legible text.toList) ∧
      (FailsAt .ordering text precision ↔ Legible text.toList ∧ ¬ Balanced text.toList) ∧
      (Legible text.toList → Balanced text.toList →
        FailsAt .reduction text precision ∨ ∃ value, evaluate text precision = .ok value) ∧
      ∀ other fault, evaluate text precision = .error fault → evaluate text other = .error fault := by
  have hsame {cause : Failure}
      (h : ∀ precision, evaluate text precision = .error (.failure cause)) :
      ∀ other fault, evaluate text precision = .error fault →
        evaluate text other = .error fault := by
    intro other fault hfault
    rw [h] at hfault ⊢
    exact hfault
  refine ⟨evaluate_ok_or_failure text precision, ?_⟩
  rcases evaluate_cases text with ⟨hlegible, cause, hstage, h⟩ |
    ⟨hlegible, hbalanced, cause, hstage, h⟩ | ⟨hlegible, hbalanced, cause, hstage, h⟩ |
    ⟨hlegible, hbalanced, h⟩
  · refine ⟨?_, ?_, fun hlegible' => absurd hlegible' hlegible, hsame h⟩
    all_goals simp [failsAt_iff_of_error (h precision), hstage, hlegible]
  · refine ⟨?_, ?_, fun _ hbalanced' => absurd hbalanced' hbalanced, hsame h⟩
    all_goals simp [failsAt_iff_of_error (h precision), hstage, hlegible, hbalanced]
  · refine ⟨?_, ?_, ?_, hsame h⟩
    all_goals simp [failsAt_iff_of_error (h precision), hstage, hlegible, hbalanced]
  · obtain ⟨value, hvalue, -⟩ := h precision
    refine ⟨?_, ?_, fun _ _ => .inr ⟨value, hvalue⟩, ?_⟩
    · simp [not_failsAt_of_ok hvalue, hlegible]
    · simp [not_failsAt_of_ok hvalue, hbalanced]
    · intro other fault hfault
      rw [hvalue] at hfault
      cases hfault

end Reckoner
