import Reckoner.Expression.Evaluation
import Reckoner.Proofs.Outcome

/-!
# The stages of an evaluation

The outcome of an evaluation is that of its three stages in a row
(`evaluate_eq`), so a text has a value exactly if each stage has a result and a
single number is left to be rounded (`evaluate_eq_ok_iff`).
-/

namespace Reckoner

open Token

/-- What an evaluation keeps does not depend on what it reports. -/
theorem trace_eq (text : String) (precision : Int) :
    trace text precision = (do
      let tokens ← (scan text).mapError .failure
      let ordered ← (toPostfix tokens).mapError .failure
      let value ← reduce ordered precision
      pure { expression := text, tokens, ordered, value }) := by
  simp only [trace, Report.ofText, Report.outcome_tellFailure, Report.outcome_bind, Report.scan,
    Report.toPostfix, Report.reduce, Report.outcome_stage, Report.outcome_pure]
  rfl

/-- The outcome of an evaluation is that of its three stages in a row. -/
theorem evaluate_eq (text : String) (precision : Int) :
    evaluate text precision = (do
      let tokens ← (scan text).mapError .failure
      let ordered ← (toPostfix tokens).mapError .failure
      reduce ordered precision) := by
  rw [evaluate, trace_eq]
  cases scan text with
  | error cause => rfl
  | ok tokens =>
      simp only [Except.mapError_ok_eq, Except.ok_bind_eq]
      cases toPostfix tokens with
      | error cause => rfl
      | ok ordered =>
          simp only [Except.mapError_ok_eq, Except.ok_bind_eq]
          cases reduce ordered precision <;> rfl

theorem evaluate_of_scan_eq_error {text : String} {cause : Failure}
    (h : scan text = .error cause) (precision : Int) :
    evaluate text precision = .error (.failure cause) := by
  rw [evaluate_eq, h]
  rfl

theorem evaluate_of_toPostfix_eq_error {text : String} {tokens : List Token} {cause : Failure}
    (hscan : scan text = .ok tokens) (h : toPostfix tokens = .error cause) (precision : Int) :
    evaluate text precision = .error (.failure cause) := by
  rw [evaluate_eq, hscan, Except.mapError_ok_eq, Except.ok_bind_eq, h]
  rfl

theorem evaluate_of_toPostfix {text : String} {tokens ordered : List Token}
    (hscan : scan text = .ok tokens) (h : toPostfix tokens = .ok ordered) (precision : Int) :
    evaluate text precision = reduce ordered precision := by
  rw [evaluate_eq, hscan, Except.mapError_ok_eq, Except.ok_bind_eq, h, Except.mapError_ok_eq,
    Except.ok_bind_eq]

/-- A reduction fails at a token that cannot be reduced on the values that are there. -/
theorem exists_split_of_reduceFrom {stack : List Binary64} {tokens : List Token} {fault : Fault}
    (h : reduceFrom stack tokens = .error fault) :
    ∃ before t after middle, tokens = before ++ t :: after ∧
      reduceFrom stack before = .ok middle ∧ reduceStep middle t = .error fault := by
  induction tokens generalizing stack with
  | nil => cases h
  | cons t tokens ih =>
      rw [reduceFrom_cons] at h
      cases hstep : reduceStep stack t with
      | error cause =>
          rw [hstep] at h
          obtain rfl := Except.error.inj h
          exact ⟨[], t, tokens, stack, rfl, rfl, hstep⟩
      | ok next =>
          rw [hstep, Except.ok_bind_eq] at h
          obtain ⟨before, t', after, middle, rfl, hbefore, ht'⟩ := ih h
          refine ⟨t :: before, t', after, middle, rfl, ?_, ht'⟩
          rw [reduceFrom_cons, hstep, Except.ok_bind_eq, hbefore]

theorem reduce_of_error {ordered : List Token} {fault : Fault}
    (h : reduceFrom [] ordered = .error fault) (precision : Int) :
    reduce ordered precision = .error fault := by
  rw [reduce, h]
  rfl

theorem reduce_of_singleton {ordered : List Token} {x : Binary64}
    (h : reduceFrom [] ordered = .ok [x]) (precision : Int) :
    reduce ordered precision = (cleanResult x precision).mapError .failure := by
  rw [reduce, h]
  rfl

theorem reduce_of_length_ne_one {ordered : List Token} {stack : List Binary64}
    (h : reduceFrom [] ordered = .ok stack) (hlength : stack.length ≠ 1) (precision : Int) :
    reduce ordered precision = .error (.failure (.malformedExpression stack.length)) := by
  rw [reduce, h]
  match stack, hlength with
  | [], _ => rfl
  | _ :: _ :: _, _ => rfl

theorem reduce_eq_ok_iff {ordered : List Token} {precision : Int} {value : Binary64} :
    reduce ordered precision = .ok value ↔
      ∃ x, reduceFrom [] ordered = .ok [x] ∧ cleanResult x precision = .ok value := by
  rw [reduce, Except.bind_eq_ok_iff]
  constructor
  · rintro ⟨stack, hstack, h⟩
    split at h
    · next x => exact ⟨x, hstack, Except.mapError_eq_ok_iff.1 h⟩
    · cases h
  · rintro ⟨x, hstack, h⟩
    exact ⟨[x], hstack, Except.mapError_eq_ok_iff.2 h⟩

/-- Only a number that is not finite cannot be rounded. -/
theorem cleanResult_of_not_isFinite {x : Binary64} (h : x.isFinite = false) (precision : Int) :
    cleanResult x precision = .error (.nonFiniteResult x) := by
  unfold cleanResult
  rw [h]
  rfl

theorem exists_cleanResult {x : Binary64} (h : x.isFinite = true) (precision : Int) :
    ∃ value, cleanResult x precision = .ok value := by
  unfold cleanResult
  rw [h]
  split
  · contradiction
  · split <;> exact ⟨_, rfl⟩

/-- A text has a value if each stage has a result, and a single number is left. -/
theorem evaluate_eq_ok_iff {text : String} {precision : Int} {value : Binary64} :
    evaluate text precision = .ok value ↔
      ∃ tokens ordered x, scan text = .ok tokens ∧ toPostfix tokens = .ok ordered ∧
        reduceFrom [] ordered = .ok [x] ∧ cleanResult x precision = .ok value := by
  rw [evaluate_eq]
  simp only [Except.bind_eq_ok_iff, Except.mapError_eq_ok_iff, reduce_eq_ok_iff]
  constructor
  · rintro ⟨tokens, hscan, ordered, hordered, x, hx, hvalue⟩
    exact ⟨tokens, ordered, x, hscan, hordered, hx, hvalue⟩
  · rintro ⟨tokens, ordered, x, hscan, hordered, hx, hvalue⟩
    exact ⟨tokens, hscan, ordered, hordered, x, hx, hvalue⟩

/-! ### What the stages produced -/

/-- Each stage of an evaluation that is kept has produced what is kept of it. -/
theorem eq_ok_of_trace {text : String} {precision : Int} {t : Trace}
    (h : trace text precision = .ok t) :
    t.expression = text ∧ scan text = .ok t.tokens ∧ toPostfix t.tokens = .ok t.ordered ∧
      reduce t.ordered precision = .ok t.value := by
  simp only [trace_eq, Except.bind_eq_ok_iff, Except.mapError_eq_ok_iff] at h
  obtain ⟨tokens, hscan, ordered, hordered, value, hvalue, h⟩ := h
  obtain rfl := Except.ok.inj h
  exact ⟨rfl, hscan, hordered, hvalue⟩

theorem exists_trace_of_evaluate {text : String} {precision : Int} {value : Binary64}
    (h : evaluate text precision = .ok value) :
    ∃ t, trace text precision = .ok t ∧ t.value = value :=
  Except.map_eq_ok_iff.1 h

theorem trace_of_evaluate_eq_error {text : String} {precision : Int} {fault : Fault}
    (h : evaluate text precision = .error fault) : trace text precision = .error fault :=
  Except.map_eq_error_iff.1 h

end Reckoner
