import Reckoner.Proofs.CommandLine.Printed
import Reckoner.Proofs.Service.Posted

/-!
# Ways to ask for a value

The value of a text can be asked for in five ways: the service has one endpoint for the
value alone, one for the stages as well, and one that presses the key of the
calculation on an editor; on the command line there is a command for the value and one
for the stages. They agree (`ways_agree`). Each of them answers the value if there
is one, in the notation that can be evaluated again, and else refuses the text in its
own way.
-/

namespace Reckoner

open CommandLine (File)
open Service

/-- What is answered in each way if the text has a value. -/
structure Answered (refusal : Refusal) (s : Settings) (text : String) (value : Binary64) : Prop where
  evaluation : posted refusal s .evaluation (expressionFields text) =
    ⟨200, record [("expression", .text text), ("result", .real value),
      ("display", .text value.text)]⟩
  ordering : ∃ t, trace text s.resultPrecision = .ok t ∧
    posted refusal s .ordering (expressionFields text) =
      ⟨200, record [("expression", .text text), ("tokens", .list (t.tokens.map tokenRecord)),
        ("postfix", .list (t.ordered.map tokenRecord)), ("result", .real value)]⟩ ∧
    Token.reduce t.ordered s.resultPrecision = .ok value
  keys : posted refusal s .keys (keysFields text ["Enter"]) =
    ⟨200, stateRecord value.text value.text value.text⟩
  eval (files : String → File) (input : String) :
    let outcome := CommandLine.run s files input ["eval", "--", text]
    outcome.exitCode = 0 ∧ outcome.defect = none ∧
      outcome.output.toList.filter (· != '\n') = value.text.toList
  rpn (files : String → File) (input : String) :
    let outcome := CommandLine.run s files input ["rpn", "--", text]
    outcome.exitCode = 0 ∧ outcome.defect = none

/-- What is answered in each way if the text has no value. -/
structure Refused (refusal : Refusal) (s : Settings) (text : String) (cause : Failure) : Prop where
  evaluation : posted refusal s .evaluation (expressionFields text) =
    ⟨422, record [("kind", .text cause.kind.code), ("message", .text cause.message)]⟩
  ordering : posted refusal s .ordering (expressionFields text) =
    ⟨422, record [("kind", .text cause.kind.code), ("message", .text cause.message)]⟩
  keys (hne : text ≠ "") : posted refusal s .keys (keysFields text ["Enter"]) =
    ⟨200, stateRecord text text s.errorPlaceholder⟩
  eval (files : String → File) (input : String) :
    let outcome := CommandLine.run s files input ["eval", "--", text]
    outcome.exitCode = 1 ∧ outcome.defect = none
  rpn (files : String → File) (input : String) :
    let outcome := CommandLine.run s files input ["rpn", "--", text]
    outcome.exitCode = 1 ∧ outcome.defect = none

/-! ### The key of the calculation -/

variable {refusal : Refusal} {s : Settings} {text : String}

theorem replayed_enter (s : Settings) (text : String) :
    replayed s text ["Enter"] = ((opened s text).calculate s.resultPrecision).editor := by
  have hcommand : (Editor.Action.key "Enter").command? = some .calculate := by decide
  exact Editor.after_of_command? hcommand

theorem evaluate_empty (precision : Int) :
    evaluate "" precision = .error (.failure (.malformedExpression 0)) := by
  have hscan : Token.scan "" = .ok [] := Token.scanFrom_nil none 0
  have hordered : Token.toPostfix [] = .ok [] := rfl
  rw [evaluate_of_toPostfix hscan hordered,
    reduce_of_length_ne_one (Token.reduceFrom_nil []) (by decide), List.length_nil]

theorem posted_enter_of_ok {value : Binary64} (htext : text.length ≤ mostCharacters)
    (h : evaluate text s.resultPrecision = .ok value) :
    posted refusal s .keys (keysFields text ["Enter"]) =
      ⟨200, stateRecord value.text value.text value.text⟩ := by
  have hne : text ≠ "" := by
    rintro rfl
    rw [evaluate_empty] at h
    cases h
  have hvalue := (Editor.text_not_pending (isFinite_of_evaluate h)).1
  rw [← expression_opened s text] at hne h
  rw [posted_keys refusal s htext (by decide), replayed_enter, Editor.editor_calculate_of_ok hne h,
    Editor.display, if_neg hvalue]

theorem posted_enter_of_error {cause : Failure} (htext : text.length ≤ mostCharacters)
    (hne : text ≠ "") (h : evaluate text s.resultPrecision = .error (.failure cause)) :
    posted refusal s .keys (keysFields text ["Enter"]) =
      ⟨200, stateRecord text text s.errorPlaceholder⟩ := by
  have hexpression := expression_opened s text
  have hcalculate := Editor.calculate_of_error (hexpression.symm ▸ hne) (hexpression.symm ▸ h)
  rw [posted_keys refusal s htext (by decide), replayed_enter, hcalculate.1, Editor.display]
  simp only [hexpression, if_neg hne, (placeholders_opened s text).2]

/-! ### All ways -/

theorem answered_of_evaluate {value : Binary64} (htext : text.length ≤ mostCharacters)
    (h : evaluate text s.resultPrecision = .ok value) : Answered refusal s text value := by
  obtain ⟨t, htrace, rfl⟩ := exists_trace_of_evaluate h
  obtain ⟨hexpression, -, -, hreduce⟩ := eq_ok_of_trace htrace
  constructor
  case evaluation =>
    rw [posted_evaluation refusal s htext, answerEvaluation]
    simp only [h]
  case ordering =>
    refine ⟨t, htrace, ?_, hreduce⟩
    rw [posted_ordering refusal s htext, answerOrdering]
    simp only [htrace, hexpression]
  case keys => exact posted_enter_of_ok htext h
  case eval =>
    intro files input
    rw [CommandLine.run_eval, CommandLine.runEval, h]
    exact ⟨rfl, rfl, filter_printed_text (isFinite_of_evaluate h)⟩
  case rpn =>
    intro files input
    rw [CommandLine.run_rpn, CommandLine.runRpn, htrace]
    exact ⟨rfl, rfl⟩

theorem refused_of_evaluate {cause : Failure} (htext : text.length ≤ mostCharacters)
    (h : evaluate text s.resultPrecision = .error (.failure cause)) :
    Refused refusal s text cause := by
  have htrace := trace_of_evaluate_eq_error h
  constructor
  case evaluation =>
    rw [posted_evaluation refusal s htext, answerEvaluation]
    simp only [h, refuseExpression]
  case ordering =>
    rw [posted_ordering refusal s htext, answerOrdering]
    simp only [htrace, refuseExpression]
  case keys => exact fun hne => posted_enter_of_error htext hne h
  case eval =>
    intro files input
    rw [CommandLine.run_eval, CommandLine.runEval, h]
    exact ⟨rfl, rfl⟩
  case rpn =>
    intro files input
    rw [CommandLine.run_rpn, CommandLine.runRpn, htrace]
    exact ⟨rfl, rfl⟩

/-- Every way to ask for the value of a text gives the same answer: its value, or the
failure for which it has none. Nothing is logged between what the commands print, unless the
lowest level is asked for. However a body that cannot be read is refused, no endpoint fails: the
answer to a request can tell of a failure of the service only if it is such a refusal. -/
theorem ways_agree (refusal : Refusal) (s : Settings) {text : String}
    (htext : text.length ≤ mostCharacters)
    (hlevel : Log.Level.info.urgency ≤ s.logLevel.urgency) :
    (∀ value, evaluate text s.resultPrecision = .ok value → Answered refusal s text value) ∧
      (∀ cause, evaluate text s.resultPrecision = .error (.failure cause) →
        Refused refusal s text cause) ∧
      Log.kept s.logLevel (evaluationEvents text s.resultPrecision) = [] ∧
      ∀ r : Request, (respond refusal s r).1.status ≠ 500 ∨
        ∃ e issues, r.IsFor e ∧ Unreadable r.body e issues ∧
          (respond refusal s r).1 = refusal r.body issues := by
  refine ⟨fun value h => ?_, fun cause h => ?_, ?_, ?_⟩
  · exact answered_of_evaluate htext h
  · exact refused_of_evaluate htext h
  · exact kept_evaluationEvents hlevel text s.resultPrecision
  · exact respond_cases refusal s

/-- A quotient that is rounded, and one that does not exist. -/
theorem ways_agree_quotients :
    let s : Settings := {}
    "-1/3".length ≤ mostCharacters ∧ "1/0".length ≤ mostCharacters ∧
      Log.Level.info.urgency ≤ s.logLevel.urgency ∧
      Answered listing s "-1/3" (.ofFraction true 333333333333 (tenTo 12)) ∧
      Refused listing s "1/0" .divisionByZero := by
  intro s
  have hlevel : Log.Level.info.urgency ≤ s.logLevel.urgency := Nat.le_refl _
  have hthird : evaluate "-1/3" s.resultPrecision =
      .ok (.ofFraction true 333333333333 (tenTo 12)) := Except.eq_ok_of_toOption (by decide +kernel)
  have hzero : evaluate "1/0" s.resultPrecision = .error (.failure .divisionByZero) := by
    decide +kernel
  have hshort : "-1/3".length ≤ mostCharacters := by decide
  have hshort' : "1/0".length ≤ mostCharacters := by decide
  obtain ⟨hanswered, -⟩ := ways_agree listing s hshort hlevel
  obtain ⟨-, hrefused, -⟩ := ways_agree listing s hshort' hlevel
  exact ⟨hshort, hshort', hlevel, hanswered _ hthird, hrefused _ hzero⟩

end Reckoner
