import Reckoner.Proofs.Editor.Preview

/-!
# Going on from an expression alone

No action reads the result text, so an editor whose result text is replaced does the
same from then on, and the difference can be seen only until an action has an effect
(`run_withResult`). An editor that is started anew on the expression of another one
differs from it in nothing else. It shows the same, unless the other one shows that a
calculation failed on an expression that ends in an operator (`run_append_restarted`).
-/

namespace Reckoner.Editor

variable {precision : Int} {e : Editor}

/-- The editor with another result text. -/
def withResult (e : Editor) (text : String) : Editor := { e with resultText := text }

/-! ### The result text is not read -/

/-- A command overwrites the result text, or leaves it and everything else. -/
theorem perform_withResult (precision : Int) (e : Editor) (text : String) (c : Command) :
    (e.withResult text).perform precision c = e.perform precision c ∨
      (e.perform precision c = e ∧
        (e.withResult text).perform precision c = e.withResult text) := by
  have hexpression : (e.withResult text).expression = e.expression := rfl
  by_cases hidle : Idle e.expression.toList c
  · exact .inr ⟨perform_of_idle precision hidle, perform_of_idle precision hidle⟩
  · refine .inl ?_
    cases c with
    | push value =>
        cases h : pushed? value e.expression.toList with
        | none => exact absurd (.push h) hidle
        | some cs =>
            rw [perform, perform, push_eq, push_eq, hexpression, h, editor_edit, editor_edit]
            rfl
    | backspace =>
        rw [perform, perform, backspace, backspace, editor_edit, editor_edit]
        rfl
    | clear =>
        rw [perform, perform, clear, clear, editor_edit, editor_edit]
        rfl
    | percent =>
        cases h : percentOperand? e.expression.toList with
        | none => exact absurd (.percent h) hidle
        | some operand =>
            obtain ⟨x, hx⟩ := exists_ofText?_of_percentOperand? h
            have h' : percentOperand? (e.withResult text).expression.toList = _ := h
            rw [perform, perform, percent_of_operand h hx, percent_of_operand h' hx, editor_edit,
              editor_edit]
            rfl
    | preview =>
        rw [perform, perform, editor_preview, editor_preview]
        rfl
    | calculate =>
        have hne : e.expression ≠ "" :=
          fun hempty => hidle (.calculate (String.toList_eq_nil_iff.2 hempty))
        have hne' : (e.withResult text).expression ≠ "" := hne
        rw [perform, perform]
        rcases evaluate_ok_or_failure e.expression precision with ⟨value, h, -⟩ | ⟨cause, h⟩
        · rw [(calculate_of_ok hne h).1, (calculate_of_ok hne' h).1]
          rfl
        · rw [(calculate_of_error hne h).1, (calculate_of_error hne' h).1]
          rfl

theorem after_withResult (precision : Int) (e : Editor) (text : String) (a : Action) :
    (e.withResult text).after precision a = e.after precision a ∨
      (e.after precision a = e ∧ (e.withResult text).after precision a = e.withResult text) := by
  cases hcommand : a.command? with
  | none => exact .inr ⟨after_of_ignored hcommand, after_of_ignored hcommand⟩
  | some c =>
      rw [after_of_command? hcommand, after_of_command? hcommand]
      exact perform_withResult precision e text c

/-- Some actions overwrite the result text, or leave it and everything else. -/
theorem run_withResult (precision : Int) (e : Editor) (text : String) (actions : List Action) :
    (e.withResult text).run precision actions = e.run precision actions ∨
      (e.run precision actions = e ∧
        (e.withResult text).run precision actions = e.withResult text) := by
  induction actions using List.reverseRecOn with
  | nil => exact .inr ⟨rfl, rfl⟩
  | append_singleton actions a ih =>
      simp only [run_append_singleton]
      rcases ih with ih | ⟨ih, ih'⟩
      · exact .inl (by rw [ih])
      · rw [ih, ih']
        exact after_withResult precision e text a

/-! ### An editor that is started anew -/

theorem run_append (precision : Int) (e : Editor) (first second : List Action) :
    e.run precision (first ++ second) = (e.run precision first).run precision second :=
  List.foldl_append

/-- An editor that is started anew on an expression differs in the result text only. -/
theorem editor_start_expression (precision : Int) (e : Editor) :
    (start e.expression e.previewPlaceholder e.errorPlaceholder precision).editor =
      e.withResult (previewText precision e.previewPlaceholder e.errorPlaceholder e.expression) := by
  rw [editor_start]
  rfl

/-- The expression on which a calculation failed has no value. -/
theorem Rejected.evaluate_eq_error {actions : List Action} {failed : String}
    (h : Rejected precision e actions failed) :
    ∃ cause, evaluate failed precision = .error (.failure cause) := by
  induction h with
  | calculate _ hanswer => exact (exists_of_calculate_eq_error hanswer).2
  | ignored _ _ ih => exact ih
  | push _ _ _ ih => exact ih
  | percent _ _ _ ih => exact ih

/-- Unless a calculation failed on an expression that ends in an operator, an editor
shows the preview of its expression. -/
theorem previewed_run_of_not (h : e.Previewed precision) {actions : List Action}
    (hnot : ¬ (endsWithOperator (e.run precision actions).expression.toList = true ∧
      ∃ failed, Rejected precision e actions failed)) :
    (e.run precision actions).Previewed precision := by
  by_cases hrejected : ∃ failed, Rejected precision e actions failed
  · obtain ⟨failed, hfailed⟩ := hrejected
    obtain ⟨hshown, hexpression, hne⟩ := hfailed.shown
    obtain ⟨cause, hcause⟩ := hfailed.evaluate_eq_error
    have hoperator : ¬ (failed = "" ∨ endsWithOperator failed.toList = true) := by
      rintro (hempty | hends)
      · exact hne hempty
      · exact hnot ⟨by rwa [hexpression], failed, hfailed⟩
    rw [Previewed, hshown, hexpression, previewText, if_neg hoperator, hcause]
  · exact previewed_run h fun failed hfailed => hrejected ⟨failed, hfailed⟩

/-- Actions lead to the same from an editor and from one that is started anew on its
expression. The one exception is an editor that shows that a calculation failed on an
expression that ends in an operator: while no action has an effect it goes on to show
that, and the other one shows that there is no preview. -/
theorem run_append_restarted (h : e.Previewed precision) (first second : List Action) :
    let e' := e.run precision first
    let restarted :=
      (start e'.expression e.previewPlaceholder e.errorPlaceholder precision).editor
    e.run precision (first ++ second) = restarted.run precision second ∨
      (endsWithOperator e'.expression.toList = true ∧
        (∃ failed, Rejected precision e first failed) ∧
        e.run precision (first ++ second) = e'.withResult e.errorPlaceholder ∧
        restarted.run precision second = e'.withResult e.previewPlaceholder) := by
  intro e' restarted
  obtain ⟨hpreview, herror⟩ := placeholders_run precision e first
  have hrestarted : restarted = e'.withResult (previewText precision e'.previewPlaceholder
      e'.errorPlaceholder e'.expression) := by
    rw [← editor_start_expression, hpreview, herror]
  rw [run_append, hrestarted]
  by_cases hexception : endsWithOperator e'.expression.toList = true ∧
      ∃ failed, Rejected precision e first failed
  · obtain ⟨hends, failed, hfailed⟩ := hexception
    rcases run_withResult precision e' _ second with heq | ⟨hfirst, hsecond⟩
    · exact .inl heq.symm
    · refine .inr ⟨hends, ⟨failed, hfailed⟩, ?_, ?_⟩
      · rw [hfirst, ← herror, ← hfailed.shown.1]
        rfl
      · rw [hsecond, previewText, if_pos (.inr hends), hpreview]
  · have hshown : e'.withResult (previewText precision e'.previewPlaceholder e'.errorPlaceholder
        e'.expression) = e' := by
      rw [← previewed_run_of_not h hexception]
      rfl
    exact .inl (by rw [hshown])

end Reckoner.Editor
