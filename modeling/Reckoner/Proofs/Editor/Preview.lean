import Reckoner.Proofs.Editor.Action

/-!
# What an editor shows

Every action that has an effect refreshes the result text, so that it is the preview
of the expression, with one exception: after a calculation that failed it is the error
placeholder, until an action has an effect (`resultText_run`).

A preview decides what a calculation does, unless the expression ends in an operator
(`calculate_of_preview`). Such an expression has no preview even where it has a value
(`not_calculate_of_preview`).
-/

namespace Reckoner.Editor

/-! ### Actions without an effect -/

theorem pushed?_eq_none_of_error {precision : Int} {e : Editor} {value : String} {refusal : Refusal}
    (h : (e.push precision value).answer = .error refusal) :
    pushed? value e.expression.toList = none := by
  rw [push_eq] at h
  split at h
  · rw [answer_edit] at h
    cases h
  · assumption

theorem exists_of_calculate_eq_error {precision : Int} {e : Editor} {refusal : Refusal}
    (h : (e.calculate precision).answer = .error refusal) :
    e.expression ≠ "" ∧ ∃ cause, evaluate e.expression precision = .error (.failure cause) := by
  rcases calculate_cases precision e with
    ⟨-, -, hanswer⟩ | ⟨value, -, -, -, hanswer⟩ | ⟨cause, hne, hcause, -⟩
  · rw [hanswer] at h
    cases h
  · rw [hanswer] at h
    cases h
  · exact ⟨hne, cause, hcause⟩

/-! ### The result text -/

variable {precision : Int} {e : Editor}

/-- The last calculation failed on the expression `failed`, and no action has had an
effect since then: there were only ignored keys, rejected pushes, and percents
without an operand. -/
inductive Rejected (precision : Int) (e : Editor) : List Action → String → Prop where
  | calculate {actions : List Action} {a : Action} {cause : Failure}
    (ha : a.command? = some .calculate)
    (hanswer : ((e.run precision actions).calculate precision).answer =
      .error (.fault (.failure cause))) :
    Rejected precision e (actions ++ [a]) (e.run precision actions).expression
  | ignored {actions : List Action} {a : Action} {failed : String}
    (h : Rejected precision e actions failed) (ha : a.command? = none) :
    Rejected precision e (actions ++ [a]) failed
  | push {actions : List Action} {a : Action} {failed value : String} {refusal : Refusal}
    (h : Rejected precision e actions failed) (ha : a.command? = some (.push value))
    (hanswer : ((e.run precision actions).push precision value).answer = .error refusal) :
    Rejected precision e (actions ++ [a]) failed
  | percent {actions : List Action} {a : Action} {failed : String}
    (h : Rejected precision e actions failed) (ha : a.command? = some .percent)
    (hoperand : percentOperand? (e.run precision actions).expression.toList = none) :
    Rejected precision e (actions ++ [a]) failed

/-- The result text is the preview of the expression. -/
def Previewed (precision : Int) (e : Editor) : Prop :=
  e.resultText = previewText precision e.previewPlaceholder e.errorPlaceholder e.expression

theorem previewed_refreshed (precision : Int) (e : Editor) :
    (e.refreshed precision).Previewed precision := rfl

/-- The placeholders stay as they are. -/
theorem placeholders_run (precision : Int) (e : Editor) (actions : List Action) :
    (e.run precision actions).previewPlaceholder = e.previewPlaceholder ∧
      (e.run precision actions).errorPlaceholder = e.errorPlaceholder := by
  induction actions using List.reverseRecOn with
  | nil => exact ⟨rfl, rfl⟩
  | append_singleton actions a ih =>
      rw [run_append_singleton]
      rcases after_cases precision (e.run precision actions) a with
        ⟨-, cs, -, -, hafter⟩ | ⟨-, -, hafter⟩ | ⟨-, hafter⟩
      · rwa [hafter]
      · rwa [hafter]
      · rwa [hafter]

/-- After a calculation that failed, the editor shows its error placeholder and still
holds the expression. -/
theorem Rejected.shown {actions : List Action} {failed : String}
    (h : Rejected precision e actions failed) :
    (e.run precision actions).resultText = (e.run precision actions).errorPlaceholder ∧
      (e.run precision actions).expression = failed ∧ failed ≠ "" := by
  have hkept {actions : List Action} {a : Action}
      (h : ∀ c ∈ a.command?, Idle (e.run precision actions).expression.toList c) :
      e.run precision (actions ++ [a]) = e.run precision actions := by
    rw [run_append_singleton, after_of_idle precision h]
  induction h with
  | calculate ha hanswer =>
      obtain ⟨hne, cause, hevaluate⟩ := exists_of_calculate_eq_error hanswer
      rw [run_append_singleton, after_of_command? ha, perform,
        (calculate_of_error hne hevaluate).1]
      exact ⟨rfl, rfl, hne⟩
  | ignored _ ha ih =>
      rw [hkept (by simp [ha])]
      exact ih
  | push _ ha hanswer ih =>
      rw [hkept (by simpa [ha] using .push (pushed?_eq_none_of_error hanswer))]
      exact ih
  | percent _ ha hoperand ih =>
      rw [hkept (by simpa [ha] using .percent hoperand)]
      exact ih

/-- An action without an effect ends no rejection. -/
theorem Rejected.append_idle {actions : List Action} {failed : String}
    (h : Rejected precision e actions failed) {a : Action}
    (hidle : ∀ c ∈ a.command?, Idle (e.run precision actions).expression.toList c) :
    Rejected precision e (actions ++ [a]) failed := by
  cases hcommand : a.command? with
  | none => exact h.ignored hcommand
  | some c =>
      cases hidle c hcommand with
      | @push value hpushed =>
          have hanswer : ((e.run precision actions).push precision value).answer =
              .error (.notAppendable value) := by
            rw [push_eq, hpushed]
          exact h.push hcommand hanswer
      | percent hoperand => exact h.percent hcommand hoperand
      | calculate hempty =>
          obtain ⟨-, hexpression, hne⟩ := h.shown
          rw [hexpression, String.toList_eq_nil_iff] at hempty
          exact absurd hempty hne

/-- Unless a calculation failed and nothing has had an effect since then, the preview
is shown. -/
theorem previewed_run (h : e.Previewed precision) {actions : List Action}
    (hnot : ∀ failed, ¬ Rejected precision e actions failed) :
    (e.run precision actions).Previewed precision := by
  induction actions using List.reverseRecOn with
  | nil => exact h
  | append_singleton actions a ih =>
      rw [run_append_singleton]
      rcases after_cases precision (e.run precision actions) a with
        ⟨-, cs, -, -, hafter⟩ | ⟨hcommand, ⟨cause, hanswer⟩, -⟩ | ⟨hidle, hafter⟩
      · rw [hafter]
        exact previewed_refreshed precision _
      · exact absurd (.calculate hcommand hanswer) (hnot _)
      · rw [hafter]
        exact ih fun failed hrejected => hnot failed (hrejected.append_idle hidle)

/-- Whatever is done to an editor, its result text is the preview of its expression,
but for one exception: after a calculation that failed it is the error placeholder as
long as no action has an effect, and the expression is still the one that failed. -/
theorem resultText_run (expression previewPlaceholder errorPlaceholder : String) (precision : Int)
    (actions : List Action) :
    let first := (start expression previewPlaceholder errorPlaceholder precision).editor
    let e := first.run precision actions
    (∀ failed, Rejected precision first actions failed →
        e.resultText = errorPlaceholder ∧ e.expression = failed) ∧
      ((∀ failed, ¬ Rejected precision first actions failed) →
        e.resultText = previewText precision previewPlaceholder errorPlaceholder e.expression) := by
  intro first e
  have hfirst : first = refreshed precision
      { expression, previewPlaceholder, errorPlaceholder, resultText := "" } := editor_start ..
  obtain ⟨hpreview, herror⟩ : first.previewPlaceholder = previewPlaceholder ∧
      first.errorPlaceholder = errorPlaceholder := by
    rw [hfirst]
    exact ⟨rfl, rfl⟩
  obtain ⟨hpreview', herror'⟩ := placeholders_run precision first actions
  constructor
  · intro failed hrejected
    obtain ⟨hshown, hexpression, -⟩ := hrejected.shown
    exact ⟨hshown.trans (herror'.trans herror), hexpression⟩
  · intro hnot
    have hpreviewed : first.Previewed precision := by
      rw [hfirst]
      exact previewed_refreshed precision _
    rw [← hpreview, ← herror, ← hpreview', ← herror']
    exact previewed_run hpreviewed hnot

/-! ### The calculation that a preview announces -/

/-- Unless the expression ends in an operator, its preview announces what a
calculation does: the number that it shows becomes the expression, or the error
placeholder that it shows stands for a failure that keeps the expression. -/
theorem calculate_of_preview {precision : Int} {e : Editor} (h : e.isPending = false) :
    (∃ value, (e.preview precision).answer = .ok value.text ∧
        (e.calculate precision).answer = .ok (some value) ∧
        (e.calculate precision).editor.expression = value.text) ∨
      ∃ cause, (e.preview precision).answer = .ok e.errorPlaceholder ∧
        (e.calculate precision).answer = .error (.fault (.failure cause)) ∧
        (e.calculate precision).editor.expression = e.expression := by
  have hpending : ¬ (e.expression = "" ∨ endsWithOperator e.expression.toList = true) := by
    rw [← isPending_iff, h]
    decide
  have hne : e.expression ≠ "" := fun hempty => hpending (.inl hempty)
  have hpreview : (e.preview precision).answer = .ok (previewText precision e.previewPlaceholder
      e.errorPlaceholder e.expression) := answer_preview precision e
  rw [previewText, if_neg hpending] at hpreview
  rcases evaluate_ok_or_failure e.expression precision with ⟨value, hvalue, -⟩ | ⟨cause, hcause⟩
  · obtain ⟨heditor, hanswer⟩ := calculate_of_ok hne hvalue
    rw [hvalue] at hpreview
    exact .inl ⟨value, hpreview, hanswer, by rw [heditor]; rfl⟩
  · obtain ⟨heditor, hanswer⟩ := calculate_of_error hne hcause
    rw [hcause] at hpreview
    exact .inr ⟨cause, hpreview, hanswer, by rw [heditor]⟩

/-- A sum that was typed. -/
theorem calculate_of_preview_sum :
    let e := (start "1+2" "…" "Error" 12).editor
    e.isPending = false ∧
    ((∃ value, (e.preview 12).answer = .ok value.text ∧
        (e.calculate 12).answer = .ok (some value) ∧
        (e.calculate 12).editor.expression = value.text) ∨
      ∃ cause, (e.preview 12).answer = .ok e.errorPlaceholder ∧
        (e.calculate 12).answer = .error (.fault (.failure cause)) ∧
        (e.calculate 12).editor.expression = e.expression) := by
  intro e
  have h : e.isPending = false := by decide +kernel
  exact ⟨h, calculate_of_preview h⟩

/-- Where no preview is shown, a calculation may still succeed: an operator may stand
behind both of its operands. -/
theorem not_calculate_of_preview :
    ¬ ∀ (names : List String) (e : Editor), names.getLast? ≠ some "Enter" →
      names.getLast? ≠ some "=" →
      (start "" "…" "Error" 12).editor.run 12 (names.map .key) = e → e.expression ≠ "" →
      (e.preview 12).answer = .ok "…" ∨ (e.preview 12).answer = .ok "Error" →
      ∃ cause, (e.calculate 12).answer = .error (.fault (.failure cause)) := by
  intro hall
  have hrun : (start "" "…" "Error" 12).editor.run 12 (["(", "1", ")", "2", "+"].map .key) =
      ⟨"(1)2+", "…", "Error", "…"⟩ := by
    decide +kernel
  have hvalue : evaluate "(1)2+" 12 = .ok (.ofInt 3) := Except.eq_ok_of_toOption (by decide +kernel)
  obtain ⟨cause, hcause⟩ := hall _ _ (by decide) (by decide) hrun (by decide) (.inl rfl)
  obtain ⟨-, hanswer⟩ :=
    calculate_of_ok (e := ⟨"(1)2+", "…", "Error", "…"⟩) (by decide) hvalue
  rw [hanswer] at hcause
  cases hcause

end Reckoner.Editor
