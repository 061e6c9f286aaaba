import Reckoner.Editor.Basic
import Reckoner.Proofs.Classification
import Reckoner.Proofs.Editor.TrailingNumber

/-!
# Actions of an editor

An action is a command or a key given by name, and a key that is not ignored
stands for one of the commands. An action that has an effect either gives the
editor another expression and the preview of it, or shows that a calculation failed;
every other action leaves the editor as it is (`after_cases`). So a property of the
expression is kept by every action if it is kept by every edit (`expression_after`).
-/

namespace Reckoner.Editor

/-! ### The preview -/

/-- What is shown beside an expression, given the two placeholders. -/
def previewText (precision : Int) (previewPlaceholder errorPlaceholder expression : String) :
    String :=
  if expression = "" ∨ endsWithOperator expression.toList then previewPlaceholder
  else
    match evaluate expression precision with
    | .ok value => value.text
    | .error _ => errorPlaceholder

/-- The editor with the preview of its expression. -/
def refreshed (precision : Int) (e : Editor) : Editor :=
  { e with
    resultText := previewText precision e.previewPlaceholder e.errorPlaceholder e.expression }

theorem isPending_iff {e : Editor} :
    e.isPending = true ↔ e.expression = "" ∨ endsWithOperator e.expression.toList = true := by
  rw [isPending, Bool.or_eq_true, List.isEmpty_iff, String.toList_eq_nil_iff]

/-- A preview is always answered, and shows what it answers. -/
theorem exists_preview (precision : Int) (e : Editor) :
    ∃ events, e.preview precision =
      ⟨e.refreshed precision, .ok (e.refreshed precision).resultText, events⟩ := by
  unfold preview refreshed previewText
  by_cases hpending : e.isPending = true
  · rw [if_pos hpending, if_pos (isPending_iff.1 hpending)]
    exact ⟨_, rfl⟩
  · rw [if_neg hpending, if_neg (mt isPending_iff.2 hpending)]
    cases hevaluate : evaluate e.expression precision with
    | ok value => exact ⟨_, rfl⟩
    | error fault =>
        obtain ⟨cause, rfl⟩ := exists_failure_of_error hevaluate
        exact ⟨_, rfl⟩

@[simp] theorem editor_preview (precision : Int) (e : Editor) :
    (e.preview precision).editor = e.refreshed precision := by
  obtain ⟨events, h⟩ := exists_preview precision e
  rw [h]

@[simp] theorem answer_preview (precision : Int) (e : Editor) :
    (e.preview precision).answer = .ok (e.refreshed precision).resultText := by
  obtain ⟨events, h⟩ := exists_preview precision e
  rw [h]

theorem editor_start (expression previewPlaceholder errorPlaceholder : String) (precision : Int) :
    (start expression previewPlaceholder errorPlaceholder precision).editor = refreshed precision
      { expression, previewPlaceholder, errorPlaceholder, resultText := "" } := by
  rw [start, editor_preview]

@[simp] theorem editor_edit (precision : Int) (cs : List Char) (e : Editor) :
    (e.edit precision cs).editor = (e.withExpression cs).refreshed precision := by
  rw [edit, Step.map, editor_preview]

@[simp] theorem answer_edit (precision : Int) (cs : List Char) (e : Editor) :
    (e.edit precision cs).answer = .ok () := by
  rw [edit, Step.map, answer_preview]
  rfl

/-! ### Commands -/

/-- The commands of an editor. -/
inductive Command where
  | push (value : String)
  | backspace | clear | percent | preview | calculate
deriving DecidableEq

/-- The editor after a command. -/
def perform (precision : Int) (e : Editor) : Command → Editor
  | .push value => (e.push precision value).editor
  | .backspace => (e.backspace precision).editor
  | .clear => (e.clear precision).editor
  | .percent => (e.percent precision).editor
  | .preview => (e.preview precision).editor
  | .calculate => (e.calculate precision).editor

/-- The expression after a value is pushed; `none` if it is rejected. -/
def pushed? (value : String) (cs : List Char) : Option (List Char) :=
  match value.toList with
  | [c] => type? c cs
  | _ => none

theorem push_eq (precision : Int) (value : String) (e : Editor) :
    e.push precision value =
      match pushed? value e.expression.toList with
      | some cs => e.edit precision cs
      | none => ⟨e, .error (.notAppendable value), []⟩ := by
  rw [push, pushed?]
  generalize value.toList = chars
  match chars with
  | [] => rfl
  | [_] => rfl
  | _ :: _ :: _ => rfl

/-- What a command makes of an expression, if it has an effect other than to show
a failed calculation. -/
inductive Edits (precision : Int) (cs : List Char) : Command → List Char → Prop where
  | push {value : String} {after : List Char} (h : pushed? value cs = some after) :
    Edits precision cs (.push value) after
  | backspace : Edits precision cs .backspace cs.dropLast
  | clear : Edits precision cs .clear []
  | percent {before number : List Char} {x : Binary64}
    (hoperand : percentOperand? cs = some (before, number))
    (hread : Binary64.ofText? (String.ofList number) = some x) :
    Edits precision cs .percent (before ++ (x.div hundred).chars)
  | preview : Edits precision cs .preview cs
  | calculate {value : Binary64}
    (h : evaluate (String.ofList cs) precision = .ok value) :
    Edits precision cs .calculate value.chars

/-- The commands without an effect on an expression. -/
inductive Idle (cs : List Char) : Command → Prop where
  | push {value : String} (h : pushed? value cs = none) : Idle cs (.push value)
  | percent (h : percentOperand? cs = none) : Idle cs .percent
  | calculate (h : cs = []) : Idle cs .calculate

theorem percent_of_operand {precision : Int} {e : Editor} {before number : List Char} {x : Binary64}
    (hoperand : percentOperand? e.expression.toList = some (before, number))
    (hread : Binary64.ofText? (String.ofList number) = some x) :
    e.percent precision = e.edit precision (before ++ (x.div hundred).chars) := by
  rw [percent, hoperand]
  simp only [hread]

theorem calculate_of_ok {precision : Int} {e : Editor} {value : Binary64}
    (hne : e.expression ≠ "") (h : evaluate e.expression precision = .ok value) :
    (e.calculate precision).editor = (e.withExpression value.chars).refreshed precision ∧
      (e.calculate precision).answer = .ok (some value) := by
  simp [calculate, hne, h]

theorem calculate_of_error {precision : Int} {e : Editor} {cause : Failure}
    (hne : e.expression ≠ "") (h : evaluate e.expression precision = .error (.failure cause)) :
    (e.calculate precision).editor = { e with resultText := e.errorPlaceholder } ∧
      (e.calculate precision).answer = .error (.fault (.failure cause)) := by
  simp [calculate, hne, h]

/-- A calculation has no effect, or replaces the expression, or shows a failure. -/
theorem calculate_cases (precision : Int) (e : Editor) :
    (e.expression = "" ∧ (e.calculate precision).editor = e ∧
        (e.calculate precision).answer = .ok none) ∨
      (∃ value, e.expression ≠ "" ∧ evaluate e.expression precision = .ok value ∧
        (e.calculate precision).editor = (e.withExpression value.chars).refreshed precision ∧
        (e.calculate precision).answer = .ok (some value)) ∨
      ∃ cause, e.expression ≠ "" ∧ evaluate e.expression precision = .error (.failure cause) ∧
        (e.calculate precision).editor = { e with resultText := e.errorPlaceholder } ∧
        (e.calculate precision).answer = .error (.fault (.failure cause)) := by
  by_cases hempty : e.expression = ""
  · rw [calculate, if_pos hempty]
    exact .inl ⟨hempty, rfl, rfl⟩
  · rcases evaluate_ok_or_failure e.expression precision with ⟨value, hvalue, -⟩ | ⟨cause, hcause⟩
    · exact .inr (.inl ⟨value, hempty, hvalue, calculate_of_ok hempty hvalue⟩)
    · exact .inr (.inr ⟨cause, hempty, hcause, calculate_of_error hempty hcause⟩)

theorem perform_of_idle (precision : Int) {e : Editor} {c : Command}
    (h : Idle e.expression.toList c) : e.perform precision c = e := by
  cases h with
  | push h => rw [perform, push_eq, h]
  | percent h =>
      rw [perform, percent, h]
      rfl
  | calculate h =>
      rw [perform, calculate, if_pos (String.toList_eq_nil_iff.1 h)]
      rfl

/-- A command edits the expression, or shows a failed calculation, or has no effect. -/
theorem perform_cases (precision : Int) (e : Editor) (c : Command) :
    (∃ cs, Edits precision e.expression.toList c cs ∧
        e.perform precision c = (e.withExpression cs).refreshed precision) ∨
      (c = .calculate ∧
        (∃ cause, (e.calculate precision).answer = .error (.fault (.failure cause))) ∧
        e.perform precision c = { e with resultText := e.errorPlaceholder }) ∨
      Idle e.expression.toList c := by
  have hkept : String.ofList e.expression.toList = e.expression := String.ofList_toList
  cases c with
  | push value =>
      cases h : pushed? value e.expression.toList with
      | some cs => exact .inl ⟨cs, .push h, by rw [perform, push_eq, h]; exact editor_edit ..⟩
      | none => exact .inr (.inr (.push h))
  | backspace => exact .inl ⟨_, .backspace, by rw [perform, backspace, editor_edit]⟩
  | clear => exact .inl ⟨_, .clear, by rw [perform, clear, editor_edit]⟩
  | percent =>
      cases h : percentOperand? e.expression.toList with
      | none => exact .inr (.inr (.percent h))
      | some operand =>
          obtain ⟨x, hx⟩ := exists_ofText?_of_percentOperand? h
          exact .inl ⟨_, .percent h hx, by rw [perform, percent_of_operand h hx, editor_edit]⟩
  | preview => exact .inl ⟨_, .preview, by rw [perform, editor_preview, withExpression, hkept]⟩
  | calculate =>
      rw [perform]
      rcases calculate_cases precision e with
        ⟨hempty, -⟩ | ⟨value, -, hvalue, heditor, -⟩ | ⟨cause, -, -, heditor, hanswer⟩
      · exact .inr (.inr (.calculate (String.toList_eq_nil_iff.2 hempty)))
      · exact .inl ⟨value.chars, .calculate (by rwa [hkept]), heditor⟩
      · exact .inr (.inl ⟨rfl, ⟨cause, hanswer⟩, heditor⟩)

/-! ### Actions -/

/-- An action of the user of an editor: a command, or a key. -/
inductive Action where
  | command (c : Command)
  | key (name : String)

/-- The command that a key gives. -/
def Key.command : Key → Command
  | enter => .calculate
  | backspace => .backspace
  | escape => .clear
  | percent => .percent
  | char c => .push (String.singleton c)

/-- The command that an action comes to; `none` for a key that is ignored. -/
def Action.command? : Action → Option Command
  | command c => some c
  | key name => (Key.ofName? name).map Key.command

/-- The editor after an action. -/
def after (precision : Int) (e : Editor) : Action → Editor
  | .command c => e.perform precision c
  | .key name => (e.handleKey precision name).editor

theorem editor_enter (precision : Int) (e : Editor) :
    (e.enter precision).editor = (e.calculate precision).editor := by
  unfold enter
  dsimp only
  split <;> rfl

/-- A key does to the editor what its command does. -/
theorem editor_press (precision : Int) (e : Editor) (key : Key) :
    (e.press precision key).editor = e.perform precision key.command := by
  cases key with
  | enter => exact editor_enter precision e
  | backspace => rfl
  | escape => rfl
  | percent => rfl
  | char c => rfl

theorem after_of_command? {precision : Int} {e : Editor} {a : Action} {c : Command}
    (h : a.command? = some c) : e.after precision a = e.perform precision c := by
  cases a with
  | command c' => rw [after, Option.some.inj h]
  | key name =>
      obtain ⟨key, hkey, rfl⟩ := Option.map_eq_some_iff.1 h
      rw [after, handleKey, hkey, ← editor_press]
      rfl

theorem after_of_ignored {precision : Int} {e : Editor} {a : Action} (h : a.command? = none) :
    e.after precision a = e := by
  cases a with
  | command c => cases h
  | key name =>
      rw [Action.command?, Option.map_eq_none_iff] at h
      rw [after, handleKey, h]
      rfl

theorem after_of_idle (precision : Int) {e : Editor} {a : Action}
    (h : ∀ c ∈ a.command?, Idle e.expression.toList c) : e.after precision a = e := by
  cases hcommand : a.command? with
  | none => exact after_of_ignored hcommand
  | some c => rw [after_of_command? hcommand, perform_of_idle precision (h c hcommand)]

/-- An action edits the expression, or shows a failed calculation, or has no effect. -/
theorem after_cases (precision : Int) (e : Editor) (a : Action) :
    (∃ c cs, a.command? = some c ∧ Edits precision e.expression.toList c cs ∧
        e.after precision a = (e.withExpression cs).refreshed precision) ∨
      (a.command? = some .calculate ∧
        (∃ cause, (e.calculate precision).answer = .error (.fault (.failure cause))) ∧
        e.after precision a = { e with resultText := e.errorPlaceholder }) ∨
      ((∀ c ∈ a.command?, Idle e.expression.toList c) ∧ e.after precision a = e) := by
  cases hcommand : a.command? with
  | none => exact .inr (.inr ⟨by simp, after_of_ignored hcommand⟩)
  | some c =>
      rw [after_of_command? hcommand]
      rcases perform_cases precision e c with ⟨cs, hedits, hperform⟩ | ⟨rfl, h⟩ | hidle
      · exact .inl ⟨c, cs, rfl, hedits, hperform⟩
      · exact .inr (.inl ⟨rfl, h⟩)
      · exact .inr (.inr ⟨by simpa using hidle, perform_of_idle precision hidle⟩)

/-- An action edits the expression as its command does, or leaves it as it is. -/
theorem expression_after (precision : Int) (e : Editor) (a : Action) :
    (∃ c, a.command? = some c ∧
        Edits precision e.expression.toList c (e.after precision a).expression.toList) ∨
      (e.after precision a).expression = e.expression := by
  rcases after_cases precision e a with
    ⟨c, cs, hcommand, hedits, hafter⟩ | ⟨-, -, hafter⟩ | ⟨-, hafter⟩
  · have hexpression : ((e.withExpression cs).refreshed precision).expression.toList = cs :=
      String.toList_ofList
    refine .inl ⟨c, hcommand, ?_⟩
    rwa [hafter, hexpression]
  · exact .inr (by rw [hafter])
  · exact .inr (by rw [hafter])

/-- The editor after some actions. -/
def run (precision : Int) (e : Editor) (actions : List Action) : Editor :=
  actions.foldl (after precision) e

@[simp] theorem run_nil (precision : Int) (e : Editor) : e.run precision [] = e := rfl

@[simp] theorem run_append_singleton (precision : Int) (e : Editor) (actions : List Action)
    (a : Action) : e.run precision (actions ++ [a]) = (e.run precision actions).after precision a := by
  rw [run, List.foldl_append, List.foldl_cons, List.foldl_nil, run]

end Reckoner.Editor
