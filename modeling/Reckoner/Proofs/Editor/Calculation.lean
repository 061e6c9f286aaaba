import Reckoner.Proofs.Chaining
import Reckoner.Proofs.Editor.Action
import Reckoner.Proofs.Editor.Typed

/-!
# Calculations

A result is written as a numeral, with a minus before it if it is negative, so it does
not end in an operator. It is evaluated to what is written the same, so the preview of
a result is the result itself (`previewText_text`), and this is what an editor shows
after a calculation (`editor_calculate_of_ok`).

A calculation that fails changes nothing but the result text. Whether it fails or not,
a second one leaves everything as it is and answers the same (`calculate_calculate`).
-/

namespace Reckoner.Editor

open Token (isNumeralChar isNumeralChar_char)

theorem endsWithOperator_append {before after : List Char} (hne : after ≠ [])
    (h : ∀ c ∈ after, isNumeralChar c = true) : endsWithOperator (before ++ after) = false := by
  obtain ⟨after, c, rfl⟩ := (List.eq_nil_or_concat after).resolve_left hne
  rw [List.concat_eq_append] at h ⊢
  rw [← List.append_assoc, endsWithOperator_append_singleton]
  refine Bool.eq_false_iff.2 fun hoperator => ?_
  obtain ⟨o, rfl⟩ := isOperatorChar_iff.1 hoperator
  have hchar := h o.char (List.mem_append_right after (List.mem_singleton_self _))
  rw [isNumeralChar_char] at hchar
  cases hchar

/-- A finite number that is written is an expression with a preview. -/
theorem text_not_pending {v : Binary64} (h : v.isFinite = true) :
    v.text ≠ "" ∧ endsWithOperator v.text.toList = false := by
  obtain ⟨sign, digits, -, hne, hdigits, hchars⟩ := Binary64.exists_chars h
  rw [Ne, ← String.toList_eq_nil_iff, Binary64.text, String.toList_ofList, hchars]
  exact ⟨List.append_ne_nil_of_right_ne_nil sign hne, endsWithOperator_append hne hdigits⟩

/-- The preview of a result is the result. -/
theorem previewText_text {text : String} {precision : Int} {v : Binary64}
    (h : evaluate text precision = .ok v) (previewPlaceholder errorPlaceholder : String) :
    previewText precision previewPlaceholder errorPlaceholder v.text = v.text := by
  obtain ⟨-, -, x, -, -, -, hclean⟩ := evaluate_eq_ok_iff.1 h
  obtain ⟨hne, hends⟩ := text_not_pending (isFinite_of_evaluate h)
  have hpending : ¬ (v.text = "" ∨ endsWithOperator v.text.toList = true) := by
    rintro (hempty | hoperator)
    · exact hne hempty
    · rw [hends] at hoperator
      cases hoperator
  obtain ⟨w, hw, -, htext⟩ := exists_evaluate_text hclean
  rw [previewText, if_neg hpending, hw]
  exact htext

/-- After a calculation the result is both the expression and the result text. -/
theorem editor_calculate_of_ok {precision : Int} {e : Editor} {v : Binary64}
    (hne : e.expression ≠ "") (h : evaluate e.expression precision = .ok v) :
    (e.calculate precision).editor = { e with expression := v.text, resultText := v.text } := by
  have hpreview := previewText_text h e.previewPlaceholder e.errorPlaceholder
  have hreplaced : e.withExpression v.chars = { e with expression := v.text } := rfl
  rw [(calculate_of_ok hne h).1, hreplaced]
  simp only [refreshed, hpreview]

/-! ### Calculating twice -/

/-- The answer of a calculation and the editor after it. An empty expression has no effect, an
expression with a value is replaced by it, and any other stays and its failure is shown. -/
inductive Calculated (precision : Int) (e : Editor) :
    Except Refusal (Option Binary64) → Editor → Prop where
  | empty (h : e.expression = "") : Calculated precision e (.ok none) e
  | value {v : Binary64} (hne : e.expression ≠ "") (h : evaluate e.expression precision = .ok v) :
    Calculated precision e (.ok (some v)) { e with expression := v.text, resultText := v.text }
  | failure {fault : Fault} (hne : e.expression ≠ "")
    (h : evaluate e.expression precision = .error fault) :
    Calculated precision e (.error (.fault fault)) { e with resultText := e.errorPlaceholder }

theorem calculated (precision : Int) (e : Editor) :
    Calculated precision e (e.calculate precision).answer (e.calculate precision).editor := by
  rcases calculate_cases precision e with
    ⟨hempty, heditor, hanswer⟩ | ⟨v, hne, hv, -, hanswer⟩ | ⟨cause, hne, hcause, heditor, hanswer⟩
  · rw [heditor, hanswer]
    exact .empty hempty
  · rw [editor_calculate_of_ok hne hv, hanswer]
    exact .value hne hv
  · rw [heditor, hanswer]
    exact .failure hne hcause

/-- The second answer is the first one again, up to the sign of a zero. -/
inductive Repeats : Except Refusal (Option Binary64) → Except Refusal (Option Binary64) → Prop where
  | empty : Repeats (.ok none) (.ok none)
  | value {v w : Binary64} (h : w.Equals v) : Repeats (.ok (some v)) (.ok (some w))
  | refusal (refusal : Refusal) : Repeats (.error refusal) (.error refusal)

/-- What a calculation leaves is left by the next one, which has the same answer. -/
theorem Calculated.repeats {precision : Int} {e after : Editor}
    {answer : Except Refusal (Option Binary64)} (h : Calculated precision e answer after) :
    (after.calculate precision).editor = after ∧
      Repeats answer (after.calculate precision).answer := by
  cases h with
  | empty h =>
      rw [calculate, if_pos h]
      exact ⟨rfl, .empty⟩
  | @value v hne h =>
      obtain ⟨-, -, x, -, -, -, hclean⟩ := evaluate_eq_ok_iff.1 h
      obtain ⟨w, hw, hequals, htext⟩ := exists_evaluate_text hclean
      obtain ⟨htext', -⟩ := text_not_pending (isFinite_of_evaluate h)
      let after : Editor := { e with expression := v.text, resultText := v.text }
      have hne' : after.expression ≠ "" := htext'
      have hw' : evaluate after.expression precision = .ok w := hw
      rw [editor_calculate_of_ok hne' hw', (calculate_of_ok hne' hw').2, htext]
      exact ⟨rfl, .value hequals⟩
  | failure hne h =>
      obtain ⟨cause, rfl⟩ := exists_failure_of_error h
      let after : Editor := { e with resultText := e.errorPlaceholder }
      have hne' : after.expression ≠ "" := hne
      obtain ⟨heditor, hanswer⟩ := calculate_of_error hne' h
      rw [heditor, hanswer]
      exact ⟨rfl, .refusal _⟩

/-- A calculation answers the value of the expression and shows it in both places, or answers
why there is none and keeps the expression. A second calculation leaves the editor as it is, with
an equal number or the same failure for its answer. -/
theorem calculate_calculate (precision : Int) (e : Editor) :
    let first := e.calculate precision
    let second := first.editor.calculate precision
    Calculated precision e first.answer first.editor ∧ second.editor = first.editor ∧
      Repeats first.answer second.answer :=
  ⟨calculated precision e, (calculated precision e).repeats⟩

end Reckoner.Editor
