import Reckoner.Proofs.Editor.Action

/-!
# How an expression starts

On an empty expression only a minus is accepted of the four operators, but any of them
replaces an operator at the end of the expression, and a minus that stands alone is such
an end. So the expression of a new editor can start with another operator, and does so
only after one was typed in the place of a lone minus (`wellStarted_run_iff`): to type,
to delete, to take a percentage and to calculate keep it from starting with one
(`Edits.wellStarted`).
-/

namespace Reckoner.Editor

/-- No operator but a minus stands at the start. -/
def WellStarted (cs : List Char) : Prop := ∀ o : Operator, o.char ∈ cs.head? → o = .sub

theorem wellStarted_nil : WellStarted [] := by simp [WellStarted]

theorem wellStarted_minus (cs : List Char) : WellStarted ('-' :: cs) := by
  intro o ho
  cases o <;> simp [Operator.char] at ho ⊢

theorem wellStarted_cons_of_isNumeralChar {c : Char} (h : Token.isNumeralChar c) (cs : List Char) :
    WellStarted (c :: cs) := by
  intro o ho
  obtain rfl : c = o.char := by simpa using ho
  exact absurd h (by simp)

/-- What starts an expression starts it also where more follows. -/
theorem WellStarted.of_prefix {before cs : List Char} (h : WellStarted cs) (hbefore : before <+: cs) :
    WellStarted before := by
  obtain ⟨rest, rfl⟩ := hbefore
  exact fun o ho => h o (List.mem_head?_append_of_mem_head? ho)

/-- What is appended counts only if nothing stands before it. -/
theorem WellStarted.append {cs rest : List Char} (h : WellStarted cs)
    (hrest : cs = [] → WellStarted rest) : WellStarted (cs ++ rest) := by
  cases cs with
  | nil => exact hrest rfl
  | cons c cs => exact h

/-! ### Edits -/

/-- No number is written with an operator other than a minus in front. -/
theorem wellStarted_chars (x : Binary64) : WellStarted x.chars := by
  have hletter {c : Char} (hc : Operator.ofChar? c = none) (cs : List Char) :
      WellStarted (c :: cs) := by
    intro o ho
    obtain rfl : c = o.char := by simpa using ho
    simp at hc
  cases x with
  | nan => exact hletter rfl _
  | infinite negative =>
      cases negative with
      | false => exact hletter rfl _
      | true => exact wellStarted_minus _
  | finite negative rank =>
      have hfinite : (Binary64.finite negative rank).isFinite = true := rfl
      obtain ⟨sign, digits, hsign, hne, hdigits, hchars⟩ := Binary64.exists_chars hfinite
      rw [hchars]
      cases sign with
      | nil =>
          obtain ⟨c, digits, rfl⟩ := List.exists_cons_of_ne_nil hne
          exact wellStarted_cons_of_isNumeralChar (hdigits c List.mem_cons_self) _
      | cons d sign =>
          rw [hsign d List.mem_cons_self]
          exact wellStarted_minus _

theorem WellStarted.typePoint {cs : List Char} (h : WellStarted cs) : WellStarted (typePoint cs) := by
  rw [Editor.typePoint]
  split
  · exact h
  · split
    · exact h.append fun _ => wellStarted_cons_of_isNumeralChar rfl _
    · next hne => exact h.append fun hnil => absurd (by rw [hnil, trailingNumber_nil]) hne

/-- An operator comes to stand at the start only in the place of a lone minus. -/
theorem WellStarted.typeOperator {cs : List Char} {o : Operator} (h : WellStarted cs)
    (ho : cs = ['-'] → o = .sub) : WellStarted (typeOperator o cs) := by
  have hsub : o = .sub → WellStarted [o.char] := by
    rintro rfl
    exact wellStarted_minus []
  rw [Editor.typeOperator]
  split
  · split
    · next hminus => exact hsub hminus
    · exact wellStarted_nil
  · next hne =>
    split
    · next hoperator =>
      refine (h.of_prefix (List.dropLast_prefix cs)).append fun hnil => hsub (ho ?_)
      -- One operator is all that there is, and it is a minus.
      obtain ⟨c, rfl⟩ : ∃ c, cs = [c] := by
        match cs, hne, hnil with
        | [c], _, _ => exact ⟨c, rfl⟩
      obtain ⟨o', rfl⟩ : ∃ o' : Operator, c = o'.char := by
        simpa [endsWithOperator, Option.isSome_iff_exists, Operator.ofChar?_eq_some_iff] using hoperator
      rw [h o' rfl]
      rfl
    · exact h.append fun hnil => absurd hnil hne

theorem WellStarted.type? {cs after : List Char} {c : Char} (h : WellStarted cs)
    (hoperator : cs = ['-'] → ∀ o : Operator, c = o.char → o = .sub)
    (hafter : type? c cs = some after) : WellStarted after := by
  rw [Editor.type?] at hafter
  split at hafter
  · exact Option.some.inj hafter ▸ h.typePoint
  · split at hafter
    · next o hchar =>
      obtain rfl := Option.some.inj hafter
      exact h.typeOperator fun hcs => hoperator hcs o (Operator.ofChar?_eq_some_iff.1 hchar)
    · next hnone =>
      split at hafter
      · obtain rfl := Option.some.inj hafter
        refine h.append fun _ o ho => ?_
        obtain rfl : c = o.char := by simpa using ho
        simp at hnone
      · cases hafter

/-- What stands before the operand of percent starts the expression. -/
theorem prefix_of_percentOperand? {cs before number : List Char}
    (h : percentOperand? cs = some (before, number)) : before <+: cs := by
  have hbody : withoutLineEnd cs <+: cs := by
    rw [withoutLineEnd]
    split
    · exact List.dropLast_prefix cs
    · exact List.prefix_rfl
  obtain ⟨-, rfl, -⟩ := percentOperand?_eq_some_iff.1 h
  exact (List.take_prefix _ _).trans hbody

/-- What a command makes of an expression starts with no operator but a minus, unless
it types one in the place of a lone minus. -/
theorem Edits.wellStarted {precision : Int} {cs after : List Char} {c : Command}
    (h : Edits precision cs c after) (hcs : WellStarted cs)
    (hpush : cs = ['-'] → ∀ o : Operator, c = .push o.symbol → o = .sub) : WellStarted after := by
  cases h with
  | @push value _ h =>
      rw [pushed?] at h
      split at h
      · next d hvalue =>
        refine hcs.type? (fun hminus o hd => hpush hminus o ?_) h
        have hsymbol : value = o.symbol := by
          rw [← String.toList_inj, hvalue, hd, Operator.toList_symbol]
        rw [hsymbol]
      · cases h
  | backspace => exact hcs.of_prefix (List.dropLast_prefix cs)
  | clear => exact wellStarted_nil
  | percent hoperand _ =>
      exact (hcs.of_prefix (prefix_of_percentOperand? hoperand)).append fun _ => wellStarted_chars _
  | preview => exact hcs
  | calculate => exact wellStarted_chars _

/-! ### Runs -/

theorem wellStarted_after {precision : Int} {e : Editor} {a : Action}
    (h : WellStarted e.expression.toList)
    (hpush : e.expression = "-" → ∀ o : Operator, a.command? = some (.push o.symbol) → o = .sub) :
    WellStarted (e.after precision a).expression.toList := by
  rcases expression_after precision e a with ⟨c, hcommand, hedits⟩ | hkept
  · refine hedits.wellStarted h fun hminus o ho => hpush (String.toList_inj.1 hminus) o ?_
    rw [hcommand, ho]
  · rwa [hkept]

/-- An operator that is typed on a lone minus stands at the start. -/
theorem expression_after_of_minus (precision : Int) {e : Editor} {a : Action} {o : Operator}
    (h : e.expression = "-") (ha : a.command? = some (.push o.symbol)) :
    (e.after precision a).expression = o.symbol := by
  have hpushed : pushed? o.symbol e.expression.toList = some [o.char] := by
    rw [pushed?, Operator.toList_symbol, h]
    cases o <;> rfl
  rw [after_of_command? ha, perform, push_eq, hpushed, editor_edit]
  rfl

/-- During a run of a new editor, its expression starts with an operator other than a
minus at some moment exactly if one is typed while the expression is a lone minus. -/
theorem wellStarted_run_iff (previewPlaceholder errorPlaceholder : String) (precision : Int)
    (actions : List Action) :
    let first := (start "" previewPlaceholder errorPlaceholder precision).editor
    (∀ before, before <+: actions →
        WellStarted (first.run precision before).expression.toList) ↔
      ∀ before a, before ++ [a] <+: actions → (first.run precision before).expression = "-" →
        ∀ o : Operator, a.command? = some (.push o.symbol) → o = .sub := by
  intro first
  constructor
  · intro h before a hbefore hminus o ha
    refine h (before ++ [a]) hbefore o ?_
    rw [run_append_singleton, expression_after_of_minus precision hminus ha, Operator.toList_symbol]
    rfl
  · intro h before hbefore
    induction before using List.reverseRecOn with
    | nil =>
        have hexpression : first.expression = "" := by simp only [first, editor_start, refreshed]
        rw [run_nil, hexpression]
        exact wellStarted_nil
    | append_singleton before a ih =>
        rw [run_append_singleton]
        exact wellStarted_after (ih ((List.prefix_append before [a]).trans hbefore))
          (h before a hbefore)

/-- A plus is typed in the place of a leading minus. -/
theorem not_wellStarted_run :
    ¬ ∀ names : List String, WellStarted
      ((start "" "…" "Error" 12).editor.run 12 (names.map .key)).expression.toList := by
  intro h
  have hexpression : ((start "" "…" "Error" 12).editor.run 12
      (["-", "+"].map .key)).expression = Operator.add.symbol := by
    decide +kernel
  have hadd := h ["-", "+"] .add (by rw [hexpression]; rfl)
  exact absurd hadd (by decide)

end Reckoner.Editor
