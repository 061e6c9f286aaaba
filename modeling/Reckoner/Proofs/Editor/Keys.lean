import Reckoner.Proofs.Editor.Preview

/-!
# Keys that are pressed one after another

A key is never refused: it is ignored, or it gives a command that succeeds, or a
calculation that fails and is reported (`answer_handleKey`). So no refusal ends
a row of keys early, and what it leaves is the editor after each of them as an action
(`handleKeys_eq`). Which keys are ignored and which values are rejected is known from
their names, and they leave the editor as it is (`keyboard_classified`).
-/

namespace Reckoner.Editor

/-- The characters that can be typed are those that have a key, whatever they are typed behind. -/
theorem isSome_type? (c : Char) (cs : List Char) : (type? c cs).isSome = isKeyChar c := by
  rw [type?, isKeyChar]
  by_cases hpoint : c = '.'
  · simp [hpoint]
  · rw [if_neg hpoint, beq_false_of_ne hpoint, Bool.false_or]
    cases Operator.ofChar? c with
    | some o => rfl
    | none => cases hplain : isPlain c <;> simp

theorem isKeyChar_of_ofName? {name : String} {c : Char} (h : Key.ofName? name = some (.char c)) :
    isKeyChar c = true := by
  simp only [Key.ofName?] at h
  -- Only a name of one character gives a key with a character.
  repeat' split at h
  all_goals cases h
  assumption

theorem answer_percent (precision : Int) (e : Editor) : (e.percent precision).answer = .ok () := by
  cases hoperand : percentOperand? e.expression.toList with
  | none =>
      rw [percent, hoperand]
      rfl
  | some operand =>
      obtain ⟨x, hx⟩ := exists_ofText?_of_percentOperand? hoperand
      rw [percent_of_operand hoperand hx, answer_edit]

/-- A calculation that fails is reported and not refused. -/
theorem answer_enter (precision : Int) (e : Editor) : (e.enter precision).answer = .ok () := by
  simp only [enter]
  rcases calculate_cases precision e with
    ⟨-, -, hanswer⟩ | ⟨value, -, -, -, hanswer⟩ | ⟨cause, -, -, -, hanswer⟩
  · simp [Step.map, hanswer]
  · simp [Step.map, hanswer]
  · simp only [hanswer]

theorem answer_press {precision : Int} {e : Editor} {key : Key}
    (hkey : ∀ c, key = .char c → isKeyChar c = true) : (e.press precision key).answer = .ok () := by
  cases key with
  | enter => exact answer_enter precision e
  | backspace => exact answer_edit ..
  | escape => exact answer_edit ..
  | percent => exact answer_percent precision e
  | char c =>
      obtain ⟨cs, hcs⟩ : ∃ cs, type? c e.expression.toList = some cs := by
        rw [← Option.isSome_iff_exists, isSome_type?, hkey c rfl]
      have hpushed : pushed? (String.singleton c) e.expression.toList = some cs := by
        simp only [pushed?, String.toList_singleton, hcs]
      rw [press, push_eq, hpushed, answer_edit]

/-- A key is never refused, and the answer is whether there is such a key. -/
theorem answer_handleKey (precision : Int) (name : String) (e : Editor) :
    (e.handleKey precision name).answer = .ok (Key.ofName? name).isSome := by
  rw [handleKey]
  cases hkey : Key.ofName? name with
  | none => rfl
  | some key =>
      have hanswer : (e.press precision key).answer = .ok () := by
        refine answer_press fun c hc => isKeyChar_of_ofName? (hkey.trans ?_)
        rw [hc]
      simp [Step.map, hanswer]

/-- A row of keys is never refused, and does what its keys do one after another. -/
theorem handleKeys_eq (precision : Int) (names : List String) (e : Editor) :
    (e.handleKeys precision names).answer = .ok () ∧
      (e.handleKeys precision names).editor = e.run precision (names.map .key) := by
  induction names generalizing e with
  | nil => exact ⟨rfl, rfl⟩
  | cons name names ih =>
      rw [handleKeys]
      dsimp only
      rw [answer_handleKey]
      exact ih (e.handleKey precision name).editor

/-! ### Keys that are ignored, values that are rejected -/

/-- The values that can be pushed: the characters of expressions. -/
def pushable : List String := lexemeChars.map String.singleton

/-- The names of the keys: those with a command of their own, and the characters of expressions. -/
def keyNames : List String := ["Enter", "=", "Backspace", "Escape", "%"] ++ pushable

theorem isKeyChar_iff {c : Char} : isKeyChar c = true ↔ c ∈ lexemeChars := by
  rw [mem_lexemeChars_iff, isKeyChar, isPlain, Token.isNumeralChar, Token.ofMark?]
  cases Operator.ofChar? c with
  | some o => simp
  | none => by_cases c = '(' <;> by_cases c = ')' <;> simp_all [or_comm]

theorem mem_pushable_iff {value : String} :
    value ∈ pushable ↔ ∃ c, value.toList = [c] ∧ isKeyChar c = true := by
  have hsingleton (c : Char) : String.singleton c = value ↔ value.toList = [c] := by
    rw [← String.toList_inj, String.toList_singleton, eq_comm]
  simp only [pushable, List.mem_map, hsingleton, isKeyChar_iff, and_comm]

theorem isSome_pushed?_iff (value : String) (cs : List Char) :
    (pushed? value cs).isSome = true ↔ value ∈ pushable := by
  rw [mem_pushable_iff, pushed?]
  split
  · next c hvalue => simp [isSome_type?, hvalue]
  · next hvalue => simpa using fun c hc => absurd hc (hvalue c)

theorem isSome_ofName?_iff (name : String) :
    (Key.ofName? name).isSome = true ↔ name ∈ keyNames := by
  rw [keyNames, List.mem_append, mem_pushable_iff, Key.ofName?]
  by_cases hname : name ∈ ["Enter", "=", "Backspace", "Escape", "%"]
  · refine iff_of_true ?_ (.inl hname)
    simp only [List.mem_cons, List.not_mem_nil, or_false] at hname
    rcases hname with rfl | rfl | rfl | rfl | rfl <;> rfl
  · rw [or_iff_right hname]
    simp only [List.mem_cons, List.not_mem_nil, or_false, not_or] at hname
    obtain ⟨henter, hequals, hbackspace, hescape, hpercent⟩ := hname
    rw [if_neg (not_or.2 ⟨henter, hequals⟩), if_neg hbackspace, if_neg hescape, if_neg hpercent]
    split
    · next c hc => simp [hc]
    · next hmany => simpa using fun c hc => absurd hc (hmany c)

/-- Every key is answered, with whether it has a name of the keyboard; if it has none, it leaves
the editor as it is. A value is rejected exactly if it is no character of an expression, and this
leaves the editor as it is too. -/
theorem keyboard_classified (precision : Int) (e : Editor) :
    (∀ name, ∃ known, (e.handleKey precision name).answer = .ok known ∧
        (known = false ↔ name ∉ keyNames) ∧
        (known = false → (e.handleKey precision name).editor = e)) ∧
      ∀ value, ((∃ refusal, (e.push precision value).answer = .error refusal) ↔
          value ∉ pushable) ∧
        ∀ refusal, (e.push precision value).answer = .error refusal →
          refusal = .notAppendable value ∧ (e.push precision value).editor = e := by
  constructor
  · intro name
    refine ⟨_, answer_handleKey precision name e, ?_, fun hunknown => ?_⟩
    · rw [← isSome_ofName?_iff, Bool.not_eq_true]
    · have hkey : Key.ofName? name = none :=
        Option.not_isSome_iff_eq_none.1 (Bool.eq_false_iff.1 hunknown)
      rw [handleKey, hkey]
      rfl
  · intro value
    rw [push_eq, ← isSome_pushed?_iff value e.expression.toList]
    cases hpushed : pushed? value e.expression.toList with
    | some cs => simp [answer_edit]
    | none => simp

end Reckoner.Editor
