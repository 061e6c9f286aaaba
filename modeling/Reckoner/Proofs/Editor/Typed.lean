import Mathlib.Data.List.Chain
import Reckoner.Proofs.Editor.TrailingNumber
import Reckoner.Proofs.Legibility

/-!
# Typed expressions

What can be typed has only the characters of lexemes, each of its maximal runs of
digits and points starts with a digit and has at most one point, and no two
operators are neighbours. Typed expressions can be split and joined between any two
characters that do not belong to one number (`typed_append_iff`), and every way to
type a character keeps them typed (`Typed.type?`).
-/

namespace Reckoner.Editor

open Token (isNumeral isNumeralChar isNumeralChar_char)

/-- The character of an operator. -/
def IsOperatorChar (c : Char) : Prop := (Operator.ofChar? c).isSome = true

instance (c : Char) : Decidable (IsOperatorChar c) := inferInstanceAs (Decidable (_ = true))

/-- The characters of an expression that was typed. -/
structure Typed (cs : List Char) : Prop where
  mem_chars : ∀ c ∈ cs, c ∈ lexemeChars
  head_isDigit : ∀ run, IsRun run cs → ∃ c ∈ run.head?, c.isDigit
  count_point_le : ∀ run, IsRun run cs → run.count '.' ≤ 1
  not_adjacent : cs.IsChain fun c d => ¬ (IsOperatorChar c ∧ IsOperatorChar d)

theorem isOperatorChar_iff {c : Char} : IsOperatorChar c ↔ ∃ o : Operator, c = o.char := by
  simp only [IsOperatorChar, Option.isSome_iff_exists, Operator.ofChar?_eq_some_iff]

theorem not_isOperatorChar_of_isDigit {c : Char} (h : c.isDigit) : ¬ IsOperatorChar c := by
  rw [isOperatorChar_iff]
  rintro ⟨o, rfl⟩
  cases o <;> cases h

theorem typed_iff {cs : List Char} :
    Typed cs ↔ (∀ c ∈ cs, c ∈ lexemeChars) ∧
      (∀ run, IsRun run cs → ∃ c ∈ run.head?, c.isDigit) ∧
      (∀ run, IsRun run cs → run.count '.' ≤ 1) ∧
      cs.IsChain fun c d => ¬ (IsOperatorChar c ∧ IsOperatorChar d) :=
  ⟨fun ⟨hmem, hhead, hcount, hchain⟩ => ⟨hmem, hhead, hcount, hchain⟩,
    fun ⟨hmem, hhead, hcount, hchain⟩ => ⟨hmem, hhead, hcount, hchain⟩⟩

theorem typed_nil : Typed [] := by
  simp [typed_iff, not_isRun_nil]

/-- Typed expressions can be split and joined where no number continues. -/
theorem typed_append_iff {first second : List Char} (hparted : Parted first second) :
    Typed (first ++ second) ↔ Typed first ∧ Typed second ∧
      ∀ c ∈ first.getLast?, ∀ d ∈ second.head?, ¬ (IsOperatorChar c ∧ IsOperatorChar d) := by
  simp only [typed_iff, List.forall_mem_append, isRun_append_iff hparted, List.isChain_append,
    or_imp, forall_and]
  constructor
  · rintro ⟨⟨hmem, hmem'⟩, ⟨hhead, hhead'⟩, ⟨hcount, hcount'⟩, hchain, hchain', hjoin⟩
    exact ⟨⟨hmem, hhead, hcount, hchain⟩, ⟨hmem', hhead', hcount', hchain'⟩, hjoin⟩
  · rintro ⟨⟨hmem, hhead, hcount, hchain⟩, ⟨hmem', hhead', hcount', hchain'⟩, hjoin⟩
    exact ⟨⟨hmem, hmem'⟩, ⟨hhead, hhead'⟩, ⟨hcount, hcount'⟩, hchain, hchain', hjoin⟩

/-- A run of digits and points that can be typed. -/
structure TypedNumber (run : List Char) : Prop where
  isNumeralChar_mem : ∀ c ∈ run, isNumeralChar c
  head_isDigit : ∃ c ∈ run.head?, c.isDigit
  count_point_le : run.count '.' ≤ 1

theorem TypedNumber.ne_nil {run : List Char} (h : TypedNumber run) : run ≠ [] := by
  rintro rfl
  obtain ⟨c, hc, -⟩ := h.head_isDigit
  cases hc

theorem typed_iff_typedNumber {run : List Char} (hne : run ≠ []) (hrun : ∀ c ∈ run, isNumeralChar c) :
    Typed run ↔ TypedNumber run := by
  have hmem : ∀ c ∈ run, c ∈ lexemeChars := fun c hc => mem_lexemeChars_iff.2 (.inl (hrun c hc))
  have hoperator : ∀ c ∈ run, ¬ IsOperatorChar c := by
    intro c hc h
    obtain ⟨o, rfl⟩ := isOperatorChar_iff.1 h
    exact absurd (hrun _ hc) (by simp)
  have hchain : run.IsChain fun c d => ¬ (IsOperatorChar c ∧ IsOperatorChar d) := by
    refine (List.pairwise_of_forall_mem_list fun c hc d _ => ?_).isChain
    exact fun h => hoperator c hc h.1
  simp only [typed_iff, isRun_self_iff hne hrun, forall_eq]
  exact ⟨fun ⟨_, hhead, hcount, _⟩ => ⟨hrun, hhead, hcount⟩,
    fun ⟨_, hhead, hcount⟩ => ⟨hmem, hhead, hcount, hchain⟩⟩

/-! ### The end of an expression -/

theorem Typed.line_end_notMem {cs : List Char} (h : Typed cs) : '\n' ∉ cs :=
  fun hmem => absurd (h.mem_chars _ hmem) (by decide)

/-- A number can be typed behind whatever does not end in one. -/
theorem Typed.append_number {before run : List Char} (h : Typed before)
    (hbefore : ∀ c ∈ before.getLast?, isNumeralChar c = false) (hrun : TypedNumber run) :
    Typed (before ++ run) := by
  refine (typed_append_iff (.inl hbefore)).2
    ⟨h, (typed_iff_typedNumber hrun.ne_nil hrun.isNumeralChar_mem).2 hrun, ?_⟩
  rintro - - d hd ⟨-, hoperator⟩
  obtain ⟨c, hc, hdigit⟩ := hrun.head_isDigit
  obtain rfl : c = d := Option.mem_unique hc hd
  exact not_isOperatorChar_of_isDigit hdigit hoperator

/-- A typed expression is a typed part before its last number, and that number,
which may be missing. -/
theorem Typed.exists_last_number {cs : List Char} (h : Typed cs) :
    ∃ before run, cs = before ++ run ∧ Typed before ∧
      (∀ c ∈ before.getLast?, isNumeralChar c = false) ∧ (run = [] ∨ TypedNumber run) := by
  obtain ⟨before, run, rfl, hrun, hbefore⟩ := exists_last_run isNumeralChar cs
  obtain ⟨hfirst, hsecond, -⟩ := (typed_append_iff (.inl hbefore)).1 h
  refine ⟨before, run, rfl, hfirst, hbefore, ?_⟩
  rcases eq_or_ne run [] with hnil | hne
  · exact .inl hnil
  · exact .inr ((typed_iff_typedNumber hne hrun).1 hsecond)

/-- A mark can be typed behind a typed expression unless it is the second of two
operators. -/
theorem typed_append_mark_iff {cs : List Char} {c : Char} (hc : isNumeralChar c = false) :
    Typed (cs ++ [c]) ↔ Typed cs ∧ c ∈ lexemeChars ∧
      ∀ d ∈ cs.getLast?, ¬ (IsOperatorChar d ∧ IsOperatorChar c) := by
  have hsingle : Typed [c] ↔ c ∈ lexemeChars := by
    simp [typed_iff, not_isRun_singleton hc]
  rw [typed_append_iff (.inr (by simpa using hc)), hsingle]
  simp

theorem isNumeral_of_typedNumber {run : List Char} (h : run = [] ∨ TypedNumber run) :
    run = [] ∨ run.all isNumeralChar ∧ isNumeral run :=
  h.imp_right fun h =>
    ⟨List.all_eq_true.2 h.isNumeralChar_mem, isNumeral_of_head? h.head_isDigit h.count_point_le⟩

/-! ### Typing -/

theorem Typed.append_digit {cs : List Char} (h : Typed cs) {c : Char} (hc : c.isDigit) :
    Typed (cs ++ [c]) := by
  obtain ⟨before, run, rfl, hfirst, hbefore, hrun⟩ := h.exists_last_number
  have hchar := isNumeralChar_of_isDigit hc
  have hpoint : c ≠ '.' := by
    rintro rfl
    cases hc
  rw [List.append_assoc]
  refine hfirst.append_number hbefore ?_
  rcases hrun with rfl | ⟨hchars, ⟨d, hd, hdigit⟩, hcount⟩
  · refine ⟨by simpa using hchar, ⟨c, rfl, hc⟩, ?_⟩
    rw [List.nil_append, List.count_singleton, beq_false_of_ne hpoint]
    exact Nat.zero_le 1
  · refine ⟨by simpa [or_imp, forall_and] using ⟨hchars, hchar⟩,
      ⟨d, List.mem_head?_append_of_mem_head? hd, hdigit⟩, ?_⟩
    rw [List.count_append, List.count_singleton, beq_false_of_ne hpoint]
    exact hcount

/-- A point is typed into a number that has none, or behind a new zero. -/
theorem Typed.typePoint {cs : List Char} (h : Typed cs) : Typed (typePoint cs) := by
  obtain ⟨before, run, rfl, hfirst, hbefore, hrun⟩ := h.exists_last_number
  rw [Editor.typePoint,
    trailingNumber_append h.line_end_notMem hbefore (isNumeral_of_typedNumber hrun)]
  split
  · exact h
  · next hpoint =>
    split
    · next hnil =>
      rw [hnil, List.append_nil]
      exact hfirst.append_number hbefore ⟨by simp [isNumeralChar], ⟨'0', rfl, rfl⟩, by decide⟩
    · next hne =>
      obtain ⟨hchars, ⟨d, hd, hdigit⟩, -⟩ := hrun.resolve_left hne
      have hzero : run.count '.' = 0 := List.count_eq_zero.2 (by simpa using hpoint)
      rw [List.append_assoc]
      refine hfirst.append_number hbefore ⟨by simpa [or_imp, forall_and] using ⟨hchars, rfl⟩,
        ⟨d, List.mem_head?_append_of_mem_head? hd, hdigit⟩, ?_⟩
      rw [List.count_append, hzero, List.count_singleton_self]

theorem Typed.dropLast {cs : List Char} (h : Typed cs) : Typed cs.dropLast := by
  obtain ⟨before, run, rfl, hfirst, hbefore, hrun⟩ := h.exists_last_number
  rcases List.eq_nil_or_concat run with rfl | ⟨run, c, rfl⟩
  · rcases List.eq_nil_or_concat before with rfl | ⟨before, c, rfl⟩
    · exact typed_nil
    · rw [List.concat_eq_append] at hfirst hbefore ⊢
      rw [List.append_nil, List.dropLast_concat]
      exact ((typed_append_mark_iff (hbefore c (by simp))).1 hfirst).1
  · rw [List.concat_eq_append] at hrun ⊢
    rw [← List.append_assoc, List.dropLast_concat]
    obtain ⟨hchars, hhead, hcount⟩ := hrun.resolve_left (by simp)
    rcases eq_or_ne run [] with rfl | hne
    · rwa [List.append_nil]
    · rw [List.head?_append_of_ne_nil _ hne] at hhead
      exact hfirst.append_number hbefore ⟨fun d hd => hchars d (List.mem_append_left [c] hd), hhead,
        (List.Sublist.count_le '.' (List.sublist_append_left run [c])).trans hcount⟩

theorem char_mem_lexemeChars (o : Operator) : o.char ∈ lexemeChars := by
  cases o <;> decide

/-- An operator is typed in the place of the operator before it. -/
theorem Typed.typeOperator {cs : List Char} (h : Typed cs) (o : Operator) :
    Typed (typeOperator o cs) := by
  have hmark {cs : List Char} : Typed (cs ++ [o.char]) ↔ _ :=
    typed_append_mark_iff (isNumeralChar_char o)
  rw [Editor.typeOperator]
  split
  · split
    · exact hmark.2 ⟨typed_nil, char_mem_lexemeChars o, by simp⟩
    · exact typed_nil
  · next hne =>
    obtain ⟨before, c, rfl⟩ := (List.eq_nil_or_concat cs).resolve_left hne
    rw [List.concat_eq_append] at h ⊢
    rw [endsWithOperator_append_singleton]
    split
    · next hoperator =>
      obtain ⟨o', rfl⟩ := isOperatorChar_iff.1 hoperator
      obtain ⟨hbefore, -, hjoin⟩ := (typed_append_mark_iff (isNumeralChar_char o')).1 h
      rw [List.dropLast_concat]
      refine hmark.2 ⟨hbefore, char_mem_lexemeChars o, fun d hd hd' => hjoin d hd ⟨hd'.1, hoperator⟩⟩
    · next hoperator =>
      refine hmark.2 ⟨h, char_mem_lexemeChars o, fun d hd hd' => hoperator ?_⟩
      obtain rfl : c = d := by simpa using hd
      exact hd'.1

theorem Typed.append_paren {cs : List Char} (h : Typed cs) {c : Char} (hc : c = '(' ∨ c = ')') :
    Typed (cs ++ [c]) := by
  have hmark : isNumeralChar c = false ∧ c ∈ lexemeChars ∧ ¬ IsOperatorChar c := by
    rcases hc with rfl | rfl <;> decide
  obtain ⟨hchar, hmem, hoperator⟩ := hmark
  exact (typed_append_mark_iff hchar).2 ⟨h, hmem, fun _ _ hd => hoperator hd.2⟩

/-- Every way to type a character keeps an expression typed. -/
theorem Typed.type? {cs after : List Char} {c : Char} (h : Typed cs)
    (hafter : type? c cs = some after) : Typed after := by
  rw [Editor.type?] at hafter
  split at hafter
  · exact Option.some.inj hafter ▸ h.typePoint
  · split at hafter
    · exact Option.some.inj hafter ▸ h.typeOperator _
    · split at hafter
      · next hplain =>
        obtain rfl := Option.some.inj hafter
        have hkind : c.isDigit = true ∨ c = '(' ∨ c = ')' := by
          simpa [isPlain, or_assoc] using hplain
        exact hkind.elim h.append_digit h.append_paren
      · cases hafter

/-- A typed expression can be scanned. -/
theorem Typed.legible {cs : List Char} (h : Typed cs) : Legible cs where
  mem_chars c hc := .inr (h.mem_chars c hc)
  exists_digit run hrun := by
    obtain ⟨c, hc, hdigit⟩ := h.head_isDigit run hrun
    exact ⟨c, List.mem_of_mem_head? hc, hdigit⟩
  count_point_le := h.count_point_le

end Reckoner.Editor
