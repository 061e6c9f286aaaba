import Mathlib.Tactic.IntervalCases
import Reckoner.Proofs.Number.Reading
import Reckoner.Proofs.Runs

/-!
# Which texts can be scanned

A text is legible if all of its characters belong to expressions and each of its
maximal runs of digits and points makes up a number. The scanner gives tokens
for exactly the legible texts (`exists_scan_eq_ok_iff`), wherever they stand, and
all of them are tokens that every later stage can read (`lexical_of_scanFrom`).
-/

namespace Reckoner

open Token

/-- The characters that expressions are made of, apart from the space. -/
def lexemeChars : List Char :=
  ['0', '1', '2', '3', '4', '5', '6', '7', '8', '9', '.', '+', '-', '*', '/', '(', ')']

/-- Every character is a space or can stand in a lexeme, and every maximal run of
digits and points has a digit and at most one point. -/
structure Legible (cs : List Char) : Prop where
  mem_chars : ∀ c ∈ cs, c = ' ' ∨ c ∈ lexemeChars
  exists_digit : ∀ run, IsRun run cs → ∃ c ∈ run, c.isDigit
  count_point_le : ∀ run, IsRun run cs → run.count '.' ≤ 1

theorem mem_lexemeChars_of_isDigit {c : Char} (h : c.isDigit) : c ∈ lexemeChars := by
  obtain ⟨hlow, hhigh⟩ := toNat_of_isDigit h
  rw [← Char.ofNat_toNat c]
  generalize c.toNat = n at hlow hhigh
  interval_cases n <;> decide

/-- The characters of lexemes are those of numbers and the marks. -/
theorem mem_lexemeChars_iff {c : Char} :
    c ∈ lexemeChars ↔ isNumeralChar c = true ∨ (ofMark? c).isSome = true := by
  constructor
  · have hall : lexemeChars.all (fun c => isNumeralChar c || (ofMark? c).isSome) = true := by decide
    exact fun hmem => Bool.or_eq_true_iff.1 (List.all_eq_true.1 hall c hmem)
  · rintro (h | h)
    · rcases Bool.or_eq_true_iff.1 h with hdigit | hpoint
      · exact mem_lexemeChars_of_isDigit hdigit
      · rw [beq_iff_eq.1 hpoint]
        decide
    · obtain ⟨t, ht⟩ := Option.isSome_iff_exists.1 h
      rcases ofMark?_eq_some_iff.1 ht with ⟨o, rfl, -⟩ | ⟨rfl, -⟩ | ⟨rfl, -⟩
      · cases o <;> decide
      · decide
      · decide

theorem legible_iff {cs : List Char} :
    Legible cs ↔ (∀ c ∈ cs, c = ' ' ∨ c ∈ lexemeChars) ∧
      (∀ run, IsRun run cs → ∃ c ∈ run, c.isDigit) ∧ ∀ run, IsRun run cs → run.count '.' ≤ 1 :=
  ⟨fun ⟨hmem, hdigit, hcount⟩ => ⟨hmem, hdigit, hcount⟩,
    fun ⟨hmem, hdigit, hcount⟩ => ⟨hmem, hdigit, hcount⟩⟩

theorem legible_nil : Legible [] := by
  simp [legible_iff, not_isRun_nil]

theorem legible_cons_iff {c : Char} (hc : isNumeralChar c = false) {cs : List Char} :
    Legible (c :: cs) ↔ (c = ' ' ∨ c ∈ lexemeChars) ∧ Legible cs := by
  simp only [legible_iff, List.forall_mem_cons, isRun_cons_iff hc, and_assoc]

/-- A run is legible by itself. -/
theorem legible_append_iff {run rest : List Char} (hne : run ≠ [])
    (hrun : ∀ c ∈ run, isNumeralChar c) (hrest : ∀ c ∈ rest.head?, isNumeralChar c = false) :
    Legible (run ++ rest) ↔ isNumeral run = true ∧ Legible rest := by
  have hmem : ∀ c ∈ run, c = ' ' ∨ c ∈ lexemeChars := fun c hc =>
    .inr (mem_lexemeChars_iff.2 (.inl (hrun c hc)))
  simp only [legible_iff, isNumeral_iff, List.forall_mem_append, isRun_append_iff (.inr hrest),
    isRun_self_iff hne hrun, or_imp, forall_and, forall_eq, and_iff_right hmem]
  exact ⟨fun ⟨h, ⟨hdigit, hdigits⟩, hcount, hcounts⟩ => ⟨⟨hdigit, hcount⟩, h, hdigits, hcounts⟩,
    fun ⟨⟨hdigit, hcount⟩, h, hdigits, hcounts⟩ => ⟨h, ⟨hdigit, hdigits⟩, hcount, hcounts⟩⟩

theorem isNumeralChar_of_mem_run {c : Char} (hc : isNumeralChar c = true) {rest : List Char} :
    ∀ d ∈ c :: rest.takeWhile isNumeralChar, isNumeralChar d = true :=
  List.forall_mem_cons.2 ⟨hc, fun _ hd => List.mem_takeWhile_imp hd⟩

/-- A run ends where the digits and points do. -/
theorem forall_mem_head?_dropWhile (rest : List Char) :
    ∀ d ∈ (rest.dropWhile isNumeralChar).head?, isNumeralChar d = false := by
  intro d hd
  have hnot := List.head?_dropWhile_not isNumeralChar rest
  rw [Option.mem_def.1 hd] at hnot
  simpa using hnot

theorem cons_eq_run_append (c : Char) (rest : List Char) :
    c :: rest = c :: rest.takeWhile isNumeralChar ++ rest.dropWhile isNumeralChar := by
  rw [List.cons_append, List.takeWhile_append_dropWhile]

/-- A text that starts with part of a number starts with a run. -/
theorem legible_cons_run_iff {c : Char} (hc : isNumeralChar c = true) (rest : List Char) :
    Legible (c :: rest) ↔
      isNumeral (c :: rest.takeWhile isNumeralChar) = true ∧
        Legible (rest.dropWhile isNumeralChar) := by
  rw [cons_eq_run_append, legible_append_iff (by simp) (isNumeralChar_of_mem_run hc)
    (forall_mem_head?_dropWhile rest)]

/-- The scanner gives tokens for exactly the legible texts. -/
theorem exists_scanFrom_eq_ok_iff (previous : Option TokenKind) (position : Nat) (cs : List Char) :
    (∃ tokens, scanFrom previous position cs = .ok tokens) ↔ Legible cs := by
  fun_induction scanFrom previous position cs with
  | case1 => exact ⟨fun _ => legible_nil, fun _ => ⟨[], rfl⟩⟩
  | case2 previous position rest ih =>
      rw [ih, legible_cons_iff (by decide), and_iff_right (.inl rfl)]
  | case3 previous position c rest hspace hchar run hrun ih =>
      rw [legible_cons_run_iff hchar, and_iff_right hrun, ← ih]
      simp [Except.map_eq_ok_iff]
  | case4 previous position c rest hspace hchar run hrun =>
      rw [legible_cons_run_iff hchar]
      simp [run] at hrun
      simp [hrun]
  | case5 previous position c rest hspace hchar t ht ih =>
      rw [legible_cons_iff (isNumeralChar_of_ofMark? ht), ← ih]
      have hmem : c ∈ lexemeChars := mem_lexemeChars_iff.2 (.inr (by rw [ht]; rfl))
      simp [Except.map_eq_ok_iff, hmem]
  | case6 previous position c rest hspace hchar ht =>
      have hmem : c ∉ lexemeChars := by
        rw [mem_lexemeChars_iff, ht]
        simpa using hchar
      rw [legible_cons_iff (Bool.eq_false_iff.2 hchar)]
      simp [hspace, hmem]

/-- A token that the scanner makes: a numeral, one of the four operators, or a
parenthesis. -/
inductive Lexical : Token → Prop where
  | number {run : List Char} (hrun : run.all isNumeralChar) (h : isNumeral run) :
    Lexical (.number (String.ofList run))
  | operator (o : Operator) : Lexical (.operator o)
  | leftParen : Lexical .leftParen
  | rightParen : Lexical .rightParen

theorem lexical_of_ofMark? {c : Char} {t : Token} (h : ofMark? c = some t) : Lexical t := by
  rcases ofMark?_eq_some_iff.1 h with ⟨o, -, rfl⟩ | ⟨-, rfl⟩ | ⟨-, rfl⟩
  · exact .operator o
  · exact .leftParen
  · exact .rightParen

theorem lexical_of_mem_impliedZero {previous : Option TokenKind} {t zero : Token}
    (h : zero ∈ impliedZero previous t) : Lexical zero := by
  rw [impliedZero] at h
  split at h
  · obtain rfl := List.mem_singleton.1 h
    have hrun : ['0'].all isNumeralChar = true := rfl
    exact .number hrun rfl
  · cases h

/-- The scanner makes no other tokens. -/
theorem lexical_of_scanFrom {previous : Option TokenKind} {position : Nat} {cs : List Char}
    {tokens : List Token} (h : scanFrom previous position cs = .ok tokens) :
    ∀ t ∈ tokens, Lexical t := by
  fun_induction scanFrom previous position cs generalizing tokens with
  | case1 =>
      obtain rfl := Except.ok.inj h
      simp
  | case2 _ _ _ ih => exact ih h
  | case3 previous position c rest hspace hchar run hrun =>
      rename_i ih
      obtain ⟨tokens, htokens, rfl⟩ := Except.map_eq_ok_iff.1 h
      exact List.forall_mem_cons.2
        ⟨.number (List.all_eq_true.2 (isNumeralChar_of_mem_run hchar)) hrun, ih htokens⟩
  | case4 => cases h
  | case5 previous position c rest hspace hchar t ht ih =>
      obtain ⟨tokens, htokens, rfl⟩ := Except.map_eq_ok_iff.1 h
      intro token htoken
      rcases List.mem_append.1 htoken with hzero | htoken
      · exact lexical_of_mem_impliedZero hzero
      · rcases List.mem_cons.1 htoken with rfl | htoken
        · exact lexical_of_ofMark? ht
        · exact ih htokens _ htoken
  | case6 => cases h

end Reckoner
