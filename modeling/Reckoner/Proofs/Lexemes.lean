import Mathlib.Data.List.SplitBy
import Reckoner.Proofs.Legibility

/-!
# Scanning in two passes

The scanner reads a text once and decides on the zero in front of a minus by the token it made
last, which may stand behind such a zero itself. The same tokens come out of two passes that know
nothing of each other: the first splits the text into its lexemes, the second writes a token for
each lexeme, behind a zero if it is a minus and the lexeme before it is no operand:
`scan_eq_twoPass`.
-/

namespace Reckoner

open Token

/-- A text is made of maximal runs of digits and points and of single other characters. -/
theorem text_induction {P : List Char → Prop} (nil : P [])
    (single : ∀ c rest, isNumeralChar c = false → P rest → P (c :: rest))
    (run : ∀ run rest, run ≠ [] → (∀ c ∈ run, isNumeralChar c = true) →
      (∀ c ∈ rest.head?, isNumeralChar c = false) → P rest → P (run ++ rest))
    (cs : List Char) : P cs := by
  induction hlength : cs.length using Nat.strong_induction_on generalizing cs with
  | _ n ih =>
      subst hlength
      cases cs with
      | nil => exact nil
      | cons c rest =>
          cases hc : isNumeralChar c with
          | false => exact single c rest hc (ih rest.length (by simp) rest rfl)
          | true =>
              rw [cons_eq_run_append]
              refine run _ _ (by simp) (isNumeralChar_of_mem_run hc)
                (forall_mem_head?_dropWhile rest) (ih _ ?_ _ rfl)
              have := (List.dropWhile_sublist (l := rest) isNumeralChar).length_le
              simp only [List.length_cons]
              omega

/-! ### Lexemes -/

/-- No lexeme ends between two characters that belong to a number. -/
def joined (c d : Char) : Bool := isNumeralChar c && isNumeralChar d

/-- The lexemes of a text: its maximal runs of digits and points, and its other characters but
the spaces. -/
def lexemes (cs : List Char) : List (List Char) := (cs.splitBy joined).filter (· ≠ [' '])

/-- Where no number continues, the lexemes are those of the two parts. -/
theorem lexemes_append {first second : List Char} (hparted : Parted first second) :
    lexemes (first ++ second) = lexemes first ++ lexemes second := by
  rw [lexemes, List.splitBy_append, List.filter_append, lexemes, lexemes]
  intro c hc d hd
  rcases hparted with h | h
  · simp [joined, h c hc]
  · simp [joined, h d hd]

theorem lexemes_run_append {run rest : List Char} (hne : run ≠ [])
    (hrun : ∀ c ∈ run, isNumeralChar c = true) (hrest : ∀ c ∈ rest.head?, isNumeralChar c = false) :
    lexemes (run ++ rest) = run :: lexemes rest := by
  have hchain : run.IsChain fun c d => joined c d := by
    refine (List.pairwise_of_forall_mem_list fun c hc d hd => ?_).isChain
    simp [joined, hrun c hc, hrun d hd]
  have hspace : run ≠ [' '] := by
    rintro rfl
    exact absurd (hrun ' ' (by simp)) (by decide)
  rw [lexemes_append (.inr hrest), lexemes, List.splitBy_of_isChain hne hchain]
  simp [hspace]

theorem lexemes_space_cons (rest : List Char) : lexemes (' ' :: rest) = lexemes rest := by
  rw [← List.singleton_append, lexemes_append (.inl (by simp [isNumeralChar]))]
  rfl

theorem lexemes_cons {c : Char} (hc : isNumeralChar c = false) (hspace : c ≠ ' ')
    (rest : List Char) : lexemes (c :: rest) = [c] :: lexemes rest := by
  rw [← List.singleton_append, lexemes_append (.inl (by simpa using hc)), lexemes]
  simp [List.splitBy, List.splitBy.loop, hspace]

/-- The lexemes make up the text without its spaces. -/
theorem flatten_lexemes (cs : List Char) : (lexemes cs).flatten = cs.filter (· ≠ ' ') := by
  induction cs using text_induction with
  | nil => rfl
  | single c rest hc ih =>
      by_cases hspace : c = ' '
      · subst hspace
        simpa [lexemes_space_cons] using ih
      · rw [lexemes_cons hc hspace, List.flatten_cons, ih]
        simp [hspace]
  | run run rest hne hrun hrest ih =>
      have hkeep : run.filter (· ≠ ' ') = run := by
        refine List.filter_eq_self.2 fun c hc => decide_eq_true ?_
        rintro rfl
        exact absurd (hrun ' ' hc) (by decide)
      rw [lexemes_run_append hne hrun hrest, List.flatten_cons, ih, List.filter_append, hkeep]

/-- A lexeme is a maximal run of digits and points, or another single character. -/
theorem isRun_or_singleton_of_mem_lexemes {cs l : List Char} (h : l ∈ lexemes cs) :
    IsRun l cs ∨ ∃ c ∈ cs, isNumeralChar c = false ∧ c ≠ ' ' ∧ l = [c] := by
  induction cs using text_induction with
  | nil => cases h
  | single c rest hc ih =>
      have hrest (h : l ∈ lexemes rest) : IsRun l (c :: rest) ∨
          ∃ d ∈ c :: rest, isNumeralChar d = false ∧ d ≠ ' ' ∧ l = [d] := by
        rcases ih h with hrun | ⟨d, hd, hsingle⟩
        · exact .inl ((isRun_cons_iff hc).2 hrun)
        · exact .inr ⟨d, List.mem_cons_of_mem c hd, hsingle⟩
      by_cases hspace : c = ' '
      · subst hspace
        rw [lexemes_space_cons] at h
        exact hrest h
      · rw [lexemes_cons hc hspace] at h
        rcases List.mem_cons.1 h with rfl | h
        · exact .inr ⟨c, List.mem_cons_self, hc, hspace, rfl⟩
        · exact hrest h
  | run run rest hne hrun hrest ih =>
      rw [lexemes_run_append hne hrun hrest] at h
      rw [isRun_append_iff (.inr hrest)]
      rcases List.mem_cons.1 h with rfl | h
      · exact .inl (.inl ((isRun_self_iff hne hrun).2 rfl))
      · rcases ih h with hrun | ⟨d, hd, hsingle⟩
        · exact .inl (.inr hrun)
        · exact .inr ⟨d, List.mem_append_right run hd, hsingle⟩

/-! ### Tokens of lexemes -/

/-- The lexemes that are no numbers. -/
def marks : List (List Char) := [['+'], ['-'], ['*'], ['/'], ['('], [')']]

/-- The kind of token that a lexeme is written as. -/
def lexemeKind (l : List Char) : TokenKind :=
  if l = ['('] then .leftParen
  else if l = [')'] then .rightParen
  else if l ∈ [['+'], ['-'], ['*'], ['/']] then .operator
  else .number

/-- The token of a lexeme. Its text is the lexeme. -/
def ofLexeme (l : List Char) : Token := ⟨lexemeKind l, String.ofList l⟩

/-- An operand must follow a lexeme: at the start of a text, where there is none, and behind an
operator or an opening parenthesis. -/
def awaitsOperand (before : Option (List Char)) : Bool :=
  before.all (· ∈ [['+'], ['-'], ['*'], ['/'], ['(']])

/-- The tokens for a lexeme behind another one. -/
def tokensOf (before : Option (List Char)) (l : List Char) : List Token :=
  if l = ['-'] ∧ awaitsOperand before then [number "0", ofLexeme l] else [ofLexeme l]

/-- The tokens for a row of lexemes that stands behind a lexeme, each of them together with the
one before it. -/
def writeFrom (before : Option (List Char)) (ls : List (List Char)) : List Token :=
  ((before :: ls.map some).zip ls).flatMap fun (before, l) => tokensOf before l

theorem writeFrom_cons (before : Option (List Char)) (l : List Char) (ls : List (List Char)) :
    writeFrom before (l :: ls) = tokensOf before l ++ writeFrom (some l) ls := rfl

theorem ofLexeme_mark {c : Char} {t : Token} (ht : ofMark? c = some t) : ofLexeme [c] = t := by
  rcases ofMark?_eq_some_iff.1 ht with ⟨o, rfl, rfl⟩ | ⟨rfl, rfl⟩ | ⟨rfl, rfl⟩
  · cases o <;> rfl
  · rfl
  · rfl

theorem awaitsOperand_mark {c : Char} {t : Token} (ht : ofMark? c = some t) :
    awaitsOperand (some [c]) = expectsOperand (some t.kind) := by
  rcases ofMark?_eq_some_iff.1 ht with ⟨o, rfl, rfl⟩ | ⟨rfl, rfl⟩ | ⟨rfl, rfl⟩
  · cases o <;> rfl
  · rfl
  · rfl

theorem tokensOf_mark {previous : Option TokenKind} {before : Option (List Char)}
    (hbefore : awaitsOperand before = expectsOperand previous) {c : Char} {t : Token}
    (ht : ofMark? c = some t) : tokensOf before [c] = impliedZero previous t ++ [t] := by
  have hminus : [c] = ['-'] ↔ t = operator .sub := by
    rcases ofMark?_eq_some_iff.1 ht with ⟨o, rfl, rfl⟩ | ⟨rfl, rfl⟩ | ⟨rfl, rfl⟩
    · cases o <;> decide
    · decide
    · decide
  simp only [tokensOf, impliedZero, ofLexeme_mark ht, hminus, hbefore]
  split <;> rfl

/-- A run is no mark, so it is written as a number, and no operand must follow. -/
theorem tokensOf_run {run : List Char} (hrun : ∀ c ∈ run, isNumeralChar c = true)
    (before : Option (List Char)) :
    tokensOf before run = [number (String.ofList run)] ∧ awaitsOperand (some run) = false := by
  have hmark : run ∉ marks := by
    have hall : marks.all (fun l => !l.all isNumeralChar) = true := by decide
    intro hmem
    have hnot := List.all_eq_true.1 hall run hmem
    rw [List.all_eq_true.2 hrun] at hnot
    cases hnot
  simp only [marks, List.mem_cons, List.not_mem_nil, or_false, not_or] at hmark
  constructor
  · simp [tokensOf, ofLexeme, lexemeKind, number, hmark]
  · simp [awaitsOperand, hmark]

/-- The tokens of a text are those of its lexemes, wherever both passes start behind the same kind
of token. -/
theorem writeFrom_eq {previous : Option TokenKind} {before : Option (List Char)}
    (hbefore : awaitsOperand before = expectsOperand previous) {position : Nat} {cs : List Char}
    {tokens : List Token} (h : scanFrom previous position cs = .ok tokens) :
    tokens = writeFrom before (lexemes cs) := by
  induction cs using text_induction generalizing previous before position tokens with
  | nil =>
      rw [scanFrom_nil] at h
      exact (Except.ok.inj h).symm
  | single c rest hc ih =>
      by_cases hspace : c = ' '
      · subst hspace
        rw [scanFrom_space] at h
        rw [lexemes_space_cons]
        exact ih hbefore h
      · cases ht : ofMark? c with
        | none =>
            rw [scanFrom, if_neg hspace, if_neg (by simp [hc]), ht] at h
            cases h
        | some t =>
            rw [scanFrom_mark _ _ _ ht] at h
            obtain ⟨rest', hrest, rfl⟩ := Except.map_eq_ok_iff.1 h
            rw [lexemes_cons hc hspace, writeFrom_cons, ← ih (awaitsOperand_mark ht) hrest,
              tokensOf_mark hbefore ht, List.append_assoc, List.singleton_append]
  | run run rest hne hrun hrest ih =>
      rw [scanFrom_maximal_run _ _ hne hrun hrest] at h
      split at h
      · obtain ⟨rest', hrest', rfl⟩ := Except.map_eq_ok_iff.1 h
        obtain ⟨htokens, hnext⟩ := tokensOf_run hrun before
        rw [lexemes_run_append hne hrun hrest, writeFrom_cons, ← ih hnext hrest', htokens]
        rfl
      · cases h

/-- The tokens of a text are those of its lexemes. These are its maximal runs of digits and
points and its other characters but the spaces, in the order of the text. Each is written as one
token with its own text, and a minus without a left operand is written behind a zero; there are
no other tokens. -/
theorem scan_eq_twoPass {text : String} {tokens : List Token} (h : scan text = .ok tokens) :
    (lexemes text.toList).flatten = text.toList.filter (· ≠ ' ') ∧
      (∀ l ∈ lexemes text.toList, IsRun l text.toList ∨ l ∈ marks) ∧
      tokens = writeFrom none (lexemes text.toList) := by
  refine ⟨flatten_lexemes _, fun l hl => ?_, writeFrom_eq rfl h⟩
  rcases isRun_or_singleton_of_mem_lexemes hl with hrun | ⟨c, hc, hnumeral, hspace, rfl⟩
  · exact .inl hrun
  · have hlegible := (exists_scanFrom_eq_ok_iff none 0 text.toList).1 ⟨tokens, h⟩
    have hmem := (hlegible.mem_chars c hc).resolve_left hspace
    have hall : lexemeChars.all (fun c => isNumeralChar c || decide ([c] ∈ marks)) = true := by
      decide
    have hmark := List.all_eq_true.1 hall c hmem
    rw [hnumeral, Bool.false_or, decide_eq_true_eq] at hmark
    exact .inr hmark

/-- Signs behind an operator and behind an opening parenthesis, with blanks around them. -/
theorem scan_eq_twoPass_signs :
    let text := "2 - -( -.5 )"
    let tokens := [number "2", operator .sub, number "0", operator .sub, leftParen, number "0",
      operator .sub, number ".5", rightParen]
    scan text = .ok tokens ∧
      lexemes text.toList = [['2'], ['-'], ['-'], ['('], ['-'], ['.', '5'], [')']] ∧
      tokens = writeFrom none (lexemes text.toList) := by
  intro text tokens
  have hscan : scan text = .ok tokens := by decide +kernel
  obtain ⟨-, -, htokens⟩ := scan_eq_twoPass hscan
  exact ⟨hscan, by decide +kernel, htokens⟩

end Reckoner
