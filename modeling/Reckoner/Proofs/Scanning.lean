import Mathlib.Data.List.TakeWhile
import Reckoner.Expression.Scan
import Reckoner.Proofs.Outcome

/-!
# Scanning a text in parts

A text can be scanned part by part: `scanFrom_append` splits it before any
character that does not continue a number. What the first part hands over to
the second is its position, which only failures show, and the kind of its last
token, of which only `expectsOperand` is read.
-/

namespace Reckoner.Token

/-- The kind of the last token, or the kind before if there is none. -/
def lastKind (previous : Option TokenKind) (tokens : List Token) : Option TokenKind :=
  (tokens.getLast?.map Token.kind).or previous

@[simp] theorem lastKind_nil (previous : Option TokenKind) : lastKind previous [] = previous := rfl

@[simp] theorem lastKind_append_singleton (previous : Option TokenKind) (tokens : List Token)
    (t : Token) : lastKind previous (tokens ++ [t]) = some t.kind := by
  simp [lastKind]

theorem lastKind_append (previous : Option TokenKind) (first second : List Token) :
    lastKind previous (first ++ second) = lastKind (lastKind previous first) second := by
  rw [lastKind, lastKind, lastKind, List.getLast?_append]
  cases second.getLast? <;> simp

@[simp] theorem lastKind_cons (previous : Option TokenKind) (t : Token) (tokens : List Token) :
    lastKind previous (t :: tokens) = lastKind (some t.kind) tokens :=
  lastKind_append previous [t] tokens

/-- The part of a text that belongs to a number ends at a character that does
not. -/
theorem takeWhile_append_of_head {α : Type*} {p : α → Bool} {cs rest : List α}
    (hrest : ∀ c ∈ rest.head?, p c = false) : (cs ++ rest).takeWhile p = cs.takeWhile p := by
  induction cs with
  | nil =>
      cases rest with
      | nil => rfl
      | cons c rest => simp [hrest c rfl]
  | cons c cs ih => simp only [List.cons_append, List.takeWhile_cons, ih]

theorem dropWhile_append_of_head {α : Type*} {p : α → Bool} {cs rest : List α}
    (hrest : ∀ c ∈ rest.head?, p c = false) :
    (cs ++ rest).dropWhile p = cs.dropWhile p ++ rest := by
  induction cs with
  | nil =>
      cases rest with
      | nil => rfl
      | cons c rest => simp [hrest c rfl]
  | cons c cs ih =>
      rw [List.cons_append, List.dropWhile_cons, List.dropWhile_cons, ih]
      split <;> rfl

/-! ### One lexeme -/

theorem ofMark?_eq_some_iff {c : Char} {t : Token} :
    ofMark? c = some t ↔
      (∃ o : Operator, c = o.char ∧ t = operator o) ∨
        (c = '(' ∧ t = leftParen) ∨ (c = ')' ∧ t = rightParen) := by
  constructor
  · intro h
    unfold ofMark? at h
    split at h
    · next o ho =>
      exact .inl ⟨o, Operator.ofChar?_eq_some_iff.1 ho, (Option.some.inj h).symm⟩
    · split at h
      · next hc => exact .inr (.inl ⟨hc, (Option.some.inj h).symm⟩)
      · split at h
        · next hc => exact .inr (.inr ⟨hc, (Option.some.inj h).symm⟩)
        · exact absurd h (by simp)
  · rintro (⟨o, rfl, rfl⟩ | ⟨rfl, rfl⟩ | ⟨rfl, rfl⟩)
    · simp [ofMark?]
    · rfl
    · rfl

@[simp] theorem ofMark?_char (o : Operator) : ofMark? o.char = some (operator o) :=
  ofMark?_eq_some_iff.2 (.inl ⟨o, rfl, rfl⟩)

@[simp] theorem isNumeralChar_char (o : Operator) : isNumeralChar o.char = false := by
  cases o <;> decide

/-- A character is never both a mark and part of a number. -/
theorem isNumeralChar_of_ofMark? {c : Char} {t : Token} (ht : ofMark? c = some t) :
    isNumeralChar c = false := by
  rcases ofMark?_eq_some_iff.1 ht with ⟨o, rfl, -⟩ | ⟨rfl, -⟩ | ⟨rfl, -⟩
  · exact isNumeralChar_char o
  · decide
  · decide

theorem ne_space_of_ofMark? {c : Char} {t : Token} (ht : ofMark? c = some t) : c ≠ ' ' := by
  rintro rfl
  exact absurd ht (by simp [ofMark?, Operator.ofChar?])

/-- A run is one token if it makes up a number, and is refused as a whole if not. -/
theorem scanFrom_maximal_run (previous : Option TokenKind) (position : Nat) {run rest : List Char}
    (hne : run ≠ []) (hrun : ∀ c ∈ run, isNumeralChar c = true)
    (hrest : ∀ c ∈ rest.head?, isNumeralChar c = false) :
    scanFrom previous position (run ++ rest) =
      if isNumeral run then
        (scanFrom (some .number) (position + run.length) rest).map
          (number (String.ofList run) :: ·)
      else .error (.malformedNumber (String.ofList run) position) := by
  cases run with
  | nil => exact absurd rfl hne
  | cons c run =>
      obtain ⟨hc, hrun⟩ := List.forall_mem_cons.1 hrun
      have hspace : c ≠ ' ' := by
        rintro rfl
        exact absurd hc (by decide)
      have htake : run.takeWhile isNumeralChar = run := List.takeWhile_eq_self_iff.2 hrun
      have hdrop : run.dropWhile isNumeralChar = [] := List.dropWhile_eq_nil_iff.2 hrun
      rw [List.cons_append, scanFrom, if_neg hspace, if_pos hc,
        takeWhile_append_of_head hrest, dropWhile_append_of_head hrest, htake, hdrop,
        List.nil_append]

/-- A run that makes up a number is one token. -/
theorem scanFrom_run (previous : Option TokenKind) (position : Nat) {run rest : List Char}
    (hrun : run.all isNumeralChar) (hnumeral : isNumeral run)
    (hrest : ∀ c ∈ rest.head?, isNumeralChar c = false) :
    scanFrom previous position (run ++ rest) =
      (scanFrom (some .number) (position + run.length) rest).map
        (number (String.ofList run) :: ·) := by
  have hne : run ≠ [] := by
    rintro rfl
    cases hnumeral
  rw [scanFrom_maximal_run previous position hne (List.all_eq_true.1 hrun) hrest, if_pos hnumeral]

/-- An operator or parenthesis character is one token, behind the zero that it
may imply. -/
theorem scanFrom_mark (previous : Option TokenKind) (position : Nat) {c : Char} {t : Token}
    (rest : List Char) (ht : ofMark? c = some t) :
    scanFrom previous position (c :: rest) =
      (scanFrom (some t.kind) (position + 1) rest).map (impliedZero previous t ++ t :: ·) := by
  rw [scanFrom, if_neg (ne_space_of_ofMark? ht),
    if_neg (by simp [isNumeralChar_of_ofMark? ht]), ht]

@[simp] theorem impliedZero_of_expectsOperand {previous : Option TokenKind}
    (h : expectsOperand previous = false) (t : Token) : impliedZero previous t = [] := by
  simp [impliedZero, h]

/-! ### Parts of a text -/

/-- Where it stands does not matter to a text that can be scanned. -/
theorem scanFrom_of_position {previous : Option TokenKind} {position : Nat} {cs : List Char}
    {tokens : List Token} (h : scanFrom previous position cs = .ok tokens) (position' : Nat) :
    scanFrom previous position' cs = .ok tokens := by
  fun_induction scanFrom previous position cs generalizing position' tokens with
  | case1 => simpa using h
  | case2 _ _ _ ih => simpa using ih h (position' + 1)
  | case3 _ _ c rest hspace hchar run hrun =>
      rename_i ih
      obtain ⟨tokens, htokens, rfl⟩ := Except.map_eq_ok_iff.1 h
      rw [scanFrom, if_neg hspace, if_pos hchar, if_pos hrun, ih htokens]
      rfl
  | case4 => exact absurd h (by simp)
  | case5 _ _ c rest hspace hchar t ht ih =>
      obtain ⟨tokens, htokens, rfl⟩ := Except.map_eq_ok_iff.1 h
      rw [scanFrom_mark _ _ _ ht, ih htokens]
      rfl
  | case6 => exact absurd h (by simp)

/-- A text is scanned part by part, where the second part does not continue a
number. -/
theorem scanFrom_append (previous : Option TokenKind) (position : Nat) {cs rest : List Char}
    (hrest : ∀ c ∈ rest.head?, isNumeralChar c = false) :
    scanFrom previous position (cs ++ rest) = (do
      let first ← scanFrom previous position cs
      (scanFrom (lastKind previous first) (position + cs.length) rest).map (first ++ ·)) := by
  fun_induction scanFrom previous position cs with
  | case1 previous position =>
      cases h : scanFrom previous position rest <;> simp [h]
  | case2 previous position cs ih =>
      rw [List.cons_append, scanFrom_space, ih, List.length_cons, Nat.add_right_comm,
        Nat.add_assoc]
  | case3 previous position c cs hspace hchar run hrun ih =>
      rw [List.cons_append, scanFrom, if_neg hspace, if_pos hchar,
        takeWhile_append_of_head hrest, dropWhile_append_of_head hrest, if_pos hrun, ih,
        Except.map_bind_eq]
      have hlength : position + run.length + (cs.dropWhile isNumeralChar).length =
          position + (c :: cs).length := by
        have := congrArg List.length
          (List.takeWhile_append_dropWhile (p := isNumeralChar) (l := cs))
        simp only [run, List.length_cons, List.length_append] at this ⊢
        omega
      rw [hlength]
      cases scanFrom (some .number) (position + run.length) (cs.dropWhile isNumeralChar) with
      | error cause => rfl
      | ok first => simp [Except.map_map_eq, run]
  | case4 previous position c cs hspace hchar run hrun =>
      rw [List.cons_append, scanFrom, if_neg hspace, if_pos hchar,
        takeWhile_append_of_head hrest, if_neg hrun]
      rfl
  | case5 previous position c cs hspace hchar t ht ih =>
      have hlength : position + 1 + cs.length = position + (c :: cs).length := by
        rw [List.length_cons, Nat.add_assoc, Nat.add_comm 1]
      rw [List.cons_append, scanFrom_mark _ _ _ ht, ih, Except.map_bind_eq, hlength]
      cases scanFrom (some t.kind) (position + 1) cs with
      | error cause => rfl
      | ok first => simp [Except.map_map_eq, lastKind_append]
  | case6 previous position c cs hspace hchar ht =>
      rw [List.cons_append, scanFrom, if_neg hspace, if_neg hchar, ht]
      rfl

/-- A character that does not belong to a number is scanned by itself. -/
theorem scanFrom_cons_of_not_isNumeralChar (previous : Option TokenKind) (position : Nat)
    {c : Char} (hc : isNumeralChar c = false) (rest : List Char) :
    scanFrom previous position (c :: rest) = (do
      let first ← scanFrom previous position [c]
      (scanFrom (lastKind previous first) (position + 1) rest).map (first ++ ·)) := by
  by_cases hspace : c = ' '
  · subst hspace
    rw [scanFrom_space, scanFrom_space, scanFrom_nil]
    cases h : scanFrom previous (position + 1) rest <;> simp [h]
  · cases ht : ofMark? c with
    | some t =>
        rw [scanFrom_mark previous position rest ht, scanFrom_mark previous position [] ht,
          scanFrom_nil]
        simp [List.append_assoc]
    | none =>
        rw [scanFrom, scanFrom, if_neg hspace, if_neg hspace, if_neg (by simp [hc]),
          if_neg (by simp [hc]), ht]
        rfl

/-- A text is also scanned part by part where the first part does not end in a number. -/
theorem scanFrom_append_of_getLast (previous : Option TokenKind) (position : Nat)
    {cs : List Char} (hlast : ∀ c ∈ cs.getLast?, isNumeralChar c = false) (rest : List Char) :
    scanFrom previous position (cs ++ rest) = (do
      let first ← scanFrom previous position cs
      (scanFrom (lastKind previous first) (position + cs.length) rest).map (first ++ ·)) := by
  rcases List.eq_nil_or_concat cs with rfl | ⟨init, c, rfl⟩
  · cases h : scanFrom previous position rest <;> simp [h]
  · have hc : isNumeralChar c = false := hlast c (by simp)
    have hhead (rest : List Char) : ∀ d ∈ (c :: rest).head?, isNumeralChar d = false := by
      simpa using hc
    rw [List.concat_eq_append, List.append_assoc, List.singleton_append,
      scanFrom_append previous position (hhead rest), scanFrom_append previous position (hhead [])]
    cases scanFrom previous position init with
    | error cause => rfl
    | ok first =>
        rw [Except.ok_bind_eq, Except.ok_bind_eq, Except.map_bind_eq,
          scanFrom_cons_of_not_isNumeralChar _ _ hc]
        cases scanFrom (lastKind previous first) (position + init.length) [c] with
        | error cause => rfl
        | ok second => simp [Except.map_map_eq, lastKind_append, Nat.add_assoc]

/-- The last run of a text is scanned behind what stands before it. -/
theorem scanFrom_append_run (previous : Option TokenKind) (position : Nat) {before run : List Char}
    (hbefore : ∀ c ∈ before.getLast?, isNumeralChar c = false) (hne : run ≠ [])
    (hrun : ∀ c ∈ run, isNumeralChar c = true) :
    scanFrom previous position (before ++ run) = (do
      let first ← scanFrom previous position before
      if isNumeral run then .ok (first ++ [number (String.ofList run)])
      else .error (.malformedNumber (String.ofList run) (position + before.length))) := by
  rw [scanFrom_append_of_getLast previous position hbefore]
  cases scanFrom previous position before with
  | error cause => rfl
  | ok first =>
      have hscan : scanFrom (lastKind previous first) (position + before.length) (run ++ []) = _ :=
        scanFrom_maximal_run _ _ hne hrun (by simp)
      rw [List.append_nil, scanFrom_nil] at hscan
      rw [Except.ok_bind_eq, Except.ok_bind_eq, hscan]
      split <;> rfl

theorem scanFrom_append_of_ok {previous : Option TokenKind} {position : Nat}
    {cs rest : List Char} {first second : List Token}
    (hrest : ∀ c ∈ rest.head?, isNumeralChar c = false)
    (hfirst : scanFrom previous position cs = .ok first)
    (hsecond : scanFrom (lastKind previous first) (position + cs.length) rest = .ok second) :
    scanFrom previous position (cs ++ rest) = .ok (first ++ second) := by
  rw [scanFrom_append previous position hrest, hfirst, Except.ok_bind_eq, hsecond]
  rfl

theorem scanFrom_mark_of_ok {previous : Option TokenKind} {position : Nat} {c : Char} {t : Token}
    {rest : List Char} {tokens : List Token} (ht : ofMark? c = some t)
    (hrest : scanFrom (some t.kind) (position + 1) rest = .ok tokens) :
    scanFrom previous position (c :: rest) = .ok (impliedZero previous t ++ t :: tokens) := by
  rw [scanFrom_mark previous position rest ht, hrest]
  rfl

end Reckoner.Token
