import Reckoner.Proofs.Chaining
import Reckoner.Proofs.Classification

/-!
# Continuing a result

What follows an operand, from an operator on, is a row of steps: each of them applies an
operator to everything before it and to an operand of its own (`Continues`). A result
that is continued in this way is one operand, as if it stood in parentheses
(`evaluate_continued`).

Without parentheses the minus of a negative result is the difference of zero and the
result with all factors that follow. A product and a quotient change no more than their
sign with their first operand, so this is the product of the difference, except that a
zero may have another sign; and neither a sum nor a product shows the sign of a zero.
-/

namespace Reckoner

open Token (isNumeralChar_char)

/-! ### Outcomes with equal numbers -/

/-- Two outcomes are equal numbers or the same failure. -/
inductive Alike {ε : Type} : Except ε Binary64 → Except ε Binary64 → Prop where
  | ok {x y : Binary64} (h : x.Equals y) : Alike (.ok x) (.ok y)
  | error (cause : ε) : Alike (.error cause) (.error cause)

namespace Alike

variable {ε ε' : Type} {a b : Except ε Binary64}

theorem refl (a : Except ε Binary64) : Alike a a := by
  cases a with
  | ok x => exact .ok (.refl x)
  | error cause => exact .error cause

theorem symm (h : Alike a b) : Alike b a := by
  cases h with
  | ok h => exact .ok h.symm
  | error cause => exact .error cause

theorem trans {c : Except ε Binary64} (hab : Alike a b) (hbc : Alike b c) : Alike a c := by
  cases hab with
  | error cause => exact hbc
  | ok hab =>
      cases hbc with
      | ok hbc => exact .ok (hab.trans hbc)

theorem ok_or_error (h : Alike a b) :
    (∃ x y, a = .ok x ∧ b = .ok y ∧ x.Equals y) ∨ ∃ cause, a = .error cause ∧ b = .error cause := by
  cases h with
  | ok h => exact .inl ⟨_, _, rfl, rfl, h⟩
  | error cause => exact .inr ⟨cause, rfl, rfl⟩

theorem bind {f g : Binary64 → Except ε Binary64} (h : Alike a b)
    (hfg : ∀ x y : Binary64, x.Equals y → Alike (f x) (g y)) : Alike (a >>= f) (b >>= g) := by
  cases h with
  | ok h => exact hfg _ _ h
  | error cause => exact .error cause

theorem mapError (f : ε → ε') (h : Alike a b) : Alike (a.mapError f) (b.mapError f) := by
  cases h with
  | ok h => exact .ok h
  | error cause => exact .error (f cause)

end Alike

theorem cleanResult_alike {x y : Binary64} (h : x.Equals y) (precision : Int) :
    Alike (cleanResult x precision) (cleanResult y precision) := by
  rcases h with rfl | ⟨hx, hy⟩
  · exact .refl _
  · obtain ⟨s, rfl⟩ := Binary64.exists_eq_zero hx
    obtain ⟨t, rfl⟩ := Binary64.exists_eq_zero hy
    rw [cleanResult_zero, cleanResult_zero]
    exact .ok (Binary64.zero_equals_zero s t)

theorem applySymbol_alike {x y : Binary64} (h : x.Equals y) (o : Operator) (z : Binary64) :
    Alike (applySymbol o.symbol x z) (applySymbol o.symbol y z) := by
  rw [applySymbol_symbol, applySymbol_symbol]
  split
  · exact .error _
  · exact .ok (h.apply o z)

/-- A product and a quotient have the sign of their first operand as a factor. -/
theorem applySymbol_neg {o : Operator} (ho : o.precedence = 2) (x y : Binary64) :
    applySymbol o.symbol x.neg y = (applySymbol o.symbol x y).map Binary64.neg := by
  have happly : o.apply x.neg y = (o.apply x y).neg := by
    cases o with
    | add => cases ho
    | sub => cases ho
    | mul => exact Binary64.neg_mul x y
    | div => exact Binary64.neg_div x y
  rw [applySymbol_symbol, applySymbol_symbol, happly]
  split <;> rfl

/-! ### Steps -/

namespace Tree

/-- The tree with some steps behind it. Each takes what is before it as its left operand. -/
def attach (t : Tree) (steps : List (Operator × Tree)) : Tree :=
  steps.foldl (fun left step => .node step.1.symbol left step.2) t

/-- The number that some steps make of a number. -/
def follow (x : Binary64) (steps : List (Operator × Tree)) : Except Fault Binary64 :=
  steps.foldlM (fun x step => do applySymbol step.1.symbol x (← step.2.value)) x

variable {x y : Binary64} {steps : List (Operator × Tree)}

theorem attach_append (t : Tree) (first second : List (Operator × Tree)) :
    t.attach (first ++ second) = (t.attach first).attach second := List.foldl_append

theorem follow_cons (x : Binary64) (step : Operator × Tree) (steps : List (Operator × Tree)) :
    follow x (step :: steps) = (do
      let y ← step.2.value
      let z ← applySymbol step.1.symbol x y
      follow z steps) := by
  rw [follow, List.foldlM_cons]
  cases step.2.value <;> rfl

theorem value_attach (t : Tree) (steps : List (Operator × Tree)) :
    (t.attach steps).value = (do follow (← t.value) steps) := by
  induction steps generalizing t with
  | nil => cases h : t.value <;> exact h
  | cons step steps ih =>
      have hattach : t.attach (step :: steps) = (node step.1.symbol t step.2).attach steps := rfl
      rw [hattach, ih, value_node]
      cases t.value with
      | error cause => rfl
      | ok x =>
          rw [Except.ok_bind_eq, Except.ok_bind_eq, follow_cons]
          cases step.2.value <;> rfl

theorem follow_alike (h : x.Equals y) (steps : List (Operator × Tree)) :
    Alike (follow x steps) (follow y steps) := by
  induction steps generalizing x y with
  | nil => exact .ok h
  | cons step steps ih =>
      rw [follow_cons, follow_cons]
      cases step.2.value with
      | error cause => exact .error cause
      | ok z => exact (applySymbol_alike h step.1 z).bind fun _ _ => ih

/-- Factors behind a number do not depend on its sign. -/
theorem follow_neg (h : ∀ step ∈ steps, step.1.precedence = 2) (x : Binary64) :
    follow x.neg steps = (follow x steps).map Binary64.neg := by
  induction steps generalizing x with
  | nil => rfl
  | cons step steps ih =>
      obtain ⟨hstep, hsteps⟩ := List.forall_mem_cons.1 h
      rw [follow_cons, follow_cons]
      cases step.2.value with
      | error cause => rfl
      | ok y =>
          rw [Except.ok_bind_eq, Except.ok_bind_eq, applySymbol_neg hstep, Except.map_bind_eq]
          cases applySymbol step.1.symbol x y with
          | error cause => rfl
          | ok z => exact ih hsteps z

/-- The difference of zero and a product, against the product of the difference. -/
theorem value_signed_attach (h : ∀ step ∈ steps, step.1.precedence = 2) (t : Tree) :
    Alike (node Operator.sub.symbol (leaf "0") (t.attach steps)).value
      ((node Operator.sub.symbol (leaf "0") t).attach steps).value := by
  rw [value_signed, value_attach, value_attach, value_signed]
  cases t.value with
  | error cause => exact .error cause
  | ok x =>
      have hleft : Alike ((follow x steps).map fun y => (Binary64.zero false).sub y)
          ((follow x steps).map Binary64.neg) := by
        cases follow x steps with
        | error cause => exact .error cause
        | ok y => exact .ok (Binary64.zero_sub_equals_neg y)
      have hright : Alike (follow ((Binary64.zero false).sub x) steps)
          ((follow x steps).map Binary64.neg) := by
        rw [← follow_neg h]
        exact follow_alike (Binary64.zero_sub_equals_neg x) steps
      exact hleft.trans hright.symm

end Tree

/-! ### What may follow an operand -/

/-- The characters are steps behind an operand, at a place where an operator weaker than `p`
needs parentheses. -/
inductive Continues : Nat → List Char → List (Operator × Tree) → Prop where
  | nil (p : Nat) : Continues p [] []
  | step {p : Nat} (o : Operator) {cs second : List Char} {steps : List (Operator × Tree)}
    {right : Tree} (hp : p ≤ o.precedence) (h : Continues o.precedence cs steps)
    (hright : Phrase (o.precedence + 1) second right) :
    Continues p (cs ++ o.char :: second) (steps ++ [(o, right)])
  | spaceAfter {p : Nat} {cs : List Char} {steps : List (Operator × Tree)}
    (h : Continues p cs steps) : Continues p (cs ++ [' ']) steps

/-- What follows a one in a phrase, from an operator on, are steps. -/
theorem Phrase.exists_continues {p : Nat} {cs rest : List Char} {t : Tree} (h : Phrase p cs t)
    (hcs : cs = '1' :: rest) (hrest : ∀ c ∈ rest.head?, ∃ o : Operator, c = o.char) :
    ∃ steps, Continues p rest steps := by
  induction h generalizing rest with
  | numeral p hrun h =>
      subst hcs
      cases rest with
      | nil => exact ⟨[], .nil p⟩
      | cons c rest =>
          obtain ⟨o, rfl⟩ := hrest c rfl
          have hchar := List.all_eq_true.1 hrun o.char (by simp)
          rw [isNumeralChar_char] at hchar
          cases hchar
  | group => cases hcs
  | @operation p o first second left right hp hleft hright ihleft =>
      obtain ⟨c, first', rfl⟩ := List.exists_cons_of_ne_nil hleft.ne_nil
      obtain ⟨rfl, rfl⟩ := List.cons.inj hcs
      obtain ⟨steps, hsteps⟩ := ihleft rfl fun c hc =>
        hrest c (List.mem_head?_append_of_mem_head? hc)
      exact ⟨_, .step o hp hsteps hright⟩
  | signed => cases hcs
  | spaceBefore => cases hcs
  | @spaceAfter p cs t h ih =>
      obtain ⟨c, cs', rfl⟩ := List.exists_cons_of_ne_nil h.ne_nil
      obtain ⟨rfl, rfl⟩ := List.cons.inj hcs
      obtain ⟨steps, hsteps⟩ := ih rfl fun c hc =>
        hrest c (List.mem_head?_append_of_mem_head? hc)
      exact ⟨steps, hsteps.spaceAfter⟩

namespace Continues

variable {p : Nat} {cs first : List Char} {steps : List (Operator × Tree)} {t : Tree}

theorem le_precedence (h : Continues p cs steps) : ∀ step ∈ steps, p ≤ step.1.precedence := by
  induction h with
  | nil => exact List.forall_mem_nil _
  | step o hp _ _ ih =>
      intro step hstep
      rcases List.mem_append.1 hstep with hstep | hstep
      · exact Nat.le_trans hp (ih step hstep)
      · rw [List.mem_singleton.1 hstep]
        exact hp
  | spaceAfter _ ih => exact ih

/-- Steps may stand behind every operand. -/
theorem phrase (h : Continues p cs steps) (hfirst : ∀ q, Phrase q first t) :
    Phrase p (first ++ cs) (t.attach steps) := by
  induction h with
  | nil p =>
      rw [List.append_nil]
      exact hfirst p
  | step o hp _ hright ih =>
      rw [← List.append_assoc, Tree.attach_append]
      exact .operation o hp ih hright
  | spaceAfter _ ih =>
      rw [← List.append_assoc]
      exact ih.spaceAfter

/-- Behind an operand with a minus before it the first steps, as far as they are products and
quotients, belong to what is subtracted. -/
theorem exists_signed (h : Continues p cs steps) (hp : p ≤ Operator.sub.precedence)
    (hfirst : ∀ q, Phrase q first t) :
    ∃ factors terms, steps = factors ++ terms ∧
      (∀ step ∈ factors, step.1.precedence = 2) ∧
      Phrase p (Operator.sub.char :: (first ++ cs))
        ((Tree.node Operator.sub.symbol (.leaf "0") (t.attach factors)).attach terms) := by
  induction h with
  | nil p =>
      refine ⟨[], [], rfl, List.forall_mem_nil _, ?_⟩
      rw [List.append_nil]
      exact .signed hp (hfirst _)
  | @step p o cs second steps right hpo h hright ih =>
      by_cases ho : o.precedence ≤ Operator.sub.precedence
      · obtain ⟨factors, terms, rfl, hfactors, hsigned⟩ := ih ho
        refine ⟨factors, terms ++ [(o, right)], List.append_assoc .., hfactors, ?_⟩
        rw [← List.append_assoc, Tree.attach_append]
        exact .operation o hpo hsigned hright
      · -- No weaker operator can stand before a product or a quotient.
        have hproduct : Continues (Operator.sub.precedence + 1) (cs ++ o.char :: second)
            (steps ++ [(o, right)]) := .step o (Nat.not_le.1 ho) h hright
        refine ⟨steps ++ [(o, right)], [], (List.append_nil _).symm, ?_, ?_⟩
        · intro step hstep
          have hle := hproduct.le_precedence step hstep
          have hmost : step.1.precedence ≤ 2 := by cases step.1 <;> decide
          exact Nat.le_antisymm hmost hle
        · exact .signed hp (hproduct.phrase hfirst)
  | spaceAfter _ ih =>
      obtain ⟨factors, terms, hsteps, hfactors, hsigned⟩ := ih hp
      refine ⟨factors, terms, hsteps, hfactors, ?_⟩
      rw [← List.append_assoc]
      exact hsigned.spaceAfter

end Continues

/-! ### Results -/

/-- A written number with steps behind it means the same with and without parentheses around
the number. -/
theorem Continues.exists_alike {cs : List Char} {steps : List (Operator × Tree)}
    (h : Continues 0 cs steps) {v : Binary64} (hv : v.isFinite = true) :
    ∃ t t', Phrase 0 (v.chars ++ cs) t ∧ Phrase 0 ('(' :: (v.chars ++ [')']) ++ cs) t' ∧
      Alike t.value t'.value := by
  cases v with
  | infinite => cases hv
  | nan => cases hv
  | finite negative rank =>
      have hdigits (q : Nat) := phrase_magnitudeDigits q rank
      by_cases hsign : negative = true ∧ rank.val ≠ 0
      · rw [Binary64.chars_of_sign hsign]
        obtain ⟨factors, terms, rfl, hfactors, hsigned⟩ := h.exists_signed (Nat.zero_le _) hdigits
        have hgroup := h.phrase fun q => .group (.signed (Nat.zero_le _) (hdigits _))
        refine ⟨_, _, hsigned, hgroup, ?_⟩
        rw [Tree.attach_append, Tree.value_attach _ terms, Tree.value_attach _ terms]
        exact (Tree.value_signed_attach hfactors _).bind fun _ _ hxy => Tree.follow_alike hxy terms
      · rw [Binary64.chars_of_not_sign hsign]
        have hgroup := h.phrase fun q => .group (hdigits 0)
        exact ⟨_, _, h.phrase hdigits, hgroup, .refl _⟩

theorem evaluate_alike {first second : List Char} {t t' : Tree} (hfirst : Phrase 0 first t)
    (hsecond : Phrase 0 second t') (h : Alike t.value t'.value) (precision : Int) :
    Alike (evaluate (String.ofList first) precision)
      (evaluate (String.ofList second) precision) := by
  rw [hfirst.evaluate_eq, hsecond.evaluate_eq]
  exact h.bind fun _ _ hxy => (cleanResult_alike hxy precision).mapError _

/-- A result that is continued is one operand, whether or not it stands in parentheses: both
texts have equal values, or none for the same cause. -/
theorem evaluate_continued {v : Binary64} (hv : v.isFinite = true) {c : String} {o : Operator}
    (ho : c.toList.head? = some o.char) {t : Tree} (h : Phrase 0 ("1" ++ c).toList t)
    (precision : Int) :
    (∃ x y, evaluate (v.text ++ c) precision = .ok x ∧
        evaluate ("(" ++ v.text ++ ")" ++ c) precision = .ok y ∧ x.Equals y) ∨
      ∃ cause, evaluate (v.text ++ c) precision = .error (.failure cause) ∧
        evaluate ("(" ++ v.text ++ ")" ++ c) precision = .error (.failure cause) := by
  have hone : ("1" ++ c).toList = '1' :: c.toList := String.toList_append
  have hhead : ∀ d ∈ c.toList.head?, ∃ o : Operator, d = o.char := by
    intro d hd
    rw [ho] at hd
    exact ⟨o, (Option.some.inj hd).symm⟩
  obtain ⟨steps, hsteps⟩ := h.exists_continues hone hhead
  obtain ⟨t, t', hplain, hgroup, halike⟩ := hsteps.exists_alike hv
  have hevaluate := evaluate_alike hplain hgroup halike precision
  have htext : String.ofList (v.chars ++ c.toList) = v.text ++ c := by
    rw [String.ofList_append, String.ofList_toList, Binary64.text]
  have htext' : String.ofList ('(' :: (v.chars ++ [')']) ++ c.toList) =
      "(" ++ v.text ++ ")" ++ c := by
    rw [← String.toList_inj, String.toList_ofList]
    simp only [String.toList_append, Binary64.text, String.toList_ofList]
    rfl
  rw [htext, htext'] at hevaluate
  rcases hevaluate.ok_or_error with hvalue | ⟨fault, hplain, hgroup⟩
  · exact .inl hvalue
  · obtain ⟨cause, rfl⟩ := exists_failure_of_error hplain
    exact .inr ⟨cause, hplain, hgroup⟩

/-- A product behind a negative number, and a sum behind the product. -/
theorem evaluate_continued_product :
    let v := Binary64.ofInt (-5)
    let c := "* 2+.5"
    v.isFinite = true ∧ c.toList.head? = some Operator.mul.char ∧
      (∃ t, Phrase 0 ("1" ++ c).toList t) ∧
      ∃ x y, evaluate (v.text ++ c) 12 = .ok x ∧ evaluate ("(" ++ v.text ++ ")" ++ c) 12 = .ok y ∧
        x.Equals y := by
  intro v c
  have hv : v.isFinite = true := by decide +kernel
  have hhead : c.toList.head? = some Operator.mul.char := by decide
  have hone (p : Nat) : Phrase p ['1'] (.leaf "1") := .numeral p rfl rfl
  have htwo (p : Nat) : Phrase p [' ', '2'] (.leaf "2") := .spaceBefore (.numeral p rfl rfl)
  have hhalf (p : Nat) : Phrase p ['.', '5'] (.leaf ".5") := .numeral p rfl rfl
  have hproduct : Phrase 1 ['1', '*', ' ', '2'] (.node "*" (.leaf "1") (.leaf "2")) :=
    .operation .mul (by decide) (hone 2) (htwo 3)
  have hchars : ("1" ++ c).toList = ['1', '*', ' ', '2', '+', '.', '5'] := by decide
  have hphrase : Phrase 0 ("1" ++ c).toList
      (.node "+" (.node "*" (.leaf "1") (.leaf "2")) (.leaf ".5")) := by
    rw [hchars]
    exact .operation .add (Nat.zero_le _) hproduct (hhalf 2)
  refine ⟨hv, hhead, ⟨_, hphrase⟩, ?_⟩
  rcases evaluate_continued hv hhead hphrase 12 with hvalue | ⟨cause, hcause, -⟩
  · exact hvalue
  · have hplain : (evaluate (v.text ++ c) 12).isOk = true := by decide +kernel
    rw [hcause] at hplain
    cases hplain

end Reckoner
