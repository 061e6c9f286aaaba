import Reckoner.Proofs.Meaning
import Reckoner.Proofs.Number.Whole

/-!
# Exact whole results

`Tree.Whole t n` says that `n` is the exact value of the tree `t` in whole numbers, and
that no number on the way to it is larger than `2 ^ 53`: the leaves are whole numbers, and
every division has a divisor other than zero and no remainder. The value of such a tree is
exact (`Tree.exists_value_of_whole`), by one step for each operator. It is not rounded to
decimal places either, so a phrase with such a tree has exactly this value, and it is
written as a whole number (`evaluate_of_whole`).
-/

namespace Reckoner

/-- The whole number that a numeral writes: digits, and maybe a point with nothing but zeros
behind it. -/
inductive WholeNumeral : List Char → Nat → Prop where
  | digits {digits : List Char} (hne : digits ≠ []) (h : ∀ c ∈ digits, c.isDigit) :
    WholeNumeral digits (Nat.ofDigitChars 10 digits 0)
  | point {digits : List Char} (zeros : Nat) (hne : digits ≠ []) (h : ∀ c ∈ digits, c.isDigit) :
    WholeNumeral (digits ++ '.' :: List.replicate zeros '0') (Nat.ofDigitChars 10 digits 0)

/-- The result of an operator in whole numbers; a quotient has no remainder. -/
inductive Operator.Exact : Operator → Int → Int → Int → Prop where
  | add (m n : Int) : Exact .add m n (m + n)
  | sub (m n : Int) : Exact .sub m n (m - n)
  | mul (m n : Int) : Exact .mul m n (m * n)
  | div {m n k : Int} (hn : n ≠ 0) (h : k * n = m) : Exact .div m n k

/-- The value of a tree in whole numbers none of which is larger than `2 ^ 53`. -/
inductive Tree.Whole : Tree → Int → Prop where
  | leaf {run : List Char} {n : Nat} (h : WholeNumeral run n) (hn : n ≤ 2 ^ 53) :
    Whole (.leaf (String.ofList run)) n
  | node (o : Operator) {left right : Tree} {m n k : Int} (hleft : Whole left m)
    (hright : Whole right n) (h : o.Exact m n k) (hk : k.natAbs ≤ 2 ^ 53) :
    Whole (.node o.symbol left right) k

/-- A numeral of a whole number is read as this number, however many zeros are before or
behind its digits. -/
theorem WholeNumeral.ofText?_eq {run : List Char} {n : Nat} (h : WholeNumeral run n) :
    Binary64.ofText? (String.ofList run) = some (Binary64.ofFraction false n 1) := by
  cases h with
  | digits hne hdigits => exact ofText?_digits hne hdigits
  | @point digits zeros hne hdigits =>
      have hzeros : ∀ c ∈ List.replicate zeros '0', c.isDigit = true := by
        intro c hc
        rw [List.eq_of_mem_replicate hc]
        rfl
      have hscale :=
        ofFraction_mul_mul_right false (Nat.ofDigitChars 10 digits 0) 1 (tenTo_pos zeros)
      rw [ofText?_point (List.append_ne_nil_of_left_ne_nil hne _) hdigits hzeros,
        Nat.ofDigitChars_append, Nat.ofDigitChars_replicate_zero, List.length_replicate,
        ← hscale, Nat.one_mul, Nat.mul_comm]
      rfl

/-- An operator on whole numbers is exact, and a divisor is not refused. -/
theorem Operator.Exact.exists_applySymbol {o : Operator} {m n k : Int} (h : o.Exact m n k)
    (hk : k.natAbs ≤ 2 ^ 53) {a b : Binary64} (ha : a.toInt? = some m) (hb : b.toInt? = some n) :
    ∃ x, applySymbol o.symbol a b = .ok x ∧ x.toInt? = some k := by
  cases h with
  | add => exact ⟨_, applySymbol_of_ne_div (by decide) a b, Binary64.toInt?_add ha hb hk⟩
  | sub => exact ⟨_, applySymbol_of_ne_div (by decide) a b, Binary64.toInt?_sub ha hb hk⟩
  | mul => exact ⟨_, applySymbol_of_ne_div (by decide) a b, Binary64.toInt?_mul ha hb hk⟩
  | div hn h =>
      subst h
      have hzero : ¬ (Operator.div = .div ∧ b.isZero = true) :=
        fun hdiv => hn ((Binary64.isZero_of_toInt? hb).1 hdiv.2)
      refine ⟨_, ?_, Binary64.toInt?_div ha hb hn hk⟩
      rw [applySymbol_symbol, if_neg hzero]
      rfl

/-- A tree with a value in whole numbers has this value. -/
theorem Tree.exists_value_of_whole {t : Tree} {n : Int} (h : t.Whole n) :
    ∃ x, t.value = .ok x ∧ x.toInt? = some n := by
  induction h with
  | leaf h hn => exact ⟨_, by rw [value, h.ofText?_eq], Binary64.toInt?_ofFraction hn⟩
  | node o _ _ h hk ihleft ihright =>
      obtain ⟨a, ha, ham⟩ := ihleft
      obtain ⟨b, hb, hbn⟩ := ihright
      obtain ⟨x, happly, hx⟩ := h.exists_applySymbol hk ham hbn
      refine ⟨x, ?_, hx⟩
      rw [value_node, ha, Except.ok_bind_eq, hb, Except.ok_bind_eq, happly]

/-- Arithmetic of whole numbers is exact up to `2 ^ 53`. If every numeral of a phrase is a whole
number, every division leaves no remainder, and no number on the way is larger, then the
phrase has exactly this value, at every precision, and it is written in decimal digits. -/
theorem evaluate_of_whole {cs : List Char} {t : Tree} {n : Int} (h : Phrase 0 cs t)
    (hn : t.Whole n) (precision : Int) :
    ∃ v, evaluate (String.ofList cs) precision = .ok v ∧ v.isFinite = true ∧ v.value = n ∧
      v.text = toString n := by
  obtain ⟨v, hvalue, hv⟩ := Tree.exists_value_of_whole hn
  have hclean := cleanResult_of_isIntegral (Binary64.isIntegral_of_toInt? hv) precision
  refine ⟨v, ?_, Binary64.isFinite_of_toInt? hv, Binary64.value_of_toInt? hv,
    Binary64.text_of_toInt? hv⟩
  rw [h.evaluate_eq, hvalue, Except.ok_bind_eq, hclean, Except.mapError_ok_eq]

/-- A product with zeros in front and a point behind, halved, which stays whole at a negative
precision; and a product that is a zero with a sign. -/
theorem evaluate_of_whole_products :
    let cs := ['(', '-', '0', '7', '.', '*', '6', ')', '/', '2']
    let t : Tree := .node "/" (.node "-" (.leaf "0") (.node "*" (.leaf "07.") (.leaf "6")))
      (.leaf "2")
    let zero := ['0', '*', '(', '-', '3', ')']
    let t' : Tree := .node "*" (.leaf "0") (.node "-" (.leaf "0") (.leaf "3"))
    (Phrase 0 cs t ∧ t.Whole (-21) ∧
        ∃ v, evaluate (String.ofList cs) (-3) = .ok v ∧ v.isFinite = true ∧ v.value = (-21 : Int) ∧
          v.text = toString (-21 : Int)) ∧
      Phrase 0 zero t' ∧ t'.Whole 0 ∧
        ∃ v, evaluate (String.ofList zero) 12 = .ok v ∧ v.isFinite = true ∧ v.value = (0 : Int) ∧
          v.text = toString (0 : Int) := by
  intro cs t zero t'
  have hseven : Phrase 2 ['0', '7', '.'] (.leaf "07.") := .numeral 2 rfl rfl
  have hsix : Phrase 3 ['6'] (.leaf "6") := .numeral 3 rfl rfl
  have htwo : Phrase 3 ['2'] (.leaf "2") := .numeral 3 rfl rfl
  have hproduct : Phrase 2 ['0', '7', '.', '*', '6'] (.node "*" (.leaf "07.") (.leaf "6")) :=
    .operation .mul (by decide) hseven hsix
  have h : Phrase 0 cs t :=
    .operation .div (by decide) (.group (.signed (by decide) hproduct)) htwo
  have hnought : Phrase 2 ['0'] (.leaf "0") := .numeral 2 rfl rfl
  have hthree : Phrase 2 ['3'] (.leaf "3") := .numeral 2 rfl rfl
  have h' : Phrase 0 zero t' :=
    .operation .mul (by decide) hnought (.group (.signed (by decide) hthree))
  have hleaf (digit : Char) (hdigit : digit.isDigit = true)
      (hbound : Nat.ofDigitChars 10 [digit] 0 ≤ 2 ^ 53) :
      (Tree.leaf (String.ofList [digit])).Whole (Nat.ofDigitChars 10 [digit] 0) :=
    .leaf (.digits (List.cons_ne_nil digit []) (List.forall_mem_singleton.2 hdigit)) hbound
  have hseven' : (Tree.leaf "07.").Whole 7 :=
    .leaf (.point 0 (List.cons_ne_nil '0' ['7']) (by simp)) (by decide)
  have hnought' : (Tree.leaf "0").Whole 0 := hleaf '0' rfl (by decide)
  have hproduct' : (Tree.node "*" (.leaf "07.") (.leaf "6")).Whole 42 :=
    .node .mul hseven' (hleaf '6' rfl (by decide)) (.mul 7 6) (by decide)
  have hsigned : (Tree.node "-" (.leaf "0") (.node "*" (.leaf "07.") (.leaf "6"))).Whole (-42) :=
    .node .sub hnought' hproduct' (.sub 0 42) (by decide)
  have htwo' : (Tree.leaf "2").Whole 2 := hleaf '2' rfl (by decide)
  have hn : t.Whole (-21) :=
    .node .div hsigned htwo' (.div (by decide) (by decide)) (by decide)
  have hminus : (Tree.node "-" (.leaf "0") (.leaf "3")).Whole (-3) :=
    .node .sub hnought' (hleaf '3' rfl (by decide)) (.sub 0 3) (by decide)
  have hn' : t'.Whole 0 := .node .mul hnought' hminus (.mul 0 (-3)) (by decide)
  exact ⟨⟨h, hn, evaluate_of_whole h hn (-3)⟩, h', hn', evaluate_of_whole h' hn' 12⟩

/-- The next whole number after `2 ^ 53` is not reached. -/
example : (evaluate "9007199254740992+1" 12).toOption =
    (evaluate "9007199254740992" 12).toOption := by
  decide +kernel

end Reckoner
