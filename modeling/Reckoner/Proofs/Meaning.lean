import Reckoner.Expression.Evaluation
import Reckoner.Expression.Phrase
import Reckoner.Proofs.Number.Reading
import Reckoner.Proofs.Ordering
import Reckoner.Proofs.Scanning
import Reckoner.Proofs.Stages

/-!
# The value of a phrase

The three stages of an evaluation agree with the grammar: the scanner turns a
phrase into tokens that spell its tree, the ordering turns those into the
postorder of the tree, and the reduction of a postorder is the recursive value.
So the outcome for a phrase is the outcome for its tree, and a division by zero
is all that can go wrong before the result is rounded: `evaluate_of_phrase`.
-/

namespace Reckoner

open Token

/-- The scanner turns a phrase, at a place where an operand is expected, into
tokens that spell the tree of the phrase. No operand is expected behind it. -/
theorem Phrase.scanFrom_spelled {p : Nat} {cs : List Char} {t : Tree} (h : Phrase p cs t)
    {previous : Option TokenKind} (hprevious : expectsOperand previous = true)
    (position : Nat) :
    ∃ tokens, scanFrom previous position cs = .ok tokens ∧ Tree.Spelled p tokens t ∧
      expectsOperand (lastKind previous tokens) = false := by
  induction h generalizing previous position with
  | @numeral p run hrun h =>
      refine ⟨[number (String.ofList run)], ?_, .number p _, rfl⟩
      have hscan : scanFrom previous position (run ++ []) = _ :=
        scanFrom_run previous position hrun h (by simp)
      rw [List.append_nil, scanFrom_nil] at hscan
      exact hscan
  | @group p cs t _ ih =>
      obtain ⟨tokens, hscan, hspelled, -⟩ :=
        ih (show expectsOperand (some .leftParen) = true from rfl) (position + 1)
      have hclose : scanFrom (lastKind (some .leftParen) tokens) (position + 1 + cs.length) [')'] =
          .ok [rightParen] :=
        scanFrom_mark_of_ok (t := rightParen) rfl (scanFrom_nil _ _)
      have hinner := scanFrom_append_of_ok (by simp [isNumeralChar]) hscan hclose
      exact ⟨leftParen :: (tokens ++ [rightParen]), scanFrom_mark_of_ok (t := leftParen) rfl hinner,
        .group hspelled, by simp [expectsOperand]⟩
  | @operation p o first second left right hp _ _ ihleft ihright =>
      obtain ⟨tokens, hscan, hspelled, hlast⟩ := ihleft hprevious position
      obtain ⟨tokens', hscan', hspelled', hlast'⟩ :=
        ihright (show expectsOperand (some .operator) = true from rfl)
          (position + first.length + 1)
      have hoperator : scanFrom (lastKind previous tokens) (position + first.length)
          (o.char :: second) = .ok (operator o :: tokens') := by
        rw [scanFrom_mark_of_ok (ofMark?_char o) hscan', impliedZero_of_expectsOperand hlast,
          List.nil_append]
      refine ⟨tokens ++ operator o :: tokens',
        scanFrom_append_of_ok (by simp) hscan hoperator, .operator hp hspelled hspelled', ?_⟩
      rw [lastKind_append, lastKind_cons]
      exact hlast'
  | @signed p cs t hp _ ih =>
      obtain ⟨tokens, hscan, hspelled, hlast⟩ :=
        ih (show expectsOperand (some .operator) = true from rfl) (position + 1)
      have hzero : impliedZero previous (operator .sub) = [number "0"] := by
        simp [impliedZero, hprevious]
      have hsign : scanFrom previous position (Operator.sub.char :: cs) =
          .ok ([number "0"] ++ operator .sub :: tokens) := by
        rw [scanFrom_mark_of_ok (ofMark?_char .sub) hscan, hzero]
      exact ⟨[number "0"] ++ operator .sub :: tokens, hsign, .operator hp (.number _ _) hspelled,
        by simpa using hlast⟩
  | spaceBefore _ ih =>
      obtain ⟨tokens, hscan, hspelled, hlast⟩ := ih hprevious (position + 1)
      exact ⟨tokens, by rw [scanFrom_space, hscan], hspelled, hlast⟩
  | @spaceAfter p cs t _ ih =>
      obtain ⟨tokens, hscan, hspelled, hlast⟩ := ih hprevious position
      refine ⟨tokens, ?_, hspelled, hlast⟩
      have hspace : scanFrom (lastKind previous tokens) (position + cs.length) [' '] = .ok [] := by
        rw [scanFrom_space, scanFrom_nil]
      simpa using scanFrom_append_of_ok (by simp [isNumeralChar]) hscan hspace

/-- The postorder of a tree has the outcome of the tree, rounded. -/
theorem reduce_postorder (t : Tree) (precision : Int) :
    reduce t.postorder precision = (do
      let x ← t.value
      (cleanResult x precision).mapError .failure) := by
  have hreduce := Tree.reduceFrom_postorder t [] []
  rw [List.append_nil] at hreduce
  rw [reduce, hreduce]
  cases t.value <;> rfl

/-- The outcome for a text is that of the tree which its tokens spell. -/
theorem evaluate_of_spelled {p : Nat} {text : String} {tokens : List Token} {t : Tree}
    (hscan : scan text = .ok tokens) (h : Tree.Spelled p tokens t) (precision : Int) :
    evaluate text precision = (do
      let x ← t.value
      (cleanResult x precision).mapError .failure) := by
  rw [evaluate_of_toPostfix hscan (toPostfix_of_spelled h), reduce_postorder]

/-! ### What keeps a reduction from its result -/

/-- A number that can be read, or one of the four operators. -/
inductive Reducible : Token → Prop where
  | number {text : String} {x : Binary64} (h : Binary64.ofText? text = some x) :
    Reducible (.number text)
  | operator (o : Operator) : Reducible (.operator o)

/-- Only an operator fails: it lacks operands, or it divides by zero. -/
theorem reduceStep_eq_error {stack : List Binary64} {t : Token} (ht : Reducible t) {fault : Fault}
    (h : reduceStep stack t = .error fault) :
    ∃ o, t = operator o ∧
      (stack.length < 2 ∧ fault = .failure (.insufficientOperands o.symbol) ∨
        ∃ b a rest, stack = b :: a :: rest ∧ o = .div ∧ b.isZero = true ∧
          fault = .failure .divisionByZero) := by
  cases ht with
  | @number text x hx =>
      simp only [reduceStep, number, hx] at h
      cases h
  | operator o =>
      refine ⟨o, rfl, ?_⟩
      rcases stack with _ | ⟨b, _ | ⟨a, rest⟩⟩
      · exact .inl ⟨by simp, (Except.error.inj h).symm⟩
      · exact .inl ⟨by simp, (Except.error.inj h).symm⟩
      · have happly : applySymbol o.symbol a b = .error fault := Except.map_eq_error_iff.1 h
        rw [applySymbol_symbol] at happly
        split at happly
        · next hdiv => exact .inr ⟨b, a, rest, rfl, hdiv.1, hdiv.2, (Except.error.inj happly).symm⟩
        · cases happly

theorem eq_divisionByZero_of_applySymbol {o : Operator} {a b : Binary64} {fault : Fault}
    (h : applySymbol o.symbol a b = .error fault) : fault = .failure .divisionByZero := by
  rw [applySymbol_symbol] at h
  split at h
  · exact (Except.error.inj h).symm
  · cases h

/-- What a node fails with, one of its operands or its operator fails with. -/
theorem Tree.value_node_eq_error {symbol : String} {left right : Tree} {fault : Fault}
    (h : (node symbol left right).value = .error fault) :
    left.value = .error fault ∨ right.value = .error fault ∨
      ∃ a b, applySymbol symbol a b = .error fault := by
  rw [value] at h
  cases hleft : left.value with
  | error cause =>
      rw [hleft] at h
      exact .inl h
  | ok a =>
      cases hright : right.value with
      | error cause =>
          rw [hleft, hright] at h
          exact .inr (.inl h)
      | ok b =>
          rw [hleft, hright] at h
          exact .inr (.inr ⟨a, b, h⟩)

/-- A tree of readable numbers and the four operators has a value unless a divisor is zero. -/
theorem Tree.eq_divisionByZero {t : Tree} (ht : ∀ x ∈ t.postorder, Reducible x) {fault : Fault}
    (h : t.value = .error fault) : fault = .failure .divisionByZero := by
  induction t generalizing fault with
  | leaf text =>
      cases ht _ List.mem_cons_self with
      | number hx =>
          rw [value, hx] at h
          cases h
  | node symbol left right ihLeft ihRight =>
      simp only [postorder_node, List.forall_mem_append, List.forall_mem_singleton] at ht
      obtain ⟨hleft, hright, hsymbol⟩ := ht
      rcases value_node_eq_error h with h | h | ⟨a, b, h⟩
      · exact ihLeft hleft h
      · exact ihRight hright h
      · cases hsymbol with
        | operator o => exact eq_divisionByZero_of_applySymbol h

/-- The tree of a phrase is made of readable numbers and the four operators. -/
theorem Phrase.reducible {p : Nat} {cs : List Char} {t : Tree} (h : Phrase p cs t) :
    ∀ x ∈ t.postorder, Reducible x := by
  induction h with
  | numeral _ hrun h =>
      obtain ⟨x, hx⟩ := isSome_ofText?_of_isNumeral hrun h
      exact List.forall_mem_singleton.2 (.number hx)
  | group _ ih => exact ih
  | operation o _ _ _ ihleft ihright =>
      simp only [Tree.postorder_node, List.forall_mem_append, List.forall_mem_singleton]
      exact ⟨ihleft, ihright, .operator o⟩
  | signed _ _ ih =>
      simp only [Tree.postorder_node, Tree.postorder_leaf, List.forall_mem_append,
        List.forall_mem_singleton]
      exact ⟨.number ofText?_zero, ih, .operator .sub⟩
  | spaceBefore _ ih => exact ih
  | spaceAfter _ ih => exact ih

/-- The tree of a phrase has a value unless a divisor is zero. -/
theorem Phrase.eq_divisionByZero {p : Nat} {cs : List Char} {t : Tree} (h : Phrase p cs t)
    {fault : Fault} (hfault : t.value = .error fault) : fault = .failure .divisionByZero :=
  Tree.eq_divisionByZero h.reducible hfault

/-- The outcome for a phrase is that of its tree, rounded. -/
theorem Phrase.evaluate_eq {cs : List Char} {t : Tree} (h : Phrase 0 cs t) (precision : Int) :
    evaluate (String.ofList cs) precision = (do
      let x ← t.value
      (cleanResult x precision).mapError .failure) := by
  obtain ⟨tokens, hscan, hspelled, -⟩ :=
    h.scanFrom_spelled (show expectsOperand none = true from rfl) 0
  have htokens : scan (String.ofList cs) = .ok tokens := by
    rw [scan, String.toList_ofList, hscan]
  exact evaluate_of_spelled htokens hspelled precision

/-- The outcome for a phrase is the recursive value of its tree, rounded: every
operator is applied to the values of its own two operands, the left one first,
and nothing but a divisor that is zero keeps the tree from having a value. -/
theorem evaluate_of_phrase {cs : List Char} {t : Tree} (h : Phrase 0 cs t) (precision : Int) :
    evaluate (String.ofList cs) precision = (do
        let x ← t.value
        (cleanResult x precision).mapError .failure) ∧
      ∀ fault, t.value = .error fault → fault = .failure .divisionByZero :=
  ⟨h.evaluate_eq precision, fun _ => h.eq_divisionByZero⟩

/-- A sign, a group and blanks, with a divisor that is zero. -/
theorem evaluate_of_phrase_signed :
    let cs := ['-', '(', '2', ' ', '+', '.', '5', ')', '*', '4', '/', ' ', '0']
    let t : Tree := .node "-" (.leaf "0") (.node "/" (.node "*" (.node "+" (.leaf "2") (.leaf ".5"))
      (.leaf "4")) (.leaf "0"))
    Phrase 0 cs t ∧ t.value = .error (.failure .divisionByZero) ∧
      evaluate (String.ofList cs) 12 = .error (.failure .divisionByZero) := by
  intro cs t
  have htwo : Phrase 1 ['2'] (.leaf "2") := .numeral 1 rfl rfl
  have hhalf : Phrase 2 ['.', '5'] (.leaf ".5") := .numeral 2 rfl rfl
  have hfour : Phrase 3 ['4'] (.leaf "4") := .numeral 3 rfl rfl
  have hzero : Phrase 3 ['0'] (.leaf "0") := .numeral 3 rfl rfl
  have hsum : Phrase 0 ['2', ' ', '+', '.', '5'] (.node "+" (.leaf "2") (.leaf ".5")) :=
    .operation .add (by decide) (.spaceAfter htwo) hhalf
  have hproduct : Phrase 2 ['(', '2', ' ', '+', '.', '5', ')', '*', '4']
      (.node "*" (.node "+" (.leaf "2") (.leaf ".5")) (.leaf "4")) :=
    .operation .mul (by decide) (.group hsum) hfour
  have h : Phrase 0 cs t :=
    .signed (by decide) (.operation .div (by decide) hproduct (.spaceBefore hzero))
  have hvalue : t.value = .error (.failure .divisionByZero) := by decide +kernel
  obtain ⟨hevaluate, -⟩ := evaluate_of_phrase h 12
  rw [hvalue] at hevaluate
  exact ⟨h, hvalue, hevaluate⟩

end Reckoner
