import Reckoner.Proofs.Classification
import Reckoner.Proofs.Stages

/-!
# What is accepted

A reduction leaves a single number exactly if its tokens are the postorder of a
tree, and the number is the value of the tree (`reduceFrom_eq_singleton_iff`).
So a text has a value if the ordering stage turns its tokens into the postorder
of a tree, wherever its operators stand: they may also stand behind their
operands. Not every such text is an infix expression (`not_infix_of_evaluate`).
-/

namespace Reckoner

open Token

/-! ### Trees of a reduction -/

namespace Tree

/-- The numbers are the values of the trees. -/
abbrev Values (trees : List Tree) (stack : List Binary64) : Prop :=
  List.Forall₂ (fun t x => t.value = .ok x) trees stack

/-- The postorders of the trees, the last tree first. -/
def tokens (trees : List Tree) : List Token := trees.reverse.flatMap postorder

theorem tokens_cons (t : Tree) (trees : List Tree) :
    tokens (t :: trees) = tokens trees ++ t.postorder := by
  rw [tokens, List.reverse_cons, List.flatMap_append, List.flatMap_singleton, tokens]

end Tree

namespace Token

/-- A token that is reduced completes a tree. -/
theorem exists_tree_of_reduceStep {trees : List Tree} {stack after : List Binary64} {t : Token}
    (hvalues : Tree.Values trees stack) (h : reduceStep stack t = .ok after) :
    ∃ trees', Tree.Values trees' after ∧ Tree.tokens trees' = Tree.tokens trees ++ [t] := by
  cases t with
  | mk kind text =>
      cases kind with
      | number =>
          simp only [reduceStep] at h
          split at h
          · next x hx =>
            obtain rfl := Except.ok.inj h
            refine ⟨.leaf text :: trees, .cons ?_ hvalues, Tree.tokens_cons _ _⟩
            rw [Tree.value, hx]
          · cases h
      | operator =>
          simp only [reduceStep] at h
          split at h
          · next b a rest =>
            obtain ⟨x, hx, rfl⟩ := Except.map_eq_ok_iff.1 h
            rcases hvalues with _ | ⟨hright, _ | ⟨hleft, hrest⟩⟩
            rename_i right left trees
            refine ⟨.node text left right :: trees, .cons ?_ hrest, ?_⟩
            · rw [Tree.value_node, hleft, hright, Except.ok_bind_eq, Except.ok_bind_eq, hx]
            · simp only [Tree.tokens_cons, Tree.postorder_node, List.append_assoc]
          · cases h
      | leftParen => cases h
      | rightParen => cases h

theorem exists_trees_of_reduceFrom {trees : List Tree} {stack after : List Binary64}
    {ordered : List Token} (hvalues : Tree.Values trees stack)
    (h : reduceFrom stack ordered = .ok after) :
    ∃ trees', Tree.Values trees' after ∧ Tree.tokens trees' = Tree.tokens trees ++ ordered := by
  induction ordered generalizing trees stack with
  | nil =>
      obtain rfl := Except.ok.inj h
      exact ⟨trees, hvalues, by simp⟩
  | cons t ordered ih =>
      rw [reduceFrom_cons] at h
      obtain ⟨middle, hstep, hrest⟩ := Except.bind_eq_ok_iff.1 h
      obtain ⟨trees', hvalues', htokens⟩ := exists_tree_of_reduceStep hvalues hstep
      obtain ⟨trees'', hvalues'', htokens'⟩ := ih hvalues' hrest
      refine ⟨trees'', hvalues'', ?_⟩
      rw [htokens', htokens, List.append_assoc, List.singleton_append]

/-- A single number is left exactly if the tokens are the postorder of a tree
with this value. -/
theorem reduceFrom_eq_singleton_iff {ordered : List Token} {x : Binary64} :
    reduceFrom [] ordered = .ok [x] ↔ ∃ t : Tree, ordered = t.postorder ∧ t.value = .ok x := by
  constructor
  · intro h
    have hempty : Tree.Values [] [] := .nil
    obtain ⟨trees, hvalues, htokens⟩ := exists_trees_of_reduceFrom hempty h
    rcases hvalues with _ | ⟨hvalue, _ | _⟩
    rename_i t
    refine ⟨t, ?_, hvalue⟩
    simpa [Tree.tokens] using htokens.symm
  · rintro ⟨t, rfl, hvalue⟩
    have := Tree.reduceFrom_postorder t [] []
    rw [List.append_nil, hvalue] at this
    exact this

end Token

/-! ### Accepted texts -/

/-- A text has a value exactly if its tokens are ordered into the postorder of a
tree that has one; every other text is refused with one of the failures. -/
theorem evaluate_eq_ok_iff_exists_tree (text : String) (precision : Int) :
    (∀ value, evaluate text precision = .ok value ↔
        ∃ tokens t x, scan text = .ok tokens ∧ toPostfix tokens = .ok (Tree.postorder t) ∧
          t.value = .ok x ∧ cleanResult x precision = .ok value) ∧
      ((∀ value, evaluate text precision ≠ .ok value) →
        ∃ cause, evaluate text precision = .error (.failure cause)) := by
  constructor
  · intro value
    rw [evaluate_eq_ok_iff]
    constructor
    · rintro ⟨tokens, ordered, x, hscan, hordered, hreduce, hclean⟩
      obtain ⟨t, rfl, hvalue⟩ := reduceFrom_eq_singleton_iff.1 hreduce
      exact ⟨tokens, t, x, hscan, hordered, hvalue, hclean⟩
    · rintro ⟨tokens, t, x, hscan, hordered, hvalue, hclean⟩
      exact ⟨tokens, _, x, hscan, hordered, reduceFrom_eq_singleton_iff.2 ⟨t, rfl, hvalue⟩, hclean⟩
  · intro hrefused
    rcases evaluate_ok_or_failure text precision with ⟨value, hvalue, -⟩ | hfailure
    · exact absurd hvalue (hrefused value)
    · exact hfailure

/-! ### Infix expressions -/

/-- The characters are an infix expression, at a place where an operator weaker
than the given strength needs parentheses. A sign may stand before any factor,
and spaces around every part. -/
inductive Infix : Nat → List Char → Prop where
  | numeral (p : Nat) {run : List Char} (hrun : run.all isNumeralChar) (h : isNumeral run) :
    Infix p run
  | group {p : Nat} {cs : List Char} (h : Infix 0 cs) : Infix p ('(' :: (cs ++ [')']))
  | operation {p : Nat} (o : Operator) {first second : List Char} (hp : p ≤ o.precedence)
    (hleft : Infix o.precedence first) (hright : Infix (o.precedence + 1) second) :
    Infix p (first ++ o.char :: second)
  | signed {p : Nat} {cs : List Char} (h : Infix 3 cs) : Infix p ('-' :: cs)
  | spaceBefore {p : Nat} {cs : List Char} (h : Infix p cs) : Infix p (' ' :: cs)
  | spaceAfter {p : Nat} {cs : List Char} (h : Infix p cs) : Infix p (cs ++ [' '])

/-- Behind the last operator of an infix expression stands its right operand. -/
theorem Infix.exists_last {p : Nat} {cs : List Char} (h : Infix p cs) :
    ∃ before c blanks, cs = before ++ c :: blanks ∧ (∀ b ∈ blanks, b = ' ') ∧
      (isNumeralChar c = true ∨ c = ')') := by
  induction h with
  | @numeral p run hrun h =>
      have hne : run ≠ [] := by
        rintro rfl
        cases h
      have hlast := List.all_eq_true.1 hrun _ (List.getLast_mem hne)
      exact ⟨run.dropLast, run.getLast hne, [], (List.dropLast_append_getLast hne).symm, by simp,
        .inl hlast⟩
  | @group p cs _ _ => exact ⟨'(' :: cs, ')', [], rfl, by simp, .inr rfl⟩
  | @operation p o first second _ _ _ _ ih =>
      obtain ⟨before, c, blanks, rfl, hblanks, hc⟩ := ih
      exact ⟨first ++ o.char :: before, c, blanks, by simp, hblanks, hc⟩
  | signed _ ih =>
      obtain ⟨before, c, blanks, rfl, hblanks, hc⟩ := ih
      exact ⟨'-' :: before, c, blanks, rfl, hblanks, hc⟩
  | spaceBefore _ ih =>
      obtain ⟨before, c, blanks, rfl, hblanks, hc⟩ := ih
      exact ⟨' ' :: before, c, blanks, rfl, hblanks, hc⟩
  | spaceAfter _ ih =>
      obtain ⟨before, c, blanks, rfl, hblanks, hc⟩ := ih
      refine ⟨before, c, blanks ++ [' '], by simp, fun b hb => ?_, hc⟩
      rcases List.mem_append.1 hb with hb | hb
      · exact hblanks b hb
      · exact List.mem_singleton.1 hb

theorem not_infix_append_operator (p : Nat) (cs : List Char) (o : Operator) :
    ¬ Infix p (cs ++ [o.char]) := by
  intro h
  obtain ⟨before, c, blanks, hsplit, hblanks, hc⟩ := h.exists_last
  have hlast : (c :: blanks).getLast? = some o.char := by
    rw [← List.getLast?_append_cons before c blanks, ← hsplit, List.getLast?_concat]
  rcases List.mem_cons.1 (List.mem_of_getLast? hlast) with rfl | hmem
  · rcases hc with hc | hc
    · rw [isNumeralChar_char] at hc
      cases hc
    · cases o <;> cases hc
  · have hspace := hblanks _ hmem
    cases o <;> cases hspace

/-- Texts that are no infix expressions have values: an operator may stand
behind both of its operands. -/
theorem not_infix_of_evaluate :
    ¬ ∀ text precision value, evaluate text precision = .ok value → Infix 0 text.toList := by
  intro hall
  have hvalue : evaluate "1 2 +" 12 = .ok (.ofInt 3) := Except.eq_ok_of_toOption (by decide +kernel)
  have h : Infix 0 (['1', ' ', '2', ' '] ++ [Operator.add.char]) := hall _ _ _ hvalue
  exact not_infix_append_operator 0 _ .add h

end Reckoner
