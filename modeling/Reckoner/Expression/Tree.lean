import Reckoner.Expression.Reduction

/-!
# Expression trees

The meaning of an expression is a binary tree with numerals at its leaves. A
tree has a value, which is the recursive one, and a list of tokens in
postorder. Reducing the postorder on a stack puts the value of the tree on top
of the stack: `reduceFrom_postorder`.

`Spelled p tokens t` says that the tokens spell the tree `t` in infix order, where
an operator weaker than `p` would have to stand in parentheses. Operators of
equal strength group to the left, and parentheses may stand around any part.
-/

namespace Reckoner

/-- A binary tree with numerals at its leaves and operators inside. -/
inductive Tree where
  | leaf (text : String)
  | node (symbol : String) (left right : Tree)
deriving DecidableEq

namespace Tree

/-- The tokens of the tree, each operator behind its operands. -/
def postorder : Tree → List Token
  | leaf text => [Token.number text]
  | node symbol left right => left.postorder ++ (right.postorder ++ [⟨.operator, symbol⟩])

/-- The value of the tree. The left operand comes first, then the right one. -/
def value : Tree → Except Fault Binary64
  | leaf text =>
    match Binary64.ofText? text with
    | some x => .ok x
    | none => .error (.unreadableNumber text)
  | node symbol left right => do
    let a ← left.value
    let b ← right.value
    applySymbol symbol a b

/-- The tokens spell the tree in infix order, at a place where an operator
weaker than the given strength needs parentheses. -/
inductive Spelled : Nat → List Token → Tree → Prop where
  | number (p : Nat) (text : String) : Spelled p [Token.number text] (leaf text)
  | group {p : Nat} {tokens : List Token} {t : Tree} (h : Spelled 0 tokens t) :
    Spelled p (Token.leftParen :: (tokens ++ [Token.rightParen])) t
  | operation {p : Nat} {symbol : String} {first second : List Token} {left right : Tree}
    (hp : p ≤ (Token.mk .operator symbol).precedence)
    (hleft : Spelled (Token.mk .operator symbol).precedence first left)
    (hright : Spelled ((Token.mk .operator symbol).precedence + 1) second right) :
    Spelled p (first ++ ⟨.operator, symbol⟩ :: second) (node symbol left right)

@[simp] theorem postorder_leaf (text : String) :
    (leaf text).postorder = [Token.number text] := rfl

@[simp] theorem postorder_node (symbol : String) (left right : Tree) :
    (node symbol left right).postorder =
      left.postorder ++ (right.postorder ++ [⟨.operator, symbol⟩]) := rfl

theorem value_node (symbol : String) (left right : Tree) :
    (node symbol left right).value = (do
      let a ← left.value
      let b ← right.value
      applySymbol symbol a b) := rfl

/-- What is spelled at a place is also spelled where fewer operators need
parentheses. -/
theorem Spelled.of_le {p q : Nat} {tokens : List Token} {t : Tree} (hpq : p ≤ q)
    (h : Spelled q tokens t) : Spelled p tokens t := by
  cases h with
  | number => exact .number p _
  | group h => exact .group h
  | operation hp hleft hright => exact .operation (Nat.le_trans hpq hp) hleft hright

/-- Reducing the postorder of a tree pushes the value of the tree, and goes on
with the tokens that follow. -/
theorem reduceFrom_postorder (t : Tree) (stack : List Binary64) (rest : List Token) :
    Token.reduceFrom stack (t.postorder ++ rest) = (do
      let x ← t.value
      Token.reduceFrom (x :: stack) rest) := by
  induction t generalizing stack rest with
  | leaf text =>
    rw [postorder_leaf, List.cons_append, List.nil_append, Token.reduceFrom_cons]
    simp only [Token.reduceStep, Token.number, value]
    cases Binary64.ofText? text <;> rfl
  | node symbol left right ihLeft ihRight =>
    rw [postorder_node, List.append_assoc, ihLeft, value]
    cases left.value with
    | error cause => rfl
    | ok a =>
      simp only [bind, Except.bind]
      rw [List.append_assoc, ihRight]
      cases right.value with
      | error cause => rfl
      | ok b =>
        simp only [bind, Except.bind]
        rw [List.cons_append, List.nil_append, Token.reduceFrom_cons]
        simp only [Token.reduceStep]
        cases applySymbol symbol a b <;> rfl

end Tree

end Reckoner
