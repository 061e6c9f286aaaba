import Reckoner.Proofs.Nesting

/-!
# Denoting a tree

Tokens denote a tree if they spell it, whatever is written in their parentheses:
parentheses stand where strength and grouping to the left demand them, and as many
more as one likes may stand around any part. Every tree is denoted by some tokens, and
whatever denotes it is put into its postorder (`toPostfix_of_denotes`).

The ordering stage never looks at the text of a parenthesis, so it does not matter
whether the usual text is put in its place before or after the tokens are ordered
(`toPostfix_map_plain`).
-/

namespace Reckoner

namespace Token

/-! ### The text of a parenthesis -/

/-- The token, with the usual text if it is a parenthesis. -/
def plain (t : Token) : Token :=
  match t.kind with
  | .number | .operator => t
  | .leftParen => leftParen
  | .rightParen => rightParen

@[simp] theorem kind_plain (t : Token) : t.plain.kind = t.kind := by
  unfold plain
  split <;> simp_all

theorem plain_of_not_isParen {t : Token} (h : t.isParen = false) : t.plain = t := by
  unfold plain
  split <;> simp_all [isParen]

@[simp] theorem isOperator_plain (t : Token) : t.plain.isOperator = t.isOperator := by
  rw [isOperator, kind_plain, isOperator]

@[simp] theorem precedence_plain (t : Token) : t.plain.precedence = t.precedence := by
  cases hparen : t.isParen with
  | false => rw [plain_of_not_isParen hparen]
  | true =>
      have hoperator : t.isOperator = false := by
        cases hkind : t.kind <;> simp_all [isParen, isOperator]
      simp [precedence, hoperator]

theorem releases_plain (t top : Token) : t.plain.releases top.plain = t.releases top := by
  rw [releases, isOperator_plain, precedence_plain, precedence_plain, releases]

/-- What a token releases does not depend on the texts of parentheses. -/
theorem shunt_map_plain (stack : List Token) (t : Token) :
    shunt (stack.map plain) t.plain =
      (shunt stack t).map (Prod.map (List.map plain) (List.map plain)) := by
  have hreleases : t.plain.releases ∘ plain = t.releases := funext (releases_plain t)
  have hopening : (fun x : Token => x.kind != .leftParen) ∘ plain = fun x => x.kind != .leftParen :=
    funext fun x => by simp
  cases hkind : t.kind with
  | number => simp [shunt, hkind]
  | operator => simp [shunt, hkind, List.takeWhile_map, List.dropWhile_map, hreleases]
  | leftParen => simp [shunt, hkind]
  | rightParen =>
      simp only [shunt, kind_plain, hkind, List.takeWhile_map, List.dropWhile_map, hopening]
      cases stack.dropWhile fun x => x.kind != .leftParen <;> rfl

theorem unstack_map_plain (stack : List Token) :
    unstack (stack.map plain) = (unstack stack).map (List.map plain) := by
  have hparen : isParen ∘ plain = isParen := funext fun t => by simp [isParen]
  rw [unstack, unstack, List.any_map, hparen]
  split <;> rfl

theorem postfixFrom_map_plain (stack tokens : List Token) :
    postfixFrom (stack.map plain) (tokens.map plain) =
      (postfixFrom stack tokens).map (List.map plain) := by
  induction tokens generalizing stack with
  | nil => exact unstack_map_plain stack
  | cons t tokens ih =>
      rw [List.map_cons, postfixFrom_cons, postfixFrom_cons, shunt_map_plain]
      cases shunt stack t with
      | error cause => rfl
      | ok outcome =>
          simp only [Except.map_ok_eq, Except.ok_bind_eq, Prod.map, ih]
          cases postfixFrom outcome.2 tokens with
          | error cause => rfl
          | ok output => simp [pure, Except.pure]

/-- Tokens are ordered in the same way with the usual texts in their parentheses. -/
theorem toPostfix_map_plain (tokens : List Token) :
    toPostfix (tokens.map plain) = (toPostfix tokens).map (List.map plain) :=
  postfixFrom_map_plain [] tokens

end Token

/-! ### The tokens of a tree -/

namespace Tree

/-- The tokens of the tree in infix order, with no more parentheses than are demanded
at a place where an operator weaker than `p` needs them. -/
def inorder (p : Nat) : Tree → List Token
  | leaf text => [Token.number text]
  | node symbol left right =>
    let o : Token := ⟨.operator, symbol⟩
    let body := left.inorder o.precedence ++ o :: right.inorder (o.precedence + 1)
    if p ≤ o.precedence then body else Token.leftParen :: (body ++ [Token.rightParen])

theorem spelled_inorder (p : Nat) (t : Tree) : Spelled p (t.inorder p) t := by
  induction t generalizing p with
  | leaf text => exact .number p text
  | node symbol left right ihleft ihright =>
      rw [inorder]
      split
      · next hp => exact .operation hp (ihleft _) (ihright _)
      · exact .group (.operation (Nat.zero_le _) (ihleft _) (ihright _))

/-- The tokens denote the tree, whatever is written in their parentheses. -/
def Denotes (tokens : List Token) (t : Tree) : Prop := Spelled 0 (tokens.map Token.plain) t

/-- Where the parentheses are written as usual, to denote is to spell. -/
theorem denotes_of_spelled {p : Nat} {tokens : List Token} {t : Tree} (h : Spelled p tokens t) :
    Denotes tokens t := by
  have hplain : tokens.map Token.plain = tokens := by
    induction h with
    | number => rfl
    | group _ ih => simp [ih, Token.plain]
    | operation _ _ _ ihleft ihright => simp [ihleft, ihright, Token.plain]
  rw [Denotes, hplain]
  exact h.of_le (Nat.zero_le p)

end Tree

namespace Token

/-- Every tree is denoted by its tokens in infix order, and whatever tokens denote it
are put into its postorder. -/
theorem toPostfix_of_denotes (t : Tree) :
    Tree.Denotes (t.inorder 0) t ∧
      ∀ tokens, Tree.Denotes tokens t → toPostfix tokens = .ok t.postorder := by
  refine ⟨Tree.denotes_of_spelled (t.spelled_inorder 0), fun tokens htokens => ?_⟩
  have hplain := toPostfix_of_spelled htokens
  rw [toPostfix_map_plain, Except.map_eq_ok_iff] at hplain
  obtain ⟨ordered, hordered, hpost⟩ := hplain
  have hkept : ordered.map plain = ordered := by
    conv_rhs => rw [← List.map_id ordered]
    exact List.map_congr_left fun x hx => plain_of_not_isParen (mem_of_toPostfix hordered x hx).1
  rw [hordered, ← hpost, hkept]

/-- An unknown operator is the weakest, and the two pairs of parentheses around the
first difference are not needed. -/
theorem toPostfix_of_denotes_redundant :
    let sub : Token := operator .sub
    let mul : Token := operator .mul
    let power : Token := ⟨.operator, "^"⟩
    let tokens := [leftParen, ⟨.leftParen, "["⟩, number "8", sub, number "3", ⟨.rightParen, "]"⟩,
      rightParen, sub, number "2", power, number "4", mul, leftParen, number "5", sub, number "1",
      rightParen]
    let t : Tree := .node "^" (.node "-" (.node "-" (.leaf "8") (.leaf "3")) (.leaf "2"))
      (.node "*" (.leaf "4") (.node "-" (.leaf "5") (.leaf "1")))
    Tree.Denotes tokens t ∧ toPostfix tokens = .ok t.postorder := by
  intro sub mul power tokens t
  have hdifference (p : Nat) (text text' : String) : Tree.Spelled p
      [leftParen, number text, sub, number text', rightParen]
      (.node "-" (.leaf text) (.leaf text')) :=
    .group (.operator (Nat.zero_le _) (.number _ text) (.number _ text'))
  have hfirst : Tree.Spelled power.precedence [leftParen, leftParen, number "8", sub, number "3",
      rightParen, rightParen, sub, number "2"] _ :=
    .operator (by decide) (.group (hdifference 0 "8" "3")) (.number _ "2")
  have hsecond : Tree.Spelled (power.precedence + 1) [number "4", mul, leftParen, number "5", sub,
      number "1", rightParen] _ :=
    .operator (by decide) (.number _ "4") (hdifference _ "5" "1")
  have h : Tree.Denotes tokens t := Tree.Spelled.operation (Nat.zero_le _) hfirst hsecond
  exact ⟨h, (toPostfix_of_denotes t).2 tokens h⟩

end Token

end Reckoner
