import Mathlib.Data.List.TakeWhile
import Reckoner.Expression.Postfix
import Reckoner.Expression.Tree
import Reckoner.Proofs.Outcome

/-!
# Ordering what spells a tree

Tokens that spell a tree are put into the postorder of that tree. The operators
that still wait on the stack when the last of these tokens has been read are
the end of the postorder, and none of them is weaker than the place demands:
`postfixFrom_append_of_spelled`.
-/

namespace Reckoner

/-- Two parts with one of the four operators between them. -/
theorem Tree.Spelled.operator {p : Nat} {o : Operator} {first second : List Token}
    {left right : Tree} (hp : p ≤ o.precedence) (hleft : Spelled o.precedence first left)
    (hright : Spelled (o.precedence + 1) second right) :
    Spelled p (first ++ Token.operator o :: second) (node o.symbol left right) := by
  rw [← Token.precedence_operator o] at hp hleft hright
  exact .operation hp hleft hright

namespace Token

/-- An operator of at least the strength `p`. -/
def Waits (p : Nat) (t : Token) : Prop := t.isOperator = true ∧ p ≤ t.precedence

theorem Waits.kind_eq {p : Nat} {t : Token} (h : Waits p t) : t.kind = .operator := by
  simpa [isOperator] using h.1

/-- Nothing on top of the stack is an operator of at least the strength `p`. -/
def Settled (p : Nat) (stack : List Token) : Prop := ∀ top ∈ stack.head?, ¬ Waits p top

theorem Settled.of_le {p q : Nat} {stack : List Token} (hpq : p ≤ q) (h : Settled p stack) :
    Settled q stack :=
  fun top htop hwaits => h top htop ⟨hwaits.1, Nat.le_trans hpq hwaits.2⟩

theorem settled_cons_of_lt {p : Nat} {t : Token} (h : t.precedence < p) (stack : List Token) :
    Settled p (t :: stack) := by
  intro top htop hwaits
  obtain rfl : t = top := by simpa using htop
  exact absurd hwaits.2 (Nat.not_le.2 h)

theorem settled_leftParen (p : Nat) (stack : List Token) : Settled p (leftParen :: stack) := by
  intro top htop hwaits
  obtain rfl : leftParen = top := by simpa using htop
  exact absurd hwaits.1 (by decide)

theorem releases_eq_true_iff {t top : Token} :
    t.releases top = true ↔ Waits t.precedence top := by
  simp [releases, Waits]

/-- What shunting a token does. A number is released, and the stack stays. An operator releases
what waits on top of a settled rest, and is stacked. An opening parenthesis is stacked. A closing
one releases all that is above the last opening one, which is dropped. -/
inductive Shunts : List Token → Token → List Token → List Token → Prop where
  | number {stack : List Token} {t : Token} (hkind : t.kind = .number) : Shunts stack t [t] stack
  | operator {released rest : List Token} {t : Token} (hkind : t.kind = .operator)
    (hreleased : ∀ x ∈ released, Waits t.precedence x) (hrest : Settled t.precedence rest) :
    Shunts (released ++ rest) t released (t :: rest)
  | leftParen {stack : List Token} {t : Token} (hkind : t.kind = .leftParen) :
    Shunts stack t [] (t :: stack)
  | rightParen {released rest : List Token} {t paren : Token} (hkind : t.kind = .rightParen)
    (hreleased : ∀ x ∈ released, x.kind ≠ .leftParen) (hparen : paren.kind = .leftParen) :
    Shunts (released ++ paren :: rest) t released rest

theorem shunts_of_shunt {stack released after : List Token} {t : Token}
    (h : shunt stack t = .ok (released, after)) : Shunts stack t released after := by
  cases hkind : t.kind with
  | number =>
      rw [shunt, hkind] at h
      obtain ⟨rfl, rfl⟩ := Prod.mk.inj (Except.ok.inj h)
      exact .number hkind
  | operator =>
      rw [shunt, hkind] at h
      obtain ⟨rfl, rfl⟩ := Prod.mk.inj (Except.ok.inj h)
      have hrest : Settled t.precedence (stack.dropWhile t.releases) := by
        intro top htop hwaits
        have hhead := List.head?_dropWhile_not t.releases stack
        rw [Option.mem_def.1 htop] at hhead
        simp [releases_eq_true_iff.2 hwaits] at hhead
      have hshunts : Shunts (stack.takeWhile t.releases ++ stack.dropWhile t.releases) t _ _ :=
        .operator hkind (fun x hx => releases_eq_true_iff.1 (List.mem_takeWhile_imp hx)) hrest
      rwa [List.takeWhile_append_dropWhile] at hshunts
  | leftParen =>
      rw [shunt, hkind] at h
      obtain ⟨rfl, rfl⟩ := Prod.mk.inj (Except.ok.inj h)
      exact .leftParen hkind
  | rightParen =>
      rw [shunt, hkind] at h
      have hhead := List.head?_dropWhile_not (·.kind != .leftParen) stack
      cases hdrop : stack.dropWhile (·.kind != .leftParen) with
      | nil =>
          rw [hdrop] at h
          cases h
      | cons paren rest =>
          rw [hdrop] at h hhead
          obtain ⟨rfl, rfl⟩ := Prod.mk.inj (Except.ok.inj h)
          have hshunts : Shunts (stack.takeWhile (·.kind != .leftParen) ++ paren :: rest) t _ _ :=
            .rightParen hkind (fun x hx => by simpa using List.mem_takeWhile_imp hx)
              (by simpa using hhead)
          rwa [← hdrop, List.takeWhile_append_dropWhile] at hshunts

theorem shunt_of_shunts {stack released after : List Token} {t : Token}
    (h : Shunts stack t released after) : shunt stack t = .ok (released, after) := by
  cases h with
  | number hkind => rw [shunt, hkind]
  | @operator _ rest _ hkind hreleased hrest =>
      have hall : ∀ x ∈ released, t.releases x = true :=
        fun x hx => releases_eq_true_iff.2 (hreleased x hx)
      rw [shunt, hkind]
      simp only [List.takeWhile_append_of_pos hall, List.dropWhile_append_of_pos hall]
      cases rest with
      | nil => simp
      | cons top rest =>
          have htop : t.releases top = false :=
            Bool.eq_false_iff.2 fun h => hrest top rfl (releases_eq_true_iff.1 h)
          simp [htop]
  | leftParen hkind => rw [shunt, hkind]
  | rightParen hkind hreleased hparen =>
      have hall : ∀ x ∈ released, (x.kind != .leftParen) = true :=
        fun x hx => by simpa using hreleased x hx
      rw [shunt, hkind]
      simp [List.takeWhile_append_of_pos hall, List.dropWhile_append_of_pos hall, hparen]

theorem postfixFrom_cons_of_shunt {stack after released : List Token} {t : Token}
    (h : shunt stack t = .ok (released, after)) (rest : List Token) :
    postfixFrom stack (t :: rest) = (postfixFrom after rest).map (released ++ ·) := by
  rw [postfixFrom_cons, h]
  simp only [Except.ok_bind_eq]
  cases postfixFrom after rest <;> rfl

/-- What can be ordered is shunted token by token. -/
theorem exists_of_postfixFrom_cons {stack rest ordered : List Token} {t : Token}
    (h : postfixFrom stack (t :: rest) = .ok ordered) :
    ∃ released after output, shunt stack t = .ok (released, after) ∧
      postfixFrom after rest = .ok output ∧ released ++ output = ordered := by
  obtain ⟨⟨released, after⟩, hshunt, -⟩ := Except.bind_eq_ok_iff.1 h
  rw [postfixFrom_cons_of_shunt hshunt] at h
  obtain ⟨output, houtput, rfl⟩ := Except.map_eq_ok_iff.1 h
  exact ⟨released, after, output, hshunt, houtput, rfl⟩

theorem unstack_eq_ok_iff {stack ordered : List Token} :
    unstack stack = .ok ordered ↔ stack = ordered ∧ ∀ t ∈ stack, t.isParen = false := by
  rw [unstack]
  split
  case isTrue hparens =>
    obtain ⟨t, ht, hparen⟩ := List.any_eq_true.1 hparens
    constructor
    · intro heq
      cases heq
    · rintro ⟨-, hnone⟩
      rw [hnone t ht] at hparen
      cases hparen
  case isFalse hparens =>
    have hnone : ∀ t ∈ stack, t.isParen = false := by simpa using hparens
    exact ⟨fun heq => ⟨Except.ok.inj heq, hnone⟩, fun heq => congrArg _ heq.1⟩

/-- Tokens that spell a tree send a first part of its postorder to the output
and leave the rest of it, operators only, on top of the stack. -/
theorem postfixFrom_append_of_spelled {p : Nat} {tokens : List Token} {t : Tree}
    (h : Tree.Spelled p tokens t) {stack : List Token} (hstack : Settled p stack) :
    ∃ output pending, output ++ pending = t.postorder ∧ (∀ x ∈ pending, Waits p x) ∧
      ∀ rest, postfixFrom stack (tokens ++ rest) =
        (postfixFrom (pending ++ stack) rest).map (output ++ ·) := by
  induction h generalizing stack with
  | number p text =>
      refine ⟨[number text], [], rfl, by simp, fun rest => ?_⟩
      exact postfixFrom_cons_of_shunt rfl rest
  | @group p tokens t _ ih =>
      obtain ⟨output, pending, hpost, hpending, hrun⟩ := ih (settled_leftParen 0 stack)
      refine ⟨output ++ pending, [], by simpa using hpost, by simp, fun rest => ?_⟩
      have hopen : postfixFrom stack (leftParen :: (tokens ++ rightParen :: rest)) = _ :=
        postfixFrom_cons_of_shunt rfl (tokens ++ rightParen :: rest)
      have hoperators : ∀ x ∈ pending, x.kind ≠ .leftParen := by
        intro x hx
        simp [(hpending x hx).kind_eq]
      have hshunt : shunt (pending ++ leftParen :: stack) rightParen = .ok (pending, stack) :=
        shunt_of_shunts (.rightParen rfl hoperators rfl)
      have hclose := postfixFrom_cons_of_shunt hshunt rest
      rw [List.cons_append, List.append_assoc, List.singleton_append, hopen, hrun, hclose,
        Except.map_map_eq, Except.map_map_eq]
      simp only [List.nil_append, List.append_assoc]
  | @operation p symbol first second left right hp _ _ ihleft ihright =>
      have hstack' := hstack.of_le hp
      obtain ⟨output, pending, hpost, hpending, hrun⟩ := ihleft hstack'
      have hshunt : shunt (pending ++ stack) ⟨.operator, symbol⟩ =
          .ok (pending, ⟨.operator, symbol⟩ :: stack) :=
        shunt_of_shunts (.operator rfl hpending hstack')
      have hoperator := postfixFrom_cons_of_shunt hshunt
      obtain ⟨output', pending', hpost', hpending', hrun'⟩ :=
        ihright (settled_cons_of_lt (Nat.lt_succ_self _) stack)
      refine ⟨output ++ (pending ++ output'), pending' ++ [⟨.operator, symbol⟩], ?_, ?_,
        fun rest => ?_⟩
      · rw [Tree.postorder_node, ← hpost, ← hpost']
        simp only [List.append_assoc]
      · intro x hx
        rcases List.mem_append.1 hx with hx | hx
        · exact ⟨(hpending' x hx).1, Nat.le_trans hp (Nat.le_of_succ_le (hpending' x hx).2)⟩
        · obtain rfl := List.mem_singleton.1 hx
          exact ⟨rfl, hp⟩
      · rw [List.append_assoc, List.cons_append, hrun, hoperator, hrun', Except.map_map_eq,
          Except.map_map_eq]
        simp only [List.append_assoc, List.singleton_append]

/-- Tokens that spell a tree are put into its postorder. -/
theorem toPostfix_of_spelled {p : Nat} {tokens : List Token} {t : Tree}
    (h : Tree.Spelled p tokens t) : toPostfix tokens = .ok t.postorder := by
  have hsettled : Settled p [] := by simp [Settled]
  obtain ⟨output, pending, hpost, hpending, hrun⟩ := postfixFrom_append_of_spelled h hsettled
  have hunstack : unstack pending = .ok pending :=
    unstack_eq_ok_iff.2 ⟨rfl, fun x hx => by simp [isParen, (hpending x hx).kind_eq]⟩
  have hrun := hrun []
  rw [List.append_nil, List.append_nil, postfixFrom_nil, hunstack] at hrun
  rw [toPostfix, hrun, ← hpost]
  rfl

end Token

end Reckoner
