import Reckoner.Proofs.Acceptance

/-!
# What a reduction lacks and leaves

A row of readable numbers and operators may stand in any order. If it is the postorder of a tree,
it is that of one tree only (`Tree.postorder_injective`), and the reduction gives the value of
this tree. Else an operator lacks operands, or some other number of values than one is left
(`exists_breakdown`). Which of the two it is can be counted: as long as the reduction goes on,
the values on its stack are as many as the numbers outnumber the operators
(`length_eq_surplus`). A divisor that is zero ends the reduction at once, so it is the cause if
it comes first: `reduce_classified`.
-/

namespace Reckoner

open Token

/-! ### The tree of a postorder -/

namespace Tree

/-- The trees that are complete after one more token; the last one is the head of the list. -/
def grow (trees : List Tree) (t : Token) : List Tree :=
  match t.kind, trees with
  | .number, trees => leaf t.text :: trees
  | .operator, right :: left :: trees => node t.text left right :: trees
  | _, trees => trees

theorem foldl_grow_postorder (t : Tree) (trees : List Tree) :
    t.postorder.foldl grow trees = t :: trees := by
  induction t generalizing trees with
  | leaf text => rfl
  | node symbol left right ihLeft ihRight =>
      rw [postorder_node, List.foldl_append, List.foldl_append, ihLeft, ihRight]
      rfl

/-- A row of tokens is the postorder of one tree at most. -/
theorem postorder_injective : Function.Injective postorder := by
  intro t other h
  have hgrown := congrArg (List.foldl grow []) h
  rw [foldl_grow_postorder, foldl_grow_postorder] at hgrown
  exact List.singleton_inj.1 hgrown

end Tree

namespace Token

/-! ### Operands -/

/-- By how much the numbers outnumber the operators. -/
def surplus (tokens : List Token) : Int :=
  tokens.countP (·.kind == .number) - tokens.countP (·.kind == .operator)

/-- Before every operator there are two operands for it. -/
def Supplied (tokens : List Token) : Prop :=
  ∀ before o after, tokens = before ++ operator o :: after → 2 ≤ surplus before

theorem surplus_append (first second : List Token) :
    surplus (first ++ second) = surplus first + surplus second := by
  simp only [surplus, List.countP_append]
  omega

theorem surplus_cons (t : Token) (tokens : List Token) :
    surplus (t :: tokens) = surplus [t] + surplus tokens :=
  surplus_append [t] tokens

theorem Supplied.of_append {first second : List Token} (h : Supplied (first ++ second)) :
    Supplied first := by
  rintro before o after rfl
  exact h before o (after ++ second) (by simp)

/-- A token that is reduced changes the number of values as it counts in the surplus. -/
theorem length_of_reduceStep {stack after : List Binary64} {t : Token}
    (h : reduceStep stack t = .ok after) : (after.length : Int) = stack.length + surplus [t] := by
  cases hkind : t.kind with
  | number =>
      simp only [reduceStep, hkind] at h
      split at h
      · obtain rfl := Except.ok.inj h
        simp [surplus, hkind]
      · cases h
  | operator =>
      simp only [reduceStep, hkind] at h
      split at h
      · obtain ⟨x, -, rfl⟩ := Except.map_eq_ok_iff.1 h
        simp [surplus, hkind]
      · cases h
  | leftParen =>
      simp only [reduceStep, hkind] at h
      cases h
  | rightParen =>
      simp only [reduceStep, hkind] at h
      cases h

theorem length_of_reduceFrom {stack after : List Binary64} {tokens : List Token}
    (h : reduceFrom stack tokens = .ok after) :
    (after.length : Int) = stack.length + surplus tokens := by
  induction tokens generalizing stack with
  | nil =>
      obtain rfl := Except.ok.inj h
      simp [surplus]
  | cons t tokens ih =>
      rw [reduceFrom_cons] at h
      obtain ⟨middle, hstep, hrest⟩ := Except.bind_eq_ok_iff.1 h
      rw [ih hrest, length_of_reduceStep hstep, surplus_cons t tokens, Int.add_assoc]

/-- The values that are left are the surplus. -/
theorem length_eq_surplus {stack : List Binary64} {tokens : List Token}
    (h : reduceFrom [] tokens = .ok stack) : (stack.length : Int) = surplus tokens := by
  simpa using length_of_reduceFrom h

theorem two_le_length_of_reduceStep {stack after : List Binary64} {o : Operator}
    (h : reduceStep stack (operator o) = .ok after) : 2 ≤ stack.length := by
  simp only [reduceStep, kind_operator] at h
  split at h
  · simp
  · cases h

/-- No operator of a row that is reduced to the end lacks operands. -/
theorem supplied_of_reduceFrom {stack : List Binary64} {tokens : List Token}
    (h : reduceFrom [] tokens = .ok stack) : Supplied tokens := by
  rintro before o after rfl
  rw [reduceFrom_append] at h
  obtain ⟨middle, hmiddle, hrest⟩ := Except.bind_eq_ok_iff.1 h
  rw [reduceFrom_cons] at hrest
  obtain ⟨next, hstep, -⟩ := Except.bind_eq_ok_iff.1 hrest
  have := two_le_length_of_reduceStep hstep
  rw [← length_eq_surplus hmiddle]
  omega

/-! ### How a reduction ends -/

/-- A division has both of its operands, the second one is zero, and no operator before lacks
any. -/
def DividesByZero (tokens : List Token) : Prop :=
  ∃ before left right after x,
    tokens = before ++ ((Tree.node Operator.div.symbol left right).postorder ++ after) ∧
      Supplied before ∧ right.value = .ok x ∧ x.isZero = true

/-- Why a row of readable numbers and operators has no value. A divisor that is zero counts if it
comes before the first operator that lacks operands. -/
inductive Breakdown (tokens : List Token) : Failure → Prop where
  | divisionByZero (hzero : DividesByZero tokens) : Breakdown tokens .divisionByZero
  | insufficientOperands {before after : List Token} {o : Operator} (hzero : ¬ DividesByZero tokens)
    (hsplit : tokens = before ++ operator o :: after) (hbefore : Supplied before)
    (hlack : surplus before < 2) : Breakdown tokens (.insufficientOperands o.symbol)
  | malformedExpression {remaining : Nat} (hzero : ¬ DividesByZero tokens)
    (hsupplied : Supplied tokens) (hremaining : (remaining : Int) = surplus tokens)
    (hne : remaining ≠ 1) : Breakdown tokens (.malformedExpression remaining)

variable {tokens : List Token}

/-- An operator that lacks operands is where the reduction fails. -/
theorem not_supplied_of_reduceFrom {before after : List Token} {stack : List Binary64}
    {o : Operator} (hbefore : reduceFrom [] before = .ok stack) (hlack : stack.length < 2) :
    ¬ Supplied (before ++ operator o :: after) := by
  intro hsupplied
  have := hsupplied before o after rfl
  rw [← length_eq_surplus hbefore] at this
  omega

/-- A row whose operators have all their operands fails only where it divides by zero. -/
theorem eq_divisionByZero_of_supplied (htokens : ∀ t ∈ tokens, Reducible t)
    (hsupplied : Supplied tokens) {fault : Fault} (h : reduceFrom [] tokens = .error fault) :
    fault = .failure .divisionByZero := by
  obtain ⟨before, t, after, stack, rfl, hbefore, hstep⟩ := exists_split_of_reduceFrom h
  obtain ⟨o, rfl, ⟨hlack, -⟩ | ⟨-, -, -, -, -, -, hfault⟩⟩ :=
    reduceStep_eq_error (htokens t (by simp)) hstep
  · exact absurd hsupplied (not_supplied_of_reduceFrom hbefore hlack)
  · exact hfault

theorem reduceFrom_of_dividesByZero (htokens : ∀ t ∈ tokens, Reducible t)
    (h : DividesByZero tokens) : reduceFrom [] tokens = .error (.failure .divisionByZero) := by
  obtain ⟨before, left, right, after, x, rfl, hsupplied, hright, hzero⟩ := h
  obtain ⟨hbefore, hrest⟩ := List.forall_mem_append.1 htokens
  obtain ⟨hnode, -⟩ := List.forall_mem_append.1 hrest
  rw [reduceFrom_append]
  cases hreduce : reduceFrom [] before with
  | error fault =>
      rw [eq_divisionByZero_of_supplied hbefore hsupplied hreduce]
      rfl
  | ok stack =>
      have hvalue : (Tree.node Operator.div.symbol left right).value =
          .error (.failure .divisionByZero) := by
        rw [Tree.value_node, hright]
        cases hleft : left.value with
        | error fault =>
            rw [Tree.eq_divisionByZero (List.forall_mem_append.1 hnode).1 hleft]
            rfl
        | ok a => simp [applySymbol_symbol, hzero]
      rw [Except.ok_bind_eq, Tree.reduceFrom_postorder, hvalue]
      rfl

/-- A reduction that fails for a divisor has met one that is zero in time. -/
theorem dividesByZero_of_reduceStep {before after : List Token} {b a : Binary64}
    {rest : List Binary64} (hbefore : reduceFrom [] before = .ok (b :: a :: rest))
    (hzero : b.isZero = true) : DividesByZero (before ++ operator .div :: after) := by
  have hempty : Tree.Values [] [] := .nil
  obtain ⟨trees, hvalues, htokens⟩ := exists_trees_of_reduceFrom hempty hbefore
  rcases hvalues with _ | ⟨hright, _ | ⟨hleft, hrest⟩⟩
  rename_i right left trees
  have hsplit : before = Tree.tokens trees ++ (left.postorder ++ right.postorder) := by
    rw [← List.append_assoc, ← Tree.tokens_cons, ← Tree.tokens_cons, htokens]
    rfl
  refine ⟨Tree.tokens trees, left, right, after, b, ?_, ?_, hright, hzero⟩
  · simp [hsplit]
    rfl
  · have hsupplied := supplied_of_reduceFrom hbefore
    rw [hsplit] at hsupplied
    exact hsupplied.of_append

/-- A row that is no postorder breaks down, at every precision for the same cause. -/
theorem exists_breakdown (htokens : ∀ t ∈ tokens, Reducible t)
    (hpostorder : ∀ t : Tree, tokens ≠ t.postorder) :
    ∃ cause, Breakdown tokens cause ∧
      ∀ precision, reduce tokens precision = .error (.failure cause) := by
  have hdivides (h : DividesByZero tokens) := reduceFrom_of_dividesByZero htokens h
  cases hreduce : reduceFrom [] tokens with
  | ok stack =>
      have hzero : ¬ DividesByZero tokens := fun h => by simp [hdivides h] at hreduce
      have hlength : stack.length ≠ 1 := by
        intro hlength
        obtain ⟨x, rfl⟩ := List.length_eq_one_iff.1 hlength
        obtain ⟨t, ht, -⟩ := reduceFrom_eq_singleton_iff.1 hreduce
        exact hpostorder t ht
      exact ⟨_, .malformedExpression hzero (supplied_of_reduceFrom hreduce)
        (length_eq_surplus hreduce) hlength, reduce_of_length_ne_one hreduce hlength⟩
  | error fault =>
      obtain ⟨before, t, after, stack, rfl, hbefore, hstep⟩ := exists_split_of_reduceFrom hreduce
      obtain ⟨o, rfl, ⟨hlack, rfl⟩ | ⟨b, a, rest, rfl, rfl, hb, rfl⟩⟩ :=
        reduceStep_eq_error (htokens t (by simp)) hstep
      · have hzero : ¬ DividesByZero (before ++ operator o :: after) := fun h => by
          simp [hdivides h] at hreduce
        have hsurplus : surplus before < 2 := by
          rw [← length_eq_surplus hbefore]
          omega
        exact ⟨_, .insufficientOperands hzero rfl (supplied_of_reduceFrom hbefore) hsurplus,
          reduce_of_error hreduce⟩
      · exact ⟨_, .divisionByZero (dividesByZero_of_reduceStep hbefore hb),
          reduce_of_error hreduce⟩

/-- The tokens are the postorder of one tree and have the outcome of this tree: its recursive
value, unless a divisor is zero, rounded. -/
def ReducesAsTree (tokens : List Token) (precision : Int) : Prop :=
  ∃ t : Tree, tokens = t.postorder ∧ (∀ other : Tree, tokens = other.postorder → other = t) ∧
    reduce tokens precision = (do
      let x ← t.value
      (cleanResult x precision).mapError .failure) ∧
    ∀ fault, t.value = .error fault → fault = .failure .divisionByZero

/-- The tokens are the postorder of no tree, and are refused for what is missing. -/
def BreaksDown (tokens : List Token) (precision : Int) : Prop :=
  (∀ t : Tree, tokens ≠ t.postorder) ∧
    ∃ cause, Breakdown tokens cause ∧ reduce tokens precision = .error (.failure cause)

/-- Readable numbers and operators in any order are either the postorder of exactly one tree,
and reduced to its value, or of none, and refused: for the first divisor that is zero if it
comes before an operator that lacks operands, else for the first such operator, else for the
number of values that are left. -/
theorem reduce_classified (htokens : ∀ t ∈ tokens, Reducible t) (precision : Int) :
    Xor (ReducesAsTree tokens precision) (BreaksDown tokens precision) := by
  by_cases hpostorder : ∃ t : Tree, tokens = t.postorder
  · obtain ⟨t, rfl⟩ := hpostorder
    exact .inl ⟨⟨t, rfl, fun other h => (Tree.postorder_injective h).symm,
      reduce_postorder t precision, fun fault => Tree.eq_divisionByZero htokens⟩,
      fun h => h.1 t rfl⟩
  · refine .inr ⟨?_, fun ⟨t, ht, _⟩ => hpostorder ⟨t, ht⟩⟩
    have hnone : ∀ t : Tree, tokens ≠ t.postorder := fun t ht => hpostorder ⟨t, ht⟩
    obtain ⟨cause, hcause, hreduce⟩ := exists_breakdown htokens hnone
    exact ⟨hnone, cause, hcause, hreduce precision⟩

/-- A divisor that is zero, in front of an operator that lacks operands. -/
theorem reduce_classified_overdrawn :
    let tokens := [number "1", number "0", operator .div, operator .add]
    (∀ t ∈ tokens, Reducible t) ∧ Xor (ReducesAsTree tokens 12) (BreaksDown tokens 12) ∧
      reduce tokens 12 = .error (.failure .divisionByZero) := by
  intro tokens
  have hone : Binary64.ofText? "1" = some (.ofInt 1) := by decide +kernel
  have htokens : ∀ t ∈ tokens, Reducible t := by
    simp only [tokens, List.forall_mem_cons]
    exact ⟨.number hone, .number ofText?_zero, .operator .div, .operator .add, by simp⟩
  exact ⟨htokens, reduce_classified htokens 12, by decide +kernel⟩

end Token

end Reckoner
