import Mathlib.Data.List.Induction
import Mathlib.Data.List.Infix
import Reckoner.Proofs.Conservation

/-!
# The stack of the ordering stage

An operator is stacked when every operator on top that binds at least as strongly has been
released. So between two open parentheses the operators bind more and more strongly from bottom to
top (`Ascending`). Every token keeps this: what it leaves of the stack is the lower end, with at
most the token itself on top (`Shunts.ascending`).

There are three strengths, zero for an unknown operator included, so no more than three operators
stand on each other. The depth of the stack is bounded by the number of open parentheses, however
many tokens have been read: `stack_layered`.
-/

namespace Reckoner.Token

variable {t : Token} {stack released after rest tokens : List Token}

/-- The stack after some more tokens. -/
def stackAfter (stack tokens : List Token) : Except Failure (List Token) :=
  tokens.foldlM (fun stack t => (shunt stack t).map Prod.snd) stack

@[simp] theorem stackAfter_nil (stack : List Token) : stackAfter stack [] = .ok stack := rfl

theorem stackAfter_cons (stack : List Token) (t : Token) (tokens : List Token) :
    stackAfter stack (t :: tokens) = (do
      let after ← (shunt stack t).map Prod.snd
      stackAfter after tokens) := rfl

theorem stackAfter_append_singleton (stack tokens : List Token) (t : Token) :
    stackAfter stack (tokens ++ [t]) = (do
      let middle ← stackAfter stack tokens
      (shunt middle t).map Prod.snd) := by
  rw [stackAfter, List.foldlM_append]
  refine bind_congr fun middle => ?_
  rw [List.foldlM_cons]
  cases (shunt middle t).map Prod.snd <;> rfl

/-- When some tokens have been read, the ordering goes on with what they sent to the output and
the stack that they left. Only a parenthesis that closes nothing cannot be read. -/
theorem postfixFrom_append (hstack : Pending stack) (tokens : List Token) :
    (Paren.nesting? (opened stack) (tokens.filterMap Paren.ofToken?) = none ∧
        stackAfter stack tokens = .error .unmatchedRight ∧
        ∀ rest, postfixFrom stack (tokens ++ rest) = .error .unmatchedRight) ∨
      ∃ after output, stackAfter stack tokens = .ok after ∧
        ∀ rest,
          postfixFrom stack (tokens ++ rest) = (postfixFrom after rest).map (output ++ ·) := by
  induction tokens generalizing stack with
  | nil =>
      refine .inr ⟨stack, [], rfl, fun rest => ?_⟩
      rw [List.nil_append]
      cases postfixFrom stack rest <;> rfl
  | cons t tokens ih =>
      simp only [List.cons_append]
      cases hshunt : shunt stack t with
      | error cause =>
          obtain ⟨hkind, hopened, rfl⟩ := eq_unmatchedRight_of_shunt hshunt
          refine .inl ⟨?_, ?_, fun rest => ?_⟩
          · rw [List.filterMap_cons, Paren.ofToken?, hkind, hopened, Paren.nesting?_zero_right]
          · rw [stackAfter_cons, hshunt]
            rfl
          · rw [postfixFrom_cons, hshunt]
            rfl
      | ok outcome =>
          obtain ⟨released, middle⟩ := outcome
          have hafter : stackAfter stack (t :: tokens) = stackAfter middle tokens := by
            rw [stackAfter_cons, hshunt]
            rfl
          rw [hafter, nesting?_of_shunts (shunts_of_shunt hshunt)]
          simp only [postfixFrom_cons_of_shunt hshunt]
          rcases ih (shunt_spec hstack hshunt).1 with
            ⟨hnesting, herror, hrest⟩ | ⟨after, output, hok, hrest⟩
          · exact .inl ⟨hnesting, herror, fun rest => by rw [hrest]; rfl⟩
          · refine .inr ⟨after, released ++ output, hok, fun rest => ?_⟩
            rw [hrest, Except.map_map_eq]
            simp only [List.append_assoc]

/-! ### Operators between two parentheses -/

/-- Where operators stand on each other with no parenthesis between them, the upper one binds more
strongly. -/
def Ascending (stack : List Token) : Prop :=
  ∀ segment, segment <:+: stack → (∀ t ∈ segment, t.kind = .operator) →
    segment.Pairwise fun upper lower => lower.precedence < upper.precedence

theorem ascending_nil : Ascending [] := by
  intro segment hsegment _
  rw [List.infix_nil.1 hsegment]
  exact .nil

theorem Ascending.of_suffix (h : Ascending stack) (hrest : rest <:+ stack) : Ascending rest :=
  fun segment hsegment => h segment (hsegment.trans hrest.isInfix)

theorem Ascending.cons_leftParen (h : Ascending rest) (hkind : t.kind = .leftParen) :
    Ascending (t :: rest) := by
  intro segment hsegment hoperators
  rcases List.infix_cons_iff.1 hsegment with hprefix | hinfix
  · rcases List.prefix_cons_iff.1 hprefix with rfl | ⟨segment, rfl, -⟩
    · exact .nil
    · have := hoperators t List.mem_cons_self
      rw [hkind] at this
      cases this
  · exact h segment hinfix hoperators

/-- An operator on a settled stack binds more strongly than those that it stands on. -/
theorem Ascending.cons_operator (h : Ascending rest) (hrest : Settled t.precedence rest) :
    Ascending (t :: rest) := by
  intro segment hinfix hoperators
  rcases List.infix_cons_iff.1 hinfix with hprefix | hinfix
  · rcases List.prefix_cons_iff.1 hprefix with rfl | ⟨segment, rfl, hsegment⟩
    · exact .nil
    · obtain ⟨-, hoperators⟩ := List.forall_mem_cons.1 hoperators
      have hpairs := h segment hsegment.isInfix hoperators
      refine List.pairwise_cons.2 ⟨fun x hx => ?_, hpairs⟩
      -- The operator below is weaker, and those below it are weaker still.
      obtain ⟨below, segment, rfl⟩ := List.exists_cons_of_ne_nil (List.ne_nil_of_mem hx)
      have hbelow : below.precedence < t.precedence := by
        obtain ⟨others, rfl⟩ := hsegment
        refine Nat.not_le.1 fun hle => hrest below rfl ⟨?_, hle⟩
        simp [isOperator, hoperators below List.mem_cons_self]
      rcases List.mem_cons.1 hx with rfl | hx
      · exact hbelow
      · exact Nat.lt_trans ((List.pairwise_cons.1 hpairs).1 x hx) hbelow
  · exact h segment hinfix hoperators

/-- A token keeps the order of the operators on the stack. -/
theorem Shunts.ascending (h : Shunts stack t released after) (hstack : Ascending stack) :
    Ascending after := by
  cases h with
  | number => exact hstack
  | operator _ _ hrest => exact (hstack.of_suffix (List.suffix_append _ _)).cons_operator hrest
  | leftParen hkind => exact hstack.cons_leftParen hkind
  | rightParen =>
      exact hstack.of_suffix ((List.suffix_cons _ after).trans (List.suffix_append released _))

/-- A token changes the number of open parentheses by what it opens and closes. -/
theorem Shunts.opened_add (h : Shunts stack t released after) :
    opened after + [t].countP (·.kind == .rightParen) =
      opened stack + [t].countP (·.kind == .leftParen) := by
  have hnesting := nesting?_of_shunts h []
  rw [List.filterMap_nil, Paren.nesting?_nil] at hnesting
  have hcount := Paren.add_count_of_nesting? hnesting
  rwa [Paren.count_filterMap_ofToken?, Paren.count_filterMap_ofToken?] at hcount

/-! ### After every token -/

/-- The stack that some tokens leave: operators and opening parentheses among them, as many
parentheses as are open, and between these the operators in the order of their strength. -/
structure Layered (tokens stack : List Token) : Prop where
  pending : Pending stack
  subset : stack ⊆ tokens
  opened_add : opened stack + tokens.countP (·.kind == .rightParen) =
    tokens.countP (·.kind == .leftParen)
  ascending : Ascending stack

theorem layered_nil : Layered [] [] := ⟨pending_nil, List.Subset.refl _, rfl, ascending_nil⟩

theorem Layered.shunt (h : Layered tokens stack) (hshunt : shunt stack t = .ok (released, after)) :
    Layered (tokens ++ [t]) after := by
  obtain ⟨hpending, -, -, hsubset⟩ := shunt_spec h.pending hshunt
  have hshunts := shunts_of_shunt hshunt
  refine ⟨hpending, fun x hx => ?_, ?_, hshunts.ascending h.ascending⟩
  · rcases List.mem_cons.1 (hsubset hx) with rfl | hx
    · exact List.mem_append_right tokens (List.mem_singleton_self x)
    · exact List.mem_append_left [t] (h.subset hx)
  · have hbefore := h.opened_add
    have hstep := hshunts.opened_add
    rw [List.countP_append, List.countP_append]
    omega

theorem layered_stackAfter (h : stackAfter [] tokens = .ok stack) : Layered tokens stack := by
  induction tokens using List.reverseRecOn generalizing stack with
  | nil =>
      obtain rfl := Except.ok.inj h
      exact layered_nil
  | append_singleton tokens t ih =>
      rw [stackAfter_append_singleton, Except.bind_eq_ok_iff] at h
      obtain ⟨middle, hmiddle, h⟩ := h
      obtain ⟨⟨released, after⟩, hshunt, rfl⟩ := Except.map_eq_ok_iff.1 h
      exact (ih hmiddle).shunt hshunt

/-! ### The depth of the stack -/

/-- How many strengths from `weakest` on there are up to that of an operator on top. -/
def strengths (weakest : Nat) : List Token → Nat
  | [] => 0
  | t :: _ => if t.kind = .operator then t.precedence + 1 - weakest else 0

/-- Between two parentheses there is at most one operator of each strength. -/
theorem length_le_of_ascending (weakest levels : Nat) (hpending : Pending stack)
    (hascending : Ascending stack)
    (hlevels : ∀ t ∈ stack, t.kind = .operator →
      weakest ≤ t.precedence ∧ t.precedence < weakest + levels) :
    stack.length ≤ (levels + 1) * opened stack + strengths weakest stack ∧
      strengths weakest stack ≤ levels := by
  induction stack with
  | nil => simp [strengths]
  | cons t rest ih =>
      obtain ⟨ht, hpending⟩ := List.forall_mem_cons.1 hpending
      obtain ⟨hlevel, hlevels⟩ := List.forall_mem_cons.1 hlevels
      obtain ⟨hlength, hstrengths⟩ :=
        ih hpending (hascending.of_suffix (List.suffix_cons t rest)) hlevels
      rw [List.length_cons]
      rcases ht with hkind | hkind
      · obtain ⟨hlow, hhigh⟩ := hlevel hkind
        rw [opened_cons_of_ne (by simp [hkind]), strengths, if_pos hkind]
        have hbelow : strengths weakest rest + weakest ≤ t.precedence := by
          cases rest with
          | nil => simpa [strengths] using hlow
          | cons below rest =>
              rw [strengths]
              split
              · next hbelow =>
                have hpair := hascending [t, below] ⟨[], rest, rfl⟩ (by simp [hkind, hbelow])
                have hlt : below.precedence < t.precedence := by simpa using hpair
                have := (hlevels below List.mem_cons_self hbelow).1
                omega
              · omega
        omega
      · rw [opened_cons_of_eq hkind, strengths, if_neg (by simp [hkind]), Nat.mul_succ]
        omega

theorem precedence_lt_three (t : Token) : t.precedence < 3 := by
  rw [precedence]
  split
  · cases Operator.ofSymbol? t.text with
    | none => decide
    | some o => cases o <;> decide
  · decide

theorem one_le_precedence (hkind : t.kind = .operator) (htext : t.text ∈ ["+", "-", "*", "/"]) :
    1 ≤ t.precedence := by
  rw [precedence, isOperator, hkind]
  simp only [List.mem_cons, List.not_mem_nil, or_false] at htext
  rcases htext with h | h | h | h <;> rw [h] <;> decide

/-- A row of tokens cannot be read to its end if some prefix closes more parentheses than it
opens. Else the tokens leave a layered stack, whatever follows them, and its depth is bounded by the
number of open parentheses alone. -/
theorem stack_layered (tokens : List Token) :
    (Overclosed tokens ∧ stackAfter [] tokens = .error .unmatchedRight ∧
        ∀ rest, toPostfix (tokens ++ rest) = .error .unmatchedRight) ∨
      ∃ stack output, stackAfter [] tokens = .ok stack ∧
        (∀ rest, toPostfix (tokens ++ rest) = (postfixFrom stack rest).map (output ++ ·)) ∧
        Layered tokens stack ∧
        stack.length ≤ 3 * (opened stack + 1) + opened stack ∧
        ((∀ t ∈ tokens, t.kind = .operator → t.text ∈ ["+", "-", "*", "/"]) →
          stack.length ≤ 2 * (opened stack + 1) + opened stack) := by
  rw [← nesting?_eq_none_iff_overclosed]
  refine (postfixFrom_append pending_nil tokens).imp_right ?_
  rintro ⟨stack, output, hstack, hrest⟩
  have hlayered := layered_stackAfter hstack
  refine ⟨stack, output, hstack, hrest, hlayered, ?_, fun hsymbols => ?_⟩
  · have hlevels : ∀ t ∈ stack, t.kind = .operator → 0 ≤ t.precedence ∧ t.precedence < 0 + 3 :=
      fun t _ _ => ⟨Nat.zero_le _, precedence_lt_three t⟩
    obtain ⟨hlength, hstrengths⟩ :=
      length_le_of_ascending 0 3 hlayered.pending hlayered.ascending hlevels
    omega
  · have hlevels : ∀ t ∈ stack, t.kind = .operator → 1 ≤ t.precedence ∧ t.precedence < 1 + 2 :=
      fun t ht hkind =>
        ⟨one_le_precedence hkind (hsymbols t (hlayered.subset ht) hkind), precedence_lt_three t⟩
    obtain ⟨hlength, hstrengths⟩ :=
      length_le_of_ascending 1 2 hlayered.pending hlayered.ascending hlevels
    omega

/-- Both bounds are reached, with and without an operator that is not known. -/
example :
    let unknown : Token := ⟨.operator, "^"⟩
    let known := [operator .add, operator .mul]
    let depth (tokens : List Token) := ((stackAfter [] tokens).map List.length).toOption
    depth (unknown :: known ++ leftParen :: unknown :: known) = some (3 * (1 + 1) + 1) ∧
      depth (known ++ leftParen :: known) = some (2 * (1 + 1) + 1) := by
  decide +kernel

end Reckoner.Token
