import Reckoner.Proofs.Nesting

/-!
# Groups in parentheses

The ordering stage handles what stands in a pair of parentheses as if there were nothing
around it. Above an opening parenthesis the stack grows and shrinks as an empty one does;
what is below is not read, and is there again when the parenthesis is closed
(`postfixFrom_append_frame`).

So a group does in any context, even in one that cannot be ordered, what a single number
does: the context fails with both or with neither, and the ordered group stands where the
number would stand (`toPostfix_group`).
-/

namespace Reckoner.Token

/-- The tokens with some others in place of the token `x`. -/
def substitute (x : Token) (group tokens : List Token) : List Token :=
  tokens.flatMap fun t => if t = x then group else [t]

variable {x l r : Token} {group ordered tokens : List Token}

@[simp] theorem substitute_cons_self (x : Token) (group tokens : List Token) :
    substitute x group (x :: tokens) = group ++ substitute x group tokens := by
  simp [substitute]

theorem substitute_append (x : Token) (group first second : List Token) :
    substitute x group (first ++ second) =
      substitute x group first ++ substitute x group second :=
  List.flatMap_append

theorem substitute_of_not_mem (h : x ∉ tokens) : substitute x group tokens = tokens := by
  induction tokens with
  | nil => rfl
  | cons t tokens ih =>
      rw [List.mem_cons, not_or] at h
      rw [substitute, List.flatMap_cons, if_neg (Ne.symm h.1), List.singleton_append]
      exact congrArg (t :: ·) (ih h.2)

/-! ### Below an opening parenthesis -/

/-- A token that can be shunted on a stack is shunted in the same way above an opening
parenthesis, and nothing below it is touched. -/
theorem shunt_append_frame {stack released after : List Token} {t : Token}
    (h : shunt stack t = .ok (released, after)) (hl : l.kind = .leftParen) (base : List Token) :
    shunt (stack ++ l :: base) t = .ok (released, after ++ l :: base) := by
  refine shunt_of_shunts ?_
  cases shunts_of_shunt h with
  | number hkind => exact .number hkind
  | @operator _ rest _ hkind hreleased hrest =>
      rw [List.append_assoc]
      refine .operator hkind hreleased fun top htop hwaits => ?_
      cases rest with
      | nil =>
          obtain rfl : l = top := by simpa using htop
          simp [hwaits.kind_eq] at hl
      | cons x rest => exact hrest top htop hwaits
  | leftParen hkind => exact .leftParen hkind
  | rightParen hkind hreleased hparen =>
      rw [List.append_assoc]
      exact .rightParen hkind hreleased hparen

/-- A closing parenthesis releases all that is above the last opening one. -/
theorem shunt_rightParen_frame {stack : List Token} (hstack : ∀ t ∈ stack, t.isParen = false)
    (hl : l.kind = .leftParen) (hr : r.kind = .rightParen) (base : List Token) :
    shunt (stack ++ l :: base) r = .ok (stack, base) := by
  refine shunt_of_shunts (.rightParen hr (fun t ht hkind => ?_) hl)
  simpa [isParen, hkind] using hstack t ht

/-- Tokens that can be ordered send the same to the output above an opening parenthesis.
When it is closed, the stack is what it was before. -/
theorem postfixFrom_append_frame {stack : List Token} (h : postfixFrom stack group = .ok ordered)
    (hl : l.kind = .leftParen) (hr : r.kind = .rightParen) (base rest : List Token) :
    postfixFrom (stack ++ l :: base) (group ++ r :: rest) =
      (postfixFrom base rest).map (ordered ++ ·) := by
  induction group generalizing stack ordered with
  | nil =>
      obtain ⟨rfl, hstack⟩ := unstack_eq_ok_iff.1 h
      exact postfixFrom_cons_of_shunt (shunt_rightParen_frame hstack hl hr base) rest
  | cons t group ih =>
      obtain ⟨released, after, output, hshunt, houtput, rfl⟩ := exists_of_postfixFrom_cons h
      rw [List.cons_append, postfixFrom_cons_of_shunt (shunt_append_frame hshunt hl base),
        ih houtput, Except.map_map_eq]
      simp only [List.append_assoc]

/-- A group that can be ordered sends its ordered tokens to the output, and leaves the
stack as it is. -/
theorem postfixFrom_group (h : toPostfix group = .ok ordered) (hl : l.kind = .leftParen)
    (hr : r.kind = .rightParen) (stack rest : List Token) :
    postfixFrom stack (l :: (group ++ r :: rest)) =
      (postfixFrom stack rest).map (ordered ++ ·) := by
  have hopen : shunt stack l = .ok ([], [] ++ l :: stack) := by
    rw [shunt, hl]
    rfl
  rw [postfixFrom_cons_of_shunt hopen, postfixFrom_append_frame h hl hr, Except.map_map_eq]
  rfl

/-! ### A group in a context -/

/-- In any context a group comes to the same as a number that does not occur there, with
the ordered group in its place. -/
theorem postfixFrom_append_group (h : toPostfix group = .ok ordered) (hl : l.kind = .leftParen)
    (hr : r.kind = .rightParen) (hx : x.kind = .number) {stack before after : List Token}
    (hstack : Pending stack) (hbefore : x ∉ before) (hafter : x ∉ after) :
    postfixFrom stack (before ++ l :: (group ++ r :: after)) =
      (postfixFrom stack (before ++ x :: after)).map (substitute x ordered) := by
  -- The stack holds no numbers, so what it releases is not replaced either.
  have hfresh {stack : List Token} (hstack : Pending stack) : x ∉ stack :=
    fun hmem => hstack.kind_ne_number hmem hx
  induction before generalizing stack with
  | nil =>
      have hsingle : shunt stack x = .ok ([x], stack) := by rw [shunt, hx]
      rw [List.nil_append, List.nil_append, postfixFrom_group h hl hr,
        postfixFrom_cons_of_shunt hsingle, Except.map_map_eq]
      cases houtput : postfixFrom stack after with
      | error cause => rfl
      | ok output =>
          have hout : x ∉ output := by
            intro hmem
            rcases (mem_of_postfixFrom hstack houtput x hmem).2 with hmem | hmem
            · exact hafter hmem
            · exact hfresh hstack hmem
          simp [substitute_of_not_mem hout]
  | cons t before ih =>
      rw [List.mem_cons, not_or] at hbefore
      rw [List.cons_append, List.cons_append]
      cases hshunt : shunt stack t with
      | error cause =>
          rw [postfixFrom_cons, postfixFrom_cons, hshunt]
          rfl
      | ok outcome =>
          obtain ⟨released, next⟩ := outcome
          obtain ⟨hnext, -, hreleased, -⟩ := shunt_spec hstack hshunt
          have hout : x ∉ released := by
            intro hmem
            rcases List.mem_cons.1 (hreleased hmem) with heq | hmem
            · exact hbefore.1 heq
            · exact hfresh hstack hmem
          rw [postfixFrom_cons_of_shunt hshunt, postfixFrom_cons_of_shunt hshunt,
            ih hnext hbefore.2, Except.map_map_eq, Except.map_map_eq]
          simp only [substitute_append, substitute_of_not_mem hout]

/-- A group in parentheses is ordered on its own. Whatever stands around it, well formed or
not, the whole fails exactly if it fails with a number in place of the group, for the same
cause; else the ordered group stands where that number stands. Parentheses around all
tokens change nothing. -/
theorem toPostfix_group (h : toPostfix group = .ok ordered) (hl : l.kind = .leftParen)
    (hr : r.kind = .rightParen) (hx : x.kind = .number) {before after : List Token}
    (hbefore : x ∉ before) (hafter : x ∉ after) :
    (∀ cause, toPostfix (before ++ l :: (group ++ r :: after)) = .error cause ↔
        toPostfix (before ++ x :: after) = .error cause) ∧
      (∀ output, toPostfix (before ++ x :: after) = .ok output →
        toPostfix (before ++ l :: (group ++ r :: after)) = .ok (substitute x ordered output)) ∧
      toPostfix (l :: (group ++ [r])) = .ok ordered := by
  have hempty : Pending [] := fun _ hmem => absurd hmem List.not_mem_nil
  have hcontext : toPostfix (before ++ l :: (group ++ r :: after)) =
      (toPostfix (before ++ x :: after)).map (substitute x ordered) :=
    postfixFrom_append_group h hl hr hx hempty hbefore hafter
  refine ⟨fun cause => ?_, fun output houtput => ?_, ?_⟩
  · rw [hcontext, Except.map_eq_error_iff]
  · rw [hcontext, houtput, Except.map_ok_eq]
  · have hwhole := postfixFrom_group h hl hr [] []
    rw [toPostfix, hwhole, postfixFrom_nil]
    simp [unstack]

/-- A sum that lacks an operand, between operators that lack theirs. -/
theorem toPostfix_group_malformed :
    let mul : Token := operator .mul
    let group := [number "1", operator .add]
    toPostfix group = .ok group ∧ number "x" ∉ [mul] ∧ number "x" ∉ [operator .div, number "2"] ∧
      toPostfix [mul, leftParen, number "1", operator .add, rightParen, operator .div, number "2"] =
        .ok [number "1", operator .add, mul, number "2", operator .div] := by
  intro mul group
  have hgroup : toPostfix group = .ok group := by decide
  have hbefore : number "x" ∉ [mul] := by decide
  have hafter : number "x" ∉ [operator .div, number "2"] := by decide
  have houtput : toPostfix ([mul] ++ number "x" :: [operator .div, number "2"]) =
      .ok [number "x", mul, number "2", operator .div] := by decide
  obtain ⟨-, hok, -⟩ :=
    toPostfix_group (l := leftParen) (r := rightParen) hgroup rfl rfl rfl hbefore hafter
  exact ⟨hgroup, hbefore, hafter, hok _ houtput⟩

end Reckoner.Token
