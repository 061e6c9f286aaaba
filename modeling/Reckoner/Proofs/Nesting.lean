import Reckoner.Proofs.Ordering
import Reckoner.Proofs.Legibility

/-!
# Parentheses

The parentheses of a text are balanced if no prefix closes more of them than it
opens and the whole text closes all. `nesting?` counts how many are open, and
gives up at one that closes nothing; the scanner keeps the parentheses of a text
in order, so this count decides the outcome of the ordering stage:
`decides_postfixFrom`.
-/

namespace Reckoner

/-- The two parentheses. -/
inductive Paren where
  | left | right
deriving DecidableEq

namespace Paren

/-- The character of a parenthesis. -/
def char : Paren → Char
  | left => '('
  | right => ')'

/-- The parenthesis that a character is. -/
def ofChar? (c : Char) : Option Paren :=
  if c = '(' then some left else if c = ')' then some right else none

/-- The parenthesis that a token is. -/
def ofToken? (t : Token) : Option Paren :=
  match t.kind with
  | .leftParen => some left
  | .rightParen => some right
  | _ => none

/-- How many parentheses are open after some more, starting with `depth` open
ones; `none` if one of them closes nothing. -/
def nesting? (depth : Nat) : List Paren → Option Nat
  | [] => some depth
  | left :: rest => nesting? (depth + 1) rest
  | right :: rest =>
    match depth with
    | 0 => none
    | depth + 1 => nesting? depth rest

@[simp] theorem nesting?_nil (depth : Nat) : nesting? depth [] = some depth := rfl

@[simp] theorem nesting?_left (depth : Nat) (rest : List Paren) :
    nesting? depth (left :: rest) = nesting? (depth + 1) rest := rfl

@[simp] theorem nesting?_zero_right (rest : List Paren) : nesting? 0 (right :: rest) = none := rfl

@[simp] theorem nesting?_succ_right (depth : Nat) (rest : List Paren) :
    nesting? (depth + 1) (right :: rest) = nesting? depth rest := rfl

/-- What is open in the end has been opened and not closed. -/
theorem add_count_of_nesting? {depth rest : Nat} {parens : List Paren}
    (h : nesting? depth parens = some rest) :
    rest + parens.count right = depth + parens.count left := by
  induction parens generalizing depth with
  | nil =>
      obtain rfl := Option.some.inj h
      rfl
  | cons p parens ih =>
      cases p with
      | left =>
          have := ih h
          simp only [List.count_cons_self, List.count_cons_of_ne (show left ≠ right by decide)]
          omega
      | right =>
          cases depth with
          | zero => cases h
          | succ depth =>
              have := ih h
              simp only [List.count_cons_self, List.count_cons_of_ne (show right ≠ left by decide)]
              omega

/-- A parenthesis closes nothing exactly if some prefix closes more than were
open and it opens. -/
theorem nesting?_eq_none_iff {depth : Nat} {parens : List Paren} :
    nesting? depth parens = none ↔
      ∃ before, before <+: parens ∧ depth + before.count left < before.count right := by
  induction parens generalizing depth with
  | nil => simp
  | cons p parens ih =>
      simp only [List.prefix_cons_iff, or_and_right, exists_or, exists_eq_left, List.count_nil,
        Nat.not_lt_zero, false_or]
      have hcons {P : List Paren → Prop} :
          (∃ before, (∃ rest, before = p :: rest ∧ rest <+: parens) ∧ P before) ↔
            ∃ rest, rest <+: parens ∧ P (p :: rest) := by
        constructor
        · rintro ⟨-, ⟨rest, rfl, hrest⟩, hP⟩
          exact ⟨rest, hrest, hP⟩
        · rintro ⟨rest, hrest, hP⟩
          exact ⟨_, ⟨rest, rfl, hrest⟩, hP⟩
      rw [hcons]
      cases p with
      | left =>
          simp only [nesting?_left, ih, List.count_cons_self,
            List.count_cons_of_ne (show left ≠ right by decide), Nat.add_assoc, Nat.add_comm 1]
      | right =>
          simp only [List.count_cons_self, List.count_cons_of_ne (show right ≠ left by decide)]
          cases depth with
          | zero =>
              rw [nesting?_zero_right, eq_self_iff_true, true_iff]
              exact ⟨[], List.nil_prefix, Nat.zero_lt_one⟩
          | succ depth =>
              simp only [nesting?_succ_right, ih, Nat.add_right_comm depth 1,
                Nat.add_lt_add_iff_right]

/-- That a parenthesis closes nothing is seen on the prefixes of any row that the
parentheses are read from. -/
theorem nesting?_filterMap_eq_none_iff {α : Type*} {f : α → Option Paren} {row : List α} :
    nesting? 0 (row.filterMap f) = none ↔
      ∃ before, before <+: row ∧
        (before.filterMap f).count left < (before.filterMap f).count right := by
  rw [nesting?_eq_none_iff]
  simp only [Nat.zero_add]
  constructor
  · rintro ⟨before, ⟨rest, hrest⟩, h⟩
    obtain ⟨front, back, rfl, rfl, -⟩ := List.filterMap_eq_append_iff.1 hrest.symm
    exact ⟨front, List.prefix_append front back, h⟩
  · rintro ⟨before, hbefore, h⟩
    exact ⟨_, hbefore.filterMap f, h⟩

end Paren

/-- No prefix closes more parentheses than it opens, and the text closes all. -/
structure Balanced (cs : List Char) : Prop where
  count_prefix_le : ∀ before, before <+: cs → before.count ')' ≤ before.count '('
  count_eq : cs.count '(' = cs.count ')'

theorem count_filterMap_ofChar? (p : Paren) (cs : List Char) :
    (cs.filterMap Paren.ofChar?).count p = cs.count p.char := by
  induction cs with
  | nil => rfl
  | cons c cs ih =>
      rw [List.filterMap_cons, List.count_cons, ← ih, Paren.ofChar?]
      cases p <;> simp only [Paren.char] <;> split_ifs <;> simp_all

theorem balanced_iff {cs : List Char} :
    Balanced cs ↔ Paren.nesting? 0 (cs.filterMap Paren.ofChar?) = some 0 := by
  have hprefixes : (∀ before, before <+: cs → before.count ')' ≤ before.count '(') ↔
      Paren.nesting? 0 (cs.filterMap Paren.ofChar?) ≠ none := by
    simp only [ne_eq, Paren.nesting?_filterMap_eq_none_iff, count_filterMap_ofChar?, Paren.char,
      not_exists, not_and, not_lt]
  cases hnesting : Paren.nesting? 0 (cs.filterMap Paren.ofChar?) with
  | none =>
      rw [hnesting] at hprefixes
      exact ⟨fun h => absurd rfl (hprefixes.1 h.count_prefix_le), fun h => by cases h⟩
  | some depth =>
      rw [hnesting] at hprefixes
      have hcount := Paren.add_count_of_nesting? hnesting
      rw [count_filterMap_ofChar?, count_filterMap_ofChar?, Nat.zero_add, Paren.char,
        Paren.char] at hcount
      rw [Option.some.injEq]
      constructor
      · intro h
        have := h.count_eq
        omega
      · intro h
        exact ⟨hprefixes.2 (by simp), by omega⟩

namespace Token

theorem ofChar?_of_isNumeralChar {c : Char} (h : isNumeralChar c = true) :
    Paren.ofChar? c = none := by
  rw [Paren.ofChar?, if_neg, if_neg]
  · rintro rfl
    exact absurd h (by decide)
  · rintro rfl
    exact absurd h (by decide)

theorem filterMap_impliedZero (previous : Option TokenKind) (t : Token) :
    (impliedZero previous t).filterMap Paren.ofToken? = [] := by
  rw [impliedZero]
  split <;> rfl

theorem ofToken?_of_ofMark? {c : Char} {t : Token} (h : ofMark? c = some t) :
    Paren.ofToken? t = Paren.ofChar? c := by
  rcases ofMark?_eq_some_iff.1 h with ⟨o, rfl, rfl⟩ | ⟨rfl, rfl⟩ | ⟨rfl, rfl⟩
  · cases o <;> rfl
  · rfl
  · rfl

/-- The scanner keeps the parentheses of a text. -/
theorem filterMap_paren_of_scanFrom {previous : Option TokenKind} {position : Nat}
    {cs : List Char} {tokens : List Token} (h : scanFrom previous position cs = .ok tokens) :
    tokens.filterMap Paren.ofToken? = cs.filterMap Paren.ofChar? := by
  fun_induction scanFrom previous position cs generalizing tokens with
  | case1 =>
      obtain rfl := Except.ok.inj h
      rfl
  | case2 _ _ _ ih => exact ih h
  | case3 previous position c rest hspace hchar run hrun =>
      rename_i ih
      obtain ⟨tokens, htokens, rfl⟩ := Except.map_eq_ok_iff.1 h
      have hsplit : c :: rest = run ++ rest.dropWhile isNumeralChar := cons_eq_run_append c rest
      have hnone : run.filterMap Paren.ofChar? = [] := by
        rw [List.filterMap_eq_nil_iff]
        exact fun d hd => ofChar?_of_isNumeralChar (isNumeralChar_of_mem_run hchar d hd)
      rw [hsplit, List.filterMap_append, hnone, ← ih htokens]
      rfl
  | case4 => cases h
  | case5 previous position c rest hspace hchar t ht ih =>
      obtain ⟨tokens, htokens, rfl⟩ := Except.map_eq_ok_iff.1 h
      rw [List.filterMap_append, filterMap_impliedZero, List.nil_append, List.filterMap_cons,
        List.filterMap_cons, ofToken?_of_ofMark? ht, ih htokens]
  | case6 => cases h

/-! ### The ordering stage -/

/-- The stack holds operators and opening parentheses. -/
def Pending (stack : List Token) : Prop :=
  ∀ t ∈ stack, t.kind = .operator ∨ t.kind = .leftParen

theorem pending_nil : Pending [] := fun _ ht => absurd ht List.not_mem_nil

theorem Pending.kind_ne_number {stack : List Token} (h : Pending stack) {t : Token}
    (ht : t ∈ stack) : t.kind ≠ .number := by
  rcases h t ht with hkind | hkind <;> simp [hkind]

/-- How many parentheses are open on the stack. -/
def opened (stack : List Token) : Nat := stack.countP (·.kind == .leftParen)

theorem opened_append (first second : List Token) :
    opened (first ++ second) = opened first + opened second :=
  List.countP_append

theorem opened_eq_zero {stack : List Token} (h : ∀ x ∈ stack, x.kind ≠ .leftParen) :
    opened stack = 0 :=
  List.countP_eq_zero.2 fun x hx => by simpa using h x hx

theorem opened_cons_of_ne {t : Token} (h : t.kind ≠ .leftParen) (stack : List Token) :
    opened (t :: stack) = opened stack :=
  List.countP_cons_of_neg (by simpa using h)

theorem opened_cons_of_eq {t : Token} (h : t.kind = .leftParen) (stack : List Token) :
    opened (t :: stack) = opened stack + 1 :=
  List.countP_cons_of_pos (by simpa using h)

/-- What is open on the stack after a token is what is open in the row of tokens. -/
theorem nesting?_of_shunts {stack released after : List Token} {t : Token}
    (h : Shunts stack t released after) (rest : List Token) :
    Paren.nesting? (opened stack) ((t :: rest).filterMap Paren.ofToken?) =
      Paren.nesting? (opened after) (rest.filterMap Paren.ofToken?) := by
  rw [List.filterMap_cons, Paren.ofToken?]
  cases h with
  | number hkind => rw [hkind]
  | operator hkind hreleased _ =>
      rw [hkind, opened_append, opened_eq_zero fun x hx => by simp [(hreleased x hx).kind_eq],
        Nat.zero_add, opened_cons_of_ne (by simp [hkind])]
  | leftParen hkind => rw [hkind, Paren.nesting?_left, opened_cons_of_eq hkind]
  | rightParen hkind hreleased hparen =>
      rw [hkind, opened_append, opened_eq_zero hreleased, Nat.zero_add, opened_cons_of_eq hparen,
        Paren.nesting?_succ_right]

/-- A token cannot be shunted only if it closes a parenthesis and none is open. -/
theorem eq_unmatchedRight_of_shunt {stack : List Token} {t : Token} {cause : Failure}
    (h : shunt stack t = .error cause) :
    t.kind = .rightParen ∧ opened stack = 0 ∧ cause = .unmatchedRight := by
  rw [shunt] at h
  cases hkind : t.kind with
  | rightParen =>
      rw [hkind] at h
      cases hdrop : stack.dropWhile (·.kind != .leftParen) with
      | nil =>
          rw [hdrop] at h
          refine ⟨rfl, opened_eq_zero fun x hx => ?_, (Except.error.inj h).symm⟩
          simpa using List.dropWhile_eq_nil_iff.1 hdrop x hx
      | cons paren rest =>
          rw [hdrop] at h
          cases h
  | _ =>
      rw [hkind] at h
      cases h

/-- What a token releases are operators and numbers, and what is stacked after
it are operators and opening parentheses; both are the token itself or were on
the stack. -/
theorem shunt_spec {stack released after : List Token} {t : Token} (hstack : Pending stack)
    (h : shunt stack t = .ok (released, after)) :
    Pending after ∧ (∀ x ∈ released, x.isParen = false) ∧
      released ⊆ t :: stack ∧ after ⊆ t :: stack := by
  cases shunts_of_shunt h with
  | number hkind => exact ⟨hstack, by simp [isParen, hkind], by simp, List.subset_cons_self t stack⟩
  | @operator _ rest _ hkind hreleased _ =>
      refine ⟨List.forall_mem_cons.2 ⟨.inl hkind, (List.forall_mem_append.1 hstack).2⟩,
        fun x hx => ?_, List.subset_cons_of_subset t (List.subset_append_left released rest),
        List.cons_subset_cons t (List.subset_append_right released rest)⟩
      simp [isParen, (hreleased x hx).kind_eq]
  | leftParen hkind =>
      exact ⟨List.forall_mem_cons.2 ⟨.inr hkind, hstack⟩, by simp, by simp, List.Subset.refl _⟩
  | @rightParen _ _ _ paren hkind hreleased _ =>
      obtain ⟨hpending, hrest⟩ := List.forall_mem_append.1 hstack
      refine ⟨(List.forall_mem_cons.1 hrest).2, fun x hx => ?_,
        List.subset_cons_of_subset t (List.subset_append_left released _),
        List.subset_cons_of_subset t
          (List.subset_append_of_subset_right released (List.subset_cons_self paren after))⟩
      have hoperator : x.kind = .operator := (hpending x hx).resolve_right (hreleased x hx)
      simp [isParen, hoperator]

/-- What the number of open parentheses at the end says about an outcome. -/
def Decides (depth? : Option Nat) (outcome : Except Failure (List Token)) : Prop :=
  match depth? with
  | none => outcome = .error .unmatchedRight
  | some 0 => ∃ ordered, outcome = .ok ordered
  | some (_ + 1) => outcome = .error .unmatchedLeft

theorem Decides.map {depth? : Option Nat} {outcome : Except Failure (List Token)}
    (h : Decides depth? outcome) (f : List Token → List Token) :
    Decides depth? (outcome.map f) := by
  unfold Decides at h ⊢
  split at h
  · rw [h]
    rfl
  · obtain ⟨ordered, rfl⟩ := h
    exact ⟨f ordered, rfl⟩
  · rw [h]
    rfl

theorem decides_unstack {stack : List Token} (hstack : Pending stack) :
    Decides (some (opened stack)) (unstack stack) := by
  have hparens : stack.any isParen = true ↔ opened stack ≠ 0 := by
    rw [← Nat.pos_iff_ne_zero, opened, List.countP_pos_iff, List.any_eq_true]
    refine exists_congr fun t => and_congr_right fun ht => ?_
    rcases hstack t ht with hkind | hkind <;> simp [isParen, hkind]
  rw [unstack]
  split
  · next h =>
    obtain ⟨n, hn⟩ := Nat.exists_eq_succ_of_ne_zero (hparens.1 h)
    rw [hn]
    rfl
  · next h =>
    rw [not_not.1 (mt hparens.2 h)]
    exact ⟨stack, rfl⟩

/-- The parentheses decide the outcome of the ordering stage. -/
theorem decides_postfixFrom {stack : List Token} (hstack : Pending stack) (tokens : List Token) :
    Decides (Paren.nesting? (opened stack) (tokens.filterMap Paren.ofToken?))
      (postfixFrom stack tokens) := by
  induction tokens generalizing stack with
  | nil => exact decides_unstack hstack
  | cons t tokens ih =>
      cases hshunt : shunt stack t with
      | error cause =>
          obtain ⟨hkind, hopened, rfl⟩ := eq_unmatchedRight_of_shunt hshunt
          rw [List.filterMap_cons, Paren.ofToken?, hkind, hopened, postfixFrom_cons, hshunt]
          rfl
      | ok outcome =>
          rw [nesting?_of_shunts (shunts_of_shunt hshunt), postfixFrom_cons_of_shunt hshunt]
          exact (ih (shunt_spec hstack hshunt).1).map _

/-- The ordering stage refuses a closing parenthesis that closes nothing at
once, and an open one at the end. -/
theorem decides_toPostfix (tokens : List Token) :
    Decides (Paren.nesting? 0 (tokens.filterMap Paren.ofToken?)) (toPostfix tokens) :=
  decides_postfixFrom pending_nil tokens

theorem mem_of_postfixFrom {stack tokens ordered : List Token} (hstack : Pending stack)
    (h : postfixFrom stack tokens = .ok ordered) :
    ∀ x ∈ ordered, x.isParen = false ∧ (x ∈ tokens ∨ x ∈ stack) := by
  induction tokens generalizing stack ordered with
  | nil =>
      obtain ⟨rfl, hparens⟩ := unstack_eq_ok_iff.1 h
      exact fun x hx => ⟨hparens x hx, .inr hx⟩
  | cons t tokens ih =>
      obtain ⟨released, after, output, hshunt, houtput, rfl⟩ := exists_of_postfixFrom_cons h
      obtain ⟨hafter, hparens, hreleased, hsubset⟩ := shunt_spec hstack hshunt
      intro x hx
      rcases List.mem_append.1 hx with hx | hx
      · refine ⟨hparens x hx, ?_⟩
        rcases List.mem_cons.1 (hreleased hx) with rfl | hmem
        · exact .inl List.mem_cons_self
        · exact .inr hmem
      · obtain ⟨hparen, hmem | hmem⟩ := ih hafter houtput x hx
        · exact ⟨hparen, .inl (List.mem_cons_of_mem t hmem)⟩
        · rcases List.mem_cons.1 (hsubset hmem) with rfl | hmem
          · exact ⟨hparen, .inl List.mem_cons_self⟩
          · exact ⟨hparen, .inr hmem⟩

/-- The ordered tokens are tokens of the text, and no parenthesis is among them. -/
theorem mem_of_toPostfix {tokens ordered : List Token} (h : toPostfix tokens = .ok ordered) :
    ∀ x ∈ ordered, x.isParen = false ∧ x ∈ tokens := by
  intro x hx
  obtain ⟨hparen, hmem⟩ := mem_of_postfixFrom pending_nil h x hx
  exact ⟨hparen, hmem.resolve_right List.not_mem_nil⟩

end Token

end Reckoner
