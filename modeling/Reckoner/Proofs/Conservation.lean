import Mathlib.Data.List.Nodup
import Reckoner.Proofs.Nesting

/-!
# What ordering keeps

Ordering moves tokens and makes none up. Written with the places where they stood, the tokens
other than parentheses are sent to the output once each, numbers in the order of their places,
and an operator behind every number that stood before it (`exists_placed_of_postfixFrom`). This
holds of every row of tokens that can be ordered, also of one that lacks operands, and the
parentheses alone decide which rows these are: `toPostfix_conserves`.
-/

namespace Reckoner

namespace Paren

/-- The kind of the tokens that stand for a parenthesis. -/
def kind : Paren → TokenKind
  | left => .leftParen
  | right => .rightParen

theorem count_filterMap_ofToken? (p : Paren) (tokens : List Token) :
    (tokens.filterMap ofToken?).count p = tokens.countP (·.kind == p.kind) := by
  rw [List.count_filterMap]
  refine List.countP_congr fun t _ => ?_
  rw [ofToken?]
  cases p <;> cases t.kind <;> decide

end Paren

namespace Token

open scoped List

/-! ### Tokens with their places -/

/-- A token, and what is on the stack, is sent to the output, is stacked after it, or is one of
two parentheses that are dropped. No number is sent behind another token. -/
theorem exists_placed_of_shunt {stack : List (Token × Nat)} {x : Token × Nat}
    {released after : List Token} (hstack : Pending (stack.map Prod.fst))
    (h : shunt (stack.map Prod.fst) x.1 = .ok (released, after)) :
    ∃ out kept dropped : List (Token × Nat), out.map Prod.fst = released ∧
      kept.map Prod.fst = after ∧ (out ++ (kept ++ dropped)).Perm (x :: stack) ∧
      (∀ y ∈ dropped, y.1.isParen = true) ∧ out.Pairwise fun _ y => y.1.kind ≠ .number := by
  generalize hplaced : stack.map Prod.fst = row at h hstack
  cases shunts_of_shunt h with
  | number hkind => exact ⟨[x], stack, [], rfl, hplaced, by simp, by simp, by simp⟩
  | @operator _ rest _ hkind hreleased _ =>
      obtain ⟨out, kept, rfl, rfl, rfl⟩ := List.map_eq_append_iff.1 hplaced
      refine ⟨out, x :: kept, [], rfl, rfl, by simp, by simp, ?_⟩
      refine List.pairwise_of_forall_mem_list fun _ _ y hy hnumber => ?_
      simp [(hreleased y.1 (List.mem_map_of_mem hy)).kind_eq] at hnumber
  | leftParen hkind =>
      subst hplaced
      exact ⟨[], x :: stack, [], rfl, rfl, by simp, by simp, by simp⟩
  | @rightParen _ _ _ paren hkind hreleased hparen =>
      obtain ⟨out, back, rfl, rfl, hback⟩ := List.map_eq_append_iff.1 hplaced
      obtain ⟨y, kept, rfl, rfl, rfl⟩ := List.map_eq_cons_iff.1 hback
      refine ⟨out, kept, [x, y], rfl, rfl, ?_, by simp [isParen, hkind, hparen], ?_⟩
      · exact (List.perm_append_comm.append_left out).trans List.perm_middle
      · refine List.pairwise_of_forall_mem_list fun _ _ z hz hnumber => ?_
        have hstacked : z.1 ∈ out.map Prod.fst ++ y.1 :: kept.map Prod.fst :=
          List.mem_append_left _ (List.mem_map_of_mem hz)
        exact hstack.kind_ne_number hstacked hnumber

/-- What is on the stack stood before all that follows, and what follows stands in order. Then
all but the parentheses is sent to the output, and nothing is sent there before a number that
stood before it. -/
theorem exists_placed_of_postfixFrom {stack tokens : List (Token × Nat)} {ordered : List Token}
    (hstack : Pending (stack.map Prod.fst)) (hbefore : ∀ x ∈ stack, ∀ y ∈ tokens, x.2 < y.2)
    (htokens : tokens.Pairwise fun x y => x.2 < y.2)
    (h : postfixFrom (stack.map Prod.fst) (tokens.map Prod.fst) = .ok ordered) :
    ∃ placed : List (Token × Nat), placed.map Prod.fst = ordered ∧
      placed.Perm ((stack ++ tokens).filter (!·.1.isParen)) ∧
      placed.Pairwise fun x y => y.1.kind = .number → x.2 < y.2 := by
  induction tokens generalizing stack ordered with
  | nil =>
      rw [List.map_nil, postfixFrom_nil] at h
      obtain ⟨hordered, hparens⟩ := unstack_eq_ok_iff.1 h
      refine ⟨stack, hordered, ?_, ?_⟩
      · rw [List.append_nil, List.filter_eq_self.2]
        intro x hx
        simpa using hparens x.1 (List.mem_map_of_mem hx)
      · refine List.pairwise_of_forall_mem_list fun _ _ y hy hkind => ?_
        exact absurd hkind (hstack.kind_ne_number (List.mem_map_of_mem hy))
  | cons x tokens ih =>
      rw [List.map_cons] at h
      obtain ⟨released, after, output, hshunt, houtput, rfl⟩ := exists_of_postfixFrom_cons h
      obtain ⟨hafter, hparens, -, -⟩ := shunt_spec hstack hshunt
      obtain ⟨out, kept, dropped, rfl, rfl, hperm, hdropped, hout⟩ :=
        exists_placed_of_shunt hstack hshunt
      obtain ⟨hx, htokens⟩ := List.pairwise_cons.1 htokens
      -- All that has been read stood before what is still to be read.
      have hread : ∀ y ∈ out ++ (kept ++ dropped), ∀ z ∈ tokens, y.2 < z.2 := by
        intro y hy z hz
        rcases List.mem_cons.1 (hperm.mem_iff.1 hy) with rfl | hy
        · exact hx z hz
        · exact hbefore y hy z (List.mem_cons_of_mem x hz)
      obtain ⟨placed, rfl, hplaced, hpairs⟩ := ih hafter
        (fun y hy => hread y (by simp [hy])) htokens houtput
      refine ⟨out ++ placed, List.map_append, ?_, List.pairwise_append.2 ⟨?_, hpairs, ?_⟩⟩
      · have hkeep : out.filter (!·.1.isParen) = out :=
          List.filter_eq_self.2 fun y hy => by simpa using hparens y.1 (List.mem_map_of_mem hy)
        have hdrop : dropped.filter (!·.1.isParen) = [] :=
          List.filter_eq_nil_iff.2 fun y hy => by simpa using hdropped y hy
        calc out ++ placed
          _ ~ out ++ (kept ++ tokens).filter (!·.1.isParen) := hplaced.append_left out
          _ = (out ++ (kept ++ dropped) ++ tokens).filter (!·.1.isParen) := by
            simp only [List.filter_append, hkeep, hdrop, List.nil_append, List.append_assoc]
          _ ~ (x :: stack ++ tokens).filter (!·.1.isParen) := (hperm.append_right tokens).filter _
          _ ~ (stack ++ x :: tokens).filter (!·.1.isParen) := List.perm_middle.symm.filter _
      · exact hout.imp fun hy hkind => absurd hkind hy
      · intro y hy z hz hkind
        rcases List.mem_append.1 (List.mem_of_mem_filter (hplaced.mem_iff.1 hz)) with hz | hz
        · exact absurd hkind (hafter.kind_ne_number (List.mem_map_of_mem hz))
        · exact hread y (by simp [hy]) z hz

/-! ### What is kept -/

/-- The tokens in `ordered` are those of `tokens` other than parentheses. Numbers are in the same
order, and with the places where they stood, no token stands before a number that stood before
it. -/
structure Reordered (tokens ordered : List Token) : Prop where
  isParen_eq_false : ∀ t ∈ ordered, t.isParen = false
  perm : ordered.Perm (tokens.filter (!·.isParen))
  numbers_eq : ordered.filter (·.kind == .number) = tokens.filter (·.kind == .number)
  exists_placed : ∃ placed : List (Token × Nat), placed.map Prod.fst = ordered ∧
    placed.Perm (tokens.zipIdx.filter (!·.1.isParen)) ∧
    placed.Pairwise fun x y => y.1.kind = .number → x.2 < y.2

theorem pairwise_zipIdx (tokens : List Token) : tokens.zipIdx.Pairwise fun x y => x.2 < y.2 := by
  rw [← List.pairwise_map (f := Prod.snd), List.zipIdx_map_snd]
  exact List.pairwise_lt_range'

theorem map_filter_zipIdx (p : Token → Bool) (tokens : List Token) :
    (tokens.zipIdx.filter (p ·.1)).map Prod.fst = tokens.filter p := by
  conv_rhs => rw [← List.zipIdx_map_fst 0 tokens, List.filter_map]
  rfl

theorem reordered_of_toPostfix {tokens ordered : List Token} (h : toPostfix tokens = .ok ordered) :
    Reordered tokens ordered := by
  rw [toPostfix, ← List.zipIdx_map_fst 0 tokens] at h
  have hempty : Pending (([] : List (Token × Nat)).map Prod.fst) := pending_nil
  obtain ⟨placed, rfl, hperm, hpairs⟩ :=
    exists_placed_of_postfixFrom hempty (by simp) (pairwise_zipIdx tokens) h
  rw [List.nil_append] at hperm
  have hterms : (placed.map Prod.fst).Perm (tokens.filter (!·.isParen)) := by
    rw [← map_filter_zipIdx (!·.isParen)]
    exact hperm.map Prod.fst
  refine ⟨fun t ht => ?_, hterms, ?_, placed, rfl, hperm, hpairs⟩
  · simpa using (List.mem_filter.1 (hterms.mem_iff.1 ht)).2
  · -- Two rows of the same places, both in order, are one row.
    have hnumbers : (placed.filter (·.1.kind == .number)).Perm
        (tokens.zipIdx.filter (·.1.kind == .number)) := by
      have hboth := hperm.filter (·.1.kind == .number)
      rw [List.filter_filter] at hboth
      refine hboth.trans (.of_eq (List.filter_congr fun x _ => ?_))
      cases hkind : x.1.kind <;> simp [isParen, hkind]
    have hplaced : (placed.filter (·.1.kind == .number)).Pairwise fun x y => x.2 < y.2 := by
      refine (hpairs.filter _).imp_of_mem fun _ hy h => h ?_
      simpa using (List.mem_filter.1 hy).2
    have hsame := List.Perm.eq_of_pairwise (fun x y _ _ hxy hyx => absurd hxy (Nat.lt_asymm hyx))
      hplaced ((pairwise_zipIdx tokens).filter _) hnumbers
    rw [← map_filter_zipIdx (·.kind == .number) tokens, ← hsame, List.filter_map]
    rfl

/-- The ordering stage refuses the tokens with the given wording. -/
def RefusedWith (tokens : List Token) (wording : String) : Prop :=
  ∃ cause, toPostfix tokens = .error cause ∧ cause.kind = .mismatchedParens ∧
    cause.message = wording

theorem refusedWith_iff_of_error {tokens : List Token} {cause : Failure}
    (h : toPostfix tokens = .error cause) (wording : String) :
    RefusedWith tokens wording ↔ cause.kind = .mismatchedParens ∧ cause.message = wording := by
  constructor
  · rintro ⟨cause', h', hcause⟩
    rw [h] at h'
    obtain rfl := Except.error.inj h'
    exact hcause
  · exact fun hcause => ⟨cause, h, hcause⟩

theorem not_refusedWith_of_ok {tokens ordered : List Token} (h : toPostfix tokens = .ok ordered)
    (wording : String) : ¬ RefusedWith tokens wording := by
  rintro ⟨cause, h', -⟩
  rw [h] at h'
  cases h'

theorem message_unmatchedRight : Failure.unmatchedRight.message = "Unmatched ')'" := rfl

theorem message_unmatchedLeft : Failure.unmatchedLeft.message = "Unmatched '('" := rfl

/-- Some prefix has more closing parentheses than opening ones. -/
def Overclosed (tokens : List Token) : Prop :=
  ∃ before, before <+: tokens ∧
    before.countP (·.kind == .leftParen) < before.countP (·.kind == .rightParen)

theorem nesting?_eq_none_iff_overclosed {tokens : List Token} :
    Paren.nesting? 0 (tokens.filterMap Paren.ofToken?) = none ↔ Overclosed tokens := by
  simp only [Paren.nesting?_filterMap_eq_none_iff, Paren.count_filterMap_ofToken?, Paren.kind,
    Overclosed]

/-- Every row of tokens is refused if some prefix closes more parentheses than it opens, else if
the whole row opens more than it closes, and else it is ordered, with nothing lost or made up. -/
theorem toPostfix_conserves (tokens : List Token) :
    (RefusedWith tokens "Unmatched ')'" ↔ Overclosed tokens) ∧
      (RefusedWith tokens "Unmatched '('" ↔ ¬ Overclosed tokens ∧
        tokens.countP (·.kind == .rightParen) < tokens.countP (·.kind == .leftParen)) ∧
      (¬ Overclosed tokens →
        tokens.countP (·.kind == .leftParen) ≤ tokens.countP (·.kind == .rightParen) →
          ∃ ordered, toPostfix tokens = .ok ordered ∧ Reordered tokens ordered) := by
  have hdecides := decides_toPostfix tokens
  rw [← nesting?_eq_none_iff_overclosed]
  cases hnesting : Paren.nesting? 0 (tokens.filterMap Paren.ofToken?) with
  | none =>
      rw [hnesting] at hdecides
      have hrefused : toPostfix tokens = .error .unmatchedRight := hdecides
      simp [refusedWith_iff_of_error hrefused, Failure.kind, message_unmatchedRight]
  | some depth =>
      have hcount := Paren.add_count_of_nesting? hnesting
      rw [Paren.count_filterMap_ofToken?, Paren.count_filterMap_ofToken?, Nat.zero_add] at hcount
      simp only [Paren.kind] at hcount
      rw [hnesting] at hdecides
      cases depth with
      | zero =>
          obtain ⟨ordered, hordered⟩ := hdecides
          refine ⟨?_, ?_, fun _ _ => ⟨ordered, hordered, reordered_of_toPostfix hordered⟩⟩
          · simp [not_refusedWith_of_ok hordered]
          · simp [not_refusedWith_of_ok hordered]
            omega
      | succ depth =>
          have hrefused : toPostfix tokens = .error .unmatchedLeft := hdecides
          refine ⟨?_, ?_, ?_⟩
          · simp [refusedWith_iff_of_error hrefused, Failure.kind, message_unmatchedLeft]
          · simp [refusedWith_iff_of_error hrefused, Failure.kind, message_unmatchedLeft]
            omega
          · omega

end Token

end Reckoner
