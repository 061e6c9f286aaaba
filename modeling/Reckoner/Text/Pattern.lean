/-!
# Patterns at the end of a text

A pattern takes characters from the front of a text. Where it can take more or fewer of
them, it takes as many as it can first, and gives them back one after the other if what
comes behind them fails: `splits` lists what it takes in the order of these attempts. The
texts that it takes at all are known from the pattern alone (`mem_splits_iff`).

A pattern is searched for at the end of a text, where a last line end does not count. The
places of the text are tried from the left, and at each place the first attempt that leads
to the end is taken (`searchEnd?`).
-/

namespace Reckoner.Text

/-- A pattern of characters. -/
inductive Pattern where
  /-- One character of a class. -/
  | one (accepts : Char → Bool)
  /-- Any number of characters of a class. -/
  | many (accepts : Char → Bool)
  | optional (p : Pattern)
  | followedBy (p q : Pattern)

namespace Pattern

/-- At least one character of a class. -/
def atLeastOne (accepts : Char → Bool) : Pattern := .followedBy (.one accepts) (.many accepts)

/-- The characters of a class at the front of a text, and what is left behind them:
first all of them, at last none. -/
def runs (accepts : Char → Bool) : List Char → List (List Char × List Char)
  | [] => [([], [])]
  | c :: cs =>
    (if accepts c then (runs accepts cs).map fun s => (c :: s.1, s.2) else []) ++ [([], c :: cs)]

/-- What the pattern takes from the front of a text, and what it leaves, in the order of
its attempts. -/
def splits : Pattern → List Char → List (List Char × List Char)
  | one _, [] => []
  | one accepts, c :: cs => if accepts c then [([c], cs)] else []
  | many accepts, cs => runs accepts cs
  | optional p, cs => p.splits cs ++ [([], cs)]
  | followedBy p q, cs =>
    (p.splits cs).flatMap fun s => (q.splits s.2).map fun t => (s.1 ++ t.1, t.2)

/-- Whether nothing is left but a last line end. -/
def isEnd (rest : List Char) : Bool := rest.isEmpty || rest == ['\n']

/-- The first attempt that leads to the end of the text. -/
def matchEnd? (p : Pattern) (cs : List Char) : Option (List Char × List Char) :=
  (p.splits cs).find? fun s => isEnd s.2

/-- What is before the leftmost place from which the pattern leads to the end of the text,
and what it takes there. -/
def searchEnd? (p : Pattern) (cs : List Char) : Option (List Char × List Char) :=
  match p.matchEnd? cs, cs with
  | some s, _ => some ([], s.1)
  | none, [] => none
  | none, c :: rest => (p.searchEnd? rest).map fun s => (c :: s.1, s.2)

/-! ### What a pattern takes -/

/-- The texts that a pattern takes. -/
def Takes : Pattern → List Char → Prop
  | one accepts, taken => ∃ c, accepts c = true ∧ taken = [c]
  | many accepts, taken => ∀ c ∈ taken, accepts c = true
  | optional p, taken => p.Takes taken ∨ taken = []
  | followedBy p q, taken => ∃ front back, taken = front ++ back ∧ p.Takes front ∧ q.Takes back

theorem takes_atLeastOne_iff {accepts : Char → Bool} {taken : List Char} :
    (atLeastOne accepts).Takes taken ↔ taken ≠ [] ∧ ∀ c ∈ taken, accepts c = true := by
  constructor
  · rintro ⟨_, back, rfl, ⟨c, hc, rfl⟩, hback⟩
    exact ⟨List.cons_ne_nil _ _, List.forall_mem_cons.2 ⟨hc, hback⟩⟩
  · rintro ⟨hne, htaken⟩
    obtain ⟨c, back, rfl⟩ := List.exists_cons_of_ne_nil hne
    obtain ⟨hc, hback⟩ := List.forall_mem_cons.1 htaken
    exact ⟨[c], back, rfl, ⟨c, hc, rfl⟩, hback⟩

theorem mem_runs_iff {accepts : Char → Bool} {cs taken rest : List Char} :
    (taken, rest) ∈ runs accepts cs ↔ cs = taken ++ rest ∧ ∀ c ∈ taken, accepts c = true := by
  induction cs generalizing taken with
  | nil => cases taken <;> cases rest <;> simp [runs]
  | cons c cs ih =>
    rw [runs, List.mem_append, List.mem_singleton, Prod.mk.injEq]
    constructor
    · rintro (h | ⟨rfl, rfl⟩)
      · obtain ⟨hc, h⟩ := List.mem_ite_nil_right.1 h
        obtain ⟨⟨front, rest⟩, hmem, heq⟩ := List.mem_map.1 h
        cases heq
        obtain ⟨rfl, hfront⟩ := ih.1 hmem
        exact ⟨rfl, List.forall_mem_cons.2 ⟨hc, hfront⟩⟩
      · exact ⟨rfl, by simp⟩
    · rintro ⟨hcs, htaken⟩
      cases taken with
      | nil => exact .inr ⟨rfl, hcs.symm⟩
      | cons d front =>
        cases hcs
        obtain ⟨hd, hfront⟩ := List.forall_mem_cons.1 htaken
        exact .inl (List.mem_ite_nil_right.2 ⟨hd, List.mem_map_of_mem (ih.2 ⟨rfl, hfront⟩)⟩)

/-- The attempts of a pattern are all ways to split the text behind something that it
takes. -/
theorem mem_splits_iff {p : Pattern} {cs taken rest : List Char} :
    (taken, rest) ∈ p.splits cs ↔ cs = taken ++ rest ∧ p.Takes taken := by
  induction p generalizing cs taken rest with
  | one accepts =>
    cases cs with
    | nil =>
      refine iff_of_false List.not_mem_nil ?_
      rintro ⟨hcs, c, -, rfl⟩
      cases hcs
    | cons c cs =>
      rw [splits, List.mem_ite_nil_right, List.mem_singleton, Prod.mk.injEq, Takes]
      constructor
      · rintro ⟨hc, rfl, rfl⟩
        exact ⟨rfl, c, hc, rfl⟩
      · rintro ⟨hcs, d, hd, rfl⟩
        cases hcs
        exact ⟨hd, rfl, rfl⟩
  | many accepts => exact mem_runs_iff
  | optional p ih =>
    rw [splits, List.mem_append, ih, List.mem_singleton, Prod.mk.injEq, Takes]
    constructor
    · rintro (⟨rfl, htakes⟩ | ⟨rfl, rfl⟩)
      · exact ⟨rfl, .inl htakes⟩
      · exact ⟨rfl, .inr rfl⟩
    · rintro ⟨rfl, htakes | rfl⟩
      · exact .inl ⟨rfl, htakes⟩
      · exact .inr ⟨rfl, rfl⟩
  | followedBy p q ihp ihq =>
    simp only [splits, List.mem_flatMap, List.mem_map, Prod.exists, Prod.mk.injEq, ihp, ihq, Takes]
    constructor
    · rintro ⟨front, _, ⟨rfl, hfront⟩, back, rest, ⟨rfl, hback⟩, rfl, rfl⟩
      exact ⟨(List.append_assoc ..).symm, front, back, rfl, hfront, hback⟩
    · rintro ⟨rfl, front, back, rfl, hfront, hback⟩
      exact ⟨front, back ++ rest, ⟨List.append_assoc .., hfront⟩, back, rest, ⟨rfl, hback⟩,
        rfl, rfl⟩

/-! ### Searching -/

theorem isEnd_iff {rest : List Char} : isEnd rest = true ↔ rest = [] ∨ rest = ['\n'] := by
  rw [isEnd, Bool.or_eq_true, List.isEmpty_iff, beq_iff_eq]

theorem matchEnd?_eq_none_iff {p : Pattern} {cs : List Char} :
    p.matchEnd? cs = none ↔
      ∀ taken rest, cs = taken ++ rest → isEnd rest = true → ¬ p.Takes taken := by
  rw [matchEnd?, List.find?_eq_none]
  constructor
  · intro h taken rest hcs hrest htaken
    exact h _ (mem_splits_iff.2 ⟨hcs, htaken⟩) hrest
  · rintro h ⟨taken, rest⟩ hmem hrest
    obtain ⟨hcs, htaken⟩ := mem_splits_iff.1 hmem
    exact h taken rest hcs hrest htaken

theorem of_matchEnd?_eq_some {p : Pattern} {cs taken rest : List Char}
    (h : p.matchEnd? cs = some (taken, rest)) :
    cs = taken ++ rest ∧ isEnd rest = true ∧ p.Takes taken := by
  rw [matchEnd?] at h
  obtain ⟨hcs, htaken⟩ := mem_splits_iff.1 (List.mem_of_find?_eq_some h)
  have hrest := List.find?_some h
  exact ⟨hcs, hrest, htaken⟩

theorem searchEnd?_of_matchEnd? {p : Pattern} {cs taken rest : List Char}
    (h : p.matchEnd? cs = some (taken, rest)) : p.searchEnd? cs = some ([], taken) := by
  rw [searchEnd?.eq_def, h]

theorem searchEnd?_cons_of_none {p : Pattern} {c : Char} {cs : List Char}
    (h : p.matchEnd? (c :: cs) = none) :
    p.searchEnd? (c :: cs) = (p.searchEnd? cs).map fun s => (c :: s.1, s.2) := by
  rw [searchEnd?.eq_def, h]

/-- A search finds what is taken at a place if nothing is taken at the places before it. -/
theorem searchEnd?_append {p : Pattern} {before cs taken rest : List Char}
    (hbefore : ∀ t, t <:+ before → t ≠ [] → p.matchEnd? (t ++ cs) = none)
    (h : p.matchEnd? cs = some (taken, rest)) :
    p.searchEnd? (before ++ cs) = some (before, taken) := by
  induction before with
  | nil => exact searchEnd?_of_matchEnd? h
  | cons c before ih =>
    have hlater := ih fun t ht => hbefore t (ht.trans (List.suffix_cons c before))
    have hplace : p.matchEnd? (c :: (before ++ cs)) = none :=
      hbefore (c :: before) (List.suffix_refl _) (List.cons_ne_nil _ _)
    rw [List.cons_append, searchEnd?_cons_of_none hplace, hlater, Option.map_some]

theorem searchEnd?_eq_none {p : Pattern} {cs : List Char}
    (h : ∀ t, t <:+ cs → p.matchEnd? t = none) : p.searchEnd? cs = none := by
  induction cs with
  | nil => rw [searchEnd?.eq_def, h [] (List.suffix_refl _)]
  | cons c cs ih =>
    have hlater := ih fun t ht => h t (ht.trans (List.suffix_cons c cs))
    rw [searchEnd?_cons_of_none (h _ (List.suffix_refl _)), hlater, Option.map_none]

end Pattern

end Reckoner.Text
