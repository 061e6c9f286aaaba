import Mathlib.Data.List.Basic
import Reckoner.Proofs.Scanning

/-!
# Maximal runs of digits and points

The runs of a text can be found part by part: `isRun_append_iff` splits a text
wherever no number continues from one part to the next.
-/

namespace Reckoner

open Token (isNumeralChar)

/-- `run` is a maximal run of digits and points in `cs`: the characters before
and behind it, if there are any, do not belong to a number. -/
def IsRun (run cs : List Char) : Prop :=
  ∃ before after, cs = before ++ (run ++ after) ∧ run ≠ [] ∧ (∀ c ∈ run, isNumeralChar c) ∧
    (∀ c ∈ before.getLast?, isNumeralChar c = false) ∧
    ∀ c ∈ after.head?, isNumeralChar c = false

/-- No number continues from `first` to `second`. -/
def Parted (first second : List Char) : Prop :=
  (∀ c ∈ first.getLast?, isNumeralChar c = false) ∨ ∀ c ∈ second.head?, isNumeralChar c = false

theorem not_isRun_nil (run : List Char) : ¬ IsRun run [] := by
  rintro ⟨before, after, hsplit, hne, -⟩
  simp_all

/-- Between two parts of a run a number continues. -/
theorem not_parted {first second : List Char} (hfirst : first ≠ []) (hsecond : second ≠ [])
    (h : ∀ c ∈ first ++ second, isNumeralChar c) (before after : List Char) :
    ¬ Parted (before ++ first) (second ++ after) := by
  have hlast : isNumeralChar (first.getLast hfirst) := h _ (by simp)
  have hhead : isNumeralChar (second.head hsecond) := h _ (by simp)
  rintro (hparted | hparted)
  · rw [List.getLast?_append_of_ne_nil _ hfirst, List.getLast?_eq_some_getLast hfirst] at hparted
    exact absurd hlast (by rw [hparted _ rfl]; decide)
  · rw [List.head?_append_of_ne_nil _ hsecond, List.head?_eq_some_head hsecond] at hparted
    exact absurd hhead (by rw [hparted _ rfl]; decide)

/-- A run that ends where the first part does is not continued by the second. -/
theorem forall_mem_head?_append {before run after second : List Char} (hne : run ≠ [])
    (hrun : ∀ c ∈ run, isNumeralChar c) (hafter : ∀ c ∈ after.head?, isNumeralChar c = false)
    (hparted : Parted (before ++ (run ++ after)) second) :
    ∀ c ∈ (after ++ second).head?, isNumeralChar c = false := by
  cases after with
  | cons c after => exact hafter
  | nil =>
      intro d hd
      obtain ⟨second, rfl⟩ := List.head?_eq_some_iff.1 hd
      by_contra hnumeral
      rw [Bool.not_eq_false] at hnumeral
      rw [List.append_nil] at hparted
      refine not_parted hne (List.cons_ne_nil d []) ?_ before second hparted
      simpa [or_imp, forall_and] using ⟨hrun, hnumeral⟩

theorem IsRun.append_left {run first second : List Char} (hparted : Parted first second)
    (h : IsRun run first) : IsRun run (first ++ second) := by
  obtain ⟨before, after, rfl, hne, hrun, hbefore, hafter⟩ := h
  exact ⟨before, after ++ second, by simp, hne, hrun, hbefore,
    forall_mem_head?_append hne hrun hafter hparted⟩

theorem IsRun.append_right {run first second : List Char} (hparted : Parted first second)
    (h : IsRun run second) : IsRun run (first ++ second) := by
  obtain ⟨before, after, rfl, hne, hrun, hbefore, hafter⟩ := h
  refine ⟨first ++ before, after, by simp, hne, hrun, ?_, hafter⟩
  rcases List.eq_nil_or_concat before with rfl | ⟨before, d, rfl⟩
  · intro d hd
    rw [List.append_nil] at hd
    obtain ⟨first, rfl⟩ := List.getLast?_eq_some_iff.1 hd
    by_contra hnumeral
    rw [Bool.not_eq_false] at hnumeral
    refine not_parted (List.cons_ne_nil d []) hne ?_ first after hparted
    simpa [or_imp, forall_and] using ⟨hnumeral, hrun⟩
  · rw [List.getLast?_append_of_ne_nil _ (by simp)]
    exact hbefore

/-- Where no number continues, the runs are those of the two parts. -/
theorem isRun_append_iff {first second run : List Char} (hparted : Parted first second) :
    IsRun run (first ++ second) ↔ IsRun run first ∨ IsRun run second := by
  constructor
  · rintro ⟨before, after, hsplit, hne, hrun, hbefore, hafter⟩
    rcases List.append_eq_append_iff.1 hsplit with ⟨front, rfl, rfl⟩ | ⟨back, rfl, hback⟩
    · refine .inr ⟨front, after, rfl, hne, hrun, fun c hc => hbefore c ?_, hafter⟩
      exact List.mem_getLast?_append_of_mem_getLast? hc
    · rcases List.append_eq_append_iff.1 hback with ⟨rest, rfl, rfl⟩ | ⟨rest, rfl, rfl⟩
      · refine .inl ⟨before, rest, rfl, hne, hrun, hbefore, fun c hc => hafter c ?_⟩
        exact List.mem_head?_append_of_mem_head? hc
      · rcases eq_or_ne back [] with rfl | hback
        · exact .inr ⟨[], after, rfl, hne, hrun, by simp, hafter⟩
        rcases eq_or_ne rest [] with rfl | hrest
        · exact .inl ⟨before, [], by simp, by simpa using hne, by simpa using hrun, hbefore,
            by simp⟩
        exact absurd hparted (not_parted hback hrest hrun before after)
  · rintro (h | h)
    · exact h.append_left hparted
    · exact h.append_right hparted

theorem isRun_self_iff {cs run : List Char} (hne : cs ≠ []) (hcs : ∀ c ∈ cs, isNumeralChar c) :
    IsRun run cs ↔ run = cs := by
  constructor
  · rintro ⟨before, after, rfl, -, -, hbefore, hafter⟩
    have hnil : before = [] := by
      rw [← List.getLast?_eq_none_iff, Option.eq_none_iff_forall_not_mem]
      intro c hc
      have hmem := List.mem_of_mem_getLast? hc
      exact absurd (hcs c (by simp [hmem])) (by rw [hbefore c hc]; decide)
    have hnil' : after = [] := by
      rw [← List.head?_eq_none_iff, Option.eq_none_iff_forall_not_mem]
      intro c hc
      have hmem := List.mem_of_mem_head? hc
      exact absurd (hcs c (by simp [hmem])) (by rw [hafter c hc]; decide)
    rw [hnil, hnil', List.nil_append, List.append_nil]
  · rintro rfl
    exact ⟨[], [], by simp, hne, hcs, by simp, by simp⟩

theorem not_isRun_singleton {c : Char} (hc : isNumeralChar c = false) (run : List Char) :
    ¬ IsRun run [c] := by
  rintro ⟨before, after, hsplit, hne, hrun, -, -⟩
  obtain ⟨d, hd⟩ := List.exists_mem_of_ne_nil run hne
  have hmem : d ∈ [c] := by rw [hsplit]; simp [hd]
  obtain rfl := List.mem_singleton.1 hmem
  exact absurd (hrun d hd) (by rw [hc]; decide)

/-- A character that belongs to no number has no part in the runs. -/
theorem isRun_cons_iff {c : Char} (hc : isNumeralChar c = false) {run cs : List Char} :
    IsRun run (c :: cs) ↔ IsRun run cs := by
  have hparted : Parted [c] cs := .inl (by simpa using hc)
  rw [← List.singleton_append, isRun_append_iff hparted, or_iff_right (not_isRun_singleton hc run)]

end Reckoner
