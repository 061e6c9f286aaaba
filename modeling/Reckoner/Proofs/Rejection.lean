import Mathlib.Data.Nat.Find
import Reckoner.Proofs.Legibility

/-!
# What the scanner reports

A text that cannot be scanned has a flaw: a character that has no part in an expression, or a
maximal run of digits and points that makes up no number. It may have many, and the scanner
judges a run only when it has read all of it; still it reports the leftmost flaw, at the place
where that starts, and everything before it can be scanned: `scan_refuses_leftmost`.
-/

namespace Reckoner

open Token

/-- What is wrong at a place of a text. -/
inductive Flaw where
  | character (c : Char)
  | run (chars : List Char)

/-- The failure that reports a flaw. -/
def Flaw.failure (place : Nat) : Flaw → Failure
  | character c => .invalidCharacter c place
  | run chars => .malformedNumber (String.ofList chars) place

/-- At the place stands a character that has no part in an expression, or a maximal run of digits
and points starts that has no digit or more than one point. -/
inductive FlawAt : List Char → Nat → Flaw → Prop where
  | character {before after : List Char} {c : Char} (hspace : c ≠ ' ') (hc : c ∉ lexemeChars) :
    FlawAt (before ++ c :: after) before.length (.character c)
  | run {before run after : List Char} (hne : run ≠ []) (hrun : ∀ c ∈ run, isNumeralChar c)
    (hbefore : ∀ c ∈ before.getLast?, isNumeralChar c = false)
    (hafter : ∀ c ∈ after.head?, isNumeralChar c = false)
    (hflaw : (∀ c ∈ run, c.isDigit = false) ∨ 1 < run.count '.') :
    FlawAt (before ++ (run ++ after)) before.length (.run run)

/-- A flaw that no other one comes before. -/
structure Leftmost (cs : List Char) (place : Nat) (flaw : Flaw) : Prop where
  flawAt : FlawAt cs place flaw
  le : ∀ other flaw', FlawAt cs other flaw' → place ≤ other

variable {cs : List Char} {place : Nat} {flaw : Flaw}

theorem FlawAt.lt_length (h : FlawAt cs place flaw) : place < cs.length := by
  cases h with
  | character => simp
  | run hne =>
      have := List.length_pos_iff.2 hne
      simp only [List.length_append]
      omega

theorem FlawAt.append_left {second : List Char} (hparted : Parted cs second)
    (h : FlawAt cs place flaw) : FlawAt (cs ++ second) place flaw := by
  cases h with
  | character hspace hc =>
      rw [List.append_assoc]
      exact .character hspace hc
  | run hne hrun hbefore hafter hflaw =>
      have hafter' := forall_mem_head?_append hne hrun hafter hparted
      rw [List.append_assoc, List.append_assoc]
      exact .run hne hrun hbefore hafter' hflaw

/-- A text is legible exactly if it has no flaw. -/
theorem legible_iff_forall_not_flawAt : Legible cs ↔ ∀ place flaw, ¬ FlawAt cs place flaw := by
  constructor
  · intro h place flaw hflaw
    cases hflaw with
    | @character before after c hspace hc => exact (h.mem_chars c (by simp)).elim hspace hc
    | @run before run after hne hrun hbefore hafter hflaw =>
        have hisRun : IsRun run (before ++ (run ++ after)) :=
          ⟨before, after, rfl, hne, hrun, hbefore, hafter⟩
        rcases hflaw with hdigit | hpoint
        · obtain ⟨c, hc, hdigit'⟩ := h.exists_digit run hisRun
          simp [hdigit c hc] at hdigit'
        · exact absurd (h.count_point_le run hisRun) (Nat.not_le.2 hpoint)
  · intro h
    refine ⟨fun c hc => ?_, ?_, ?_⟩
    · by_contra hnone
      rw [not_or] at hnone
      obtain ⟨before, after, rfl⟩ := List.append_of_mem hc
      exact h _ _ (.character hnone.1 hnone.2)
    · rintro run ⟨before, after, rfl, hne, hrun, hbefore, hafter⟩
      by_contra hnone
      refine h _ _ (.run hne hrun hbefore hafter (.inl fun c hc => ?_))
      exact Bool.eq_false_iff.2 fun hdigit => hnone ⟨c, hc, hdigit⟩
    · rintro run ⟨before, after, rfl, hne, hrun, hbefore, hafter⟩
      by_contra hnone
      exact h _ _ (.run hne hrun hbefore hafter (.inr (Nat.not_le.1 hnone)))

theorem exists_leftmost (h : FlawAt cs place flaw) : ∃ place flaw, Leftmost cs place flaw := by
  classical
  have hexists : ∃ place flaw, FlawAt cs place flaw := ⟨place, flaw, h⟩
  obtain ⟨flaw, hflaw⟩ := Nat.find_spec hexists
  exact ⟨Nat.find hexists, flaw, hflaw, fun other flaw' h => Nat.find_min' hexists ⟨flaw', h⟩⟩

/-- What stands before the leftmost flaw has none. -/
theorem legible_of_leftmost {before rest : List Char} (hparted : Parted before rest)
    (h : Leftmost (before ++ rest) before.length flaw) : Legible before := by
  rw [legible_iff_forall_not_flawAt]
  intro place flaw' hflaw
  exact absurd (h.le _ _ (hflaw.append_left hparted)) (Nat.not_le.2 hflaw.lt_length)

/-- A character that has no part in an expression is reported where it is met. -/
theorem scanFrom_cons_of_not_mem {c : Char} (hspace : c ≠ ' ') (hc : c ∉ lexemeChars)
    (previous : Option TokenKind) (position : Nat) (rest : List Char) :
    scanFrom previous position (c :: rest) = .error (.invalidCharacter c position) := by
  rw [mem_lexemeChars_iff, not_or] at hc
  rw [scanFrom, if_neg hspace, if_neg hc.1, Option.not_isSome_iff_eq_none.1 hc.2]

/-- The text up to the leftmost flaw can be scanned, and the flaw is reported. -/
theorem scanFrom_of_leftmost (h : Leftmost cs place flaw) (previous : Option TokenKind)
    (position : Nat) :
    Legible (cs.take place) ∧
      scanFrom previous position cs = .error (flaw.failure (position + place)) := by
  cases h.flawAt with
  | @character before after c hspace hc =>
      have hhead : ∀ d ∈ (c :: after).head?, isNumeralChar d = false := by
        intro d hd
        obtain rfl : c = d := by simpa using hd
        exact Bool.eq_false_iff.2 fun hnumeral => hc (mem_lexemeChars_iff.2 (.inl hnumeral))
      have hlegible := legible_of_leftmost (.inr hhead) h
      obtain ⟨first, hfirst⟩ := (exists_scanFrom_eq_ok_iff previous position before).2 hlegible
      rw [List.take_left]
      refine ⟨hlegible, ?_⟩
      rw [scanFrom_append previous position hhead, hfirst, Except.ok_bind_eq,
        scanFrom_cons_of_not_mem hspace hc]
      rfl
  | @run before run after hne hrun hbefore hafter hflaw =>
      have hlegible := legible_of_leftmost (.inl hbefore) h
      obtain ⟨first, hfirst⟩ := (exists_scanFrom_eq_ok_iff previous position before).2 hlegible
      have hnumeral : ¬ isNumeral run = true := by
        rw [isNumeral_iff, not_and_or, not_exists, Nat.not_le]
        simpa using hflaw
      rw [List.take_left]
      refine ⟨hlegible, ?_⟩
      rw [scanFrom_append_of_getLast previous position hbefore, hfirst, Except.ok_bind_eq,
        scanFrom_maximal_run _ _ hne hrun hafter, if_neg hnumeral]
      rfl

/-- A text is refused exactly if it has a flaw, with the failure of the leftmost one and its
place; the text before that place can be scanned. -/
theorem scan_refuses_leftmost (text : String) :
    ((∃ cause, scan text = .error cause) ↔ ∃ place flaw, FlawAt text.toList place flaw) ∧
      (∀ cause, scan text = .error cause ↔
        ∃ place flaw, Leftmost text.toList place flaw ∧ cause = flaw.failure place) ∧
      ∀ place flaw, Leftmost text.toList place flaw →
        ∃ tokens, scan (String.ofList (text.toList.take place)) = .ok tokens := by
  have hreport {place : Nat} {flaw : Flaw} (h : Leftmost text.toList place flaw) :
      scan text = .error (flaw.failure place) := by
    rw [scan, (scanFrom_of_leftmost h none 0).2, Nat.zero_add]
  have hleftmost {cause : Failure} (h : scan text = .error cause) :
      ∃ place flaw, Leftmost text.toList place flaw := by
    by_contra hnone
    have hlegible : Legible text.toList := by
      rw [legible_iff_forall_not_flawAt]
      exact fun place flaw hflaw => hnone (exists_leftmost hflaw)
    obtain ⟨tokens, htokens⟩ := (exists_scanFrom_eq_ok_iff none 0 text.toList).2 hlegible
    rw [scan, htokens] at h
    cases h
  refine ⟨⟨?_, ?_⟩, fun cause => ⟨fun h => ?_, ?_⟩, fun place flaw h => ?_⟩
  · rintro ⟨cause, h⟩
    obtain ⟨place, flaw, h⟩ := hleftmost h
    exact ⟨place, flaw, h.flawAt⟩
  · rintro ⟨place, flaw, h⟩
    obtain ⟨place, flaw, h⟩ := exists_leftmost h
    exact ⟨_, hreport h⟩
  · obtain ⟨place, flaw, hflaw⟩ := hleftmost h
    rw [hreport hflaw] at h
    exact ⟨place, flaw, hflaw, (Except.error.inj h).symm⟩
  · rintro ⟨place, flaw, h, rfl⟩
    exact hreport h
  · obtain ⟨tokens, htokens⟩ :=
      (exists_scanFrom_eq_ok_iff none 0 _).2 (scanFrom_of_leftmost h none 0).1
    exact ⟨tokens, by rw [scan, String.toList_ofList, htokens]⟩

end Reckoner
