import Mathlib.Data.List.Basic
import Reckoner.Proofs.Outcome
import Reckoner.Settings.Override

/-!
# Overriding settings

What was read of a value is read again as it is (`Field.read_write`). So overriding some
settings changes the named fields only, although all of them are written and read again
(`apply_eq_ok_iff`), and what two overrides in a row lead to is what both at once do
(`Overridden.trans`).

No field is assigned before all of them have been read: overrides that are refused for one
field change none (`run_override_of_error`). Along every run of overrides the settings stay
valid, and each of the overrides has its whole effect or none (`overrides_run`).
-/

namespace Reckoner

namespace Checked

variable {α β : Type}

/-- The issues of a reading; there are none if it has a value. -/
def issues : Checked α → List Issue
  | .ok _ => []
  | .error is => is

theorem issues_ap (f : Checked (α → β)) (x : Checked α) :
    (ap f x).issues = f.issues ++ x.issues := by
  cases f <;> cases x <;> simp [ap, issues]

@[simp] theorem within_eq_ok_iff {name : String} {x : Checked α} {a : α} :
    x.within name = .ok a ↔ x = .ok a :=
  Except.mapError_eq_ok_iff

theorem exists_eq_error_of_within {name : String} {x : Checked α} {is : List Issue}
    (h : x.within name = .error is) : ∃ is', x = .error is' := by
  cases x with
  | ok a => cases h
  | error is' => exact ⟨is', rfl⟩

theorem issues_within (name : String) (x : Checked α) :
    (x.within name).issues = x.issues.map (Issue.within name) := by
  cases x <;> rfl

end Checked

theorem Reading.integerBetween_eq_ok_iff {least most n : Int} {d : Datum} :
    Reading.integerBetween least most d = .ok n ↔
      Reading.integer d = .ok n ∧ least ≤ n ∧ n ≤ most := by
  rw [Reading.integerBetween, Except.bind_eq_ok_iff]
  constructor
  · intro ⟨m, hm, hbounds⟩
    split_ifs at hbounds with hleast hmost
    obtain rfl := Except.ok.inj hbounds
    exact ⟨hm, Int.not_lt.1 hleast, Int.not_lt.1 hmost⟩
  · intro ⟨hn, hleast, hmost⟩
    refine ⟨n, hn, ?_⟩
    rw [if_neg (Int.not_lt.2 hleast), if_neg (Int.not_lt.2 hmost)]

namespace Settings

/-! ### Named values -/

theorem readLevel_name (l : Log.Level) : readLevel (.text l.name) = .ok l := by
  cases l <;> rfl

/-- What was read is written so that it is read as the same value. -/
theorem Field.read_write {s : Settings} (h : s.Valid) (f : Field) :
    f.read (f.write (f.value s)) = .ok (f.value s) := by
  cases f with
  | logLevel => exact congrArg Checked.ofComplaint (readLevel_name s.logLevel)
  | resultPrecision =>
      have hbetween : Reading.integerBetween 0 mostPrecision (.int s.resultPrecision) =
          .ok s.resultPrecision := Reading.integerBetween_eq_ok_iff.2 ⟨rfl, h⟩
      exact congrArg Checked.ofComplaint hbetween
  | corsOrigins => exact Reading.texts_texts s.corsOrigins
  | _ => rfl

theorem find?_toFields (s : Settings) (f : Field) :
    s.toFields.find? f.name = some (f.write (f.value s)) := by
  cases f <;> simp [toFields, Field.all, Field.name, Fields.find?]

/-- Named values give settings if every field can be read. -/
theorem ofFields_eq_ok_iff {fields : Fields} {s : Settings} :
    ofFields fields = .ok s ↔ ∀ f, field fields f = .ok (f.value s) := by
  constructor
  · intro h
    simp only [ofFields, Checked.ap_eq_ok_iff, Except.ok.injEq] at h
    obtain ⟨_, _, ⟨_, _, ⟨_, _, ⟨_, _, ⟨_, _, ⟨_, _, ⟨_, _, ⟨_, _, ⟨_, _, ⟨_, _, rfl, h₁, rfl⟩,
      h₂, rfl⟩, h₃, rfl⟩, h₄, rfl⟩, h₅, rfl⟩, h₆, rfl⟩, h₇, rfl⟩, h₈, rfl⟩, h₉, rfl⟩, h₁₀, rfl⟩ := h
    intro f
    cases f <;> assumption
  · intro h
    simp only [ofFields, h, Checked.ap, Field.value]

theorem exists_field_eq_error {fields : Fields} {issues : List Issue}
    (h : ofFields fields = .error issues) : ∃ f is, field fields f = .error is := by
  by_contra hnone
  have hread : ∀ f, ∃ v, field fields f = .ok v := by
    intro f
    cases hfield : field fields f with
    | ok v => exact ⟨v, rfl⟩
    | error is => exact absurd ⟨f, is, hfield⟩ hnone
  choose v hv using hread
  simp only [ofFields, hv, Checked.ap] at h
  cases h

/-- The issues are those of all fields, in order. -/
theorem issues_ofFields (fields : Fields) :
    (ofFields fields).issues = Field.all.flatMap fun f => (field fields f).issues := by
  have hnone : Checked.issues (.ok Settings.mk) = [] := rfl
  simp only [ofFields, Checked.issues_ap, hnone, Field.all, List.flatMap_cons, List.flatMap_nil,
    List.nil_append, List.append_nil, List.append_assoc]

theorem valid_of_ofFields {fields : Fields} {s : Settings} (h : ofFields fields = .ok s) :
    s.Valid := by
  have hfield := ofFields_eq_ok_iff.1 h .resultPrecision
  cases hfind : fields.find? Field.resultPrecision.name with
  | none =>
      rw [field_of_find?_eq_none hfind] at hfield
      have hprecision : (12 : Int) = s.resultPrecision := Except.ok.inj hfield
      rw [Valid, ← hprecision]
      decide
  | some d =>
      rw [field_of_find?_eq_some hfind, Checked.within_eq_ok_iff] at hfield
      have hread : Reading.integerBetween 0 mostPrecision d = .ok s.resultPrecision :=
        Except.mapError_eq_ok_iff.1 hfield
      exact (Reading.integerBetween_eq_ok_iff.1 hread).2

/-! ### One override -/

section Run

variable {α β : Type} {s s' : Settings} {x : ExceptT (List Issue) (StateM Settings) α}

theorem run_bind_of_ok (f : α → ExceptT (List Issue) (StateM Settings) β) {a : α}
    (h : x.run.run s = (.ok a, s')) : (x >>= f).run.run s = (f a).run.run s' := by
  rw [ExceptT.run_bind, StateT.run_bind, h]
  rfl

theorem run_bind_of_error (f : α → ExceptT (List Issue) (StateM Settings) β) {issues : List Issue}
    (h : x.run.run s = (.error issues, s')) : (x >>= f).run.run s = (.error issues, s') := by
  rw [ExceptT.run_bind, StateT.run_bind, h]
  rfl

end Run

/-- The settings with the values that some fields have in others. -/
def assigned (merged : Settings) (fs : List Field) (s : Settings) : Settings :=
  fs.foldl (fun s f => f.assign s (f.value merged)) s

/-- Once all fields are assigned nothing is left of what was there. -/
theorem assigned_all (merged s : Settings) : assigned merged Field.all s = merged := by
  simp only [assigned, Field.all, List.foldl_cons, List.foldl_nil, Field.assign, Field.value]

theorem run_assign (merged : Settings) (fs : List Field) (s : Settings) :
    (fs.forM fun f => modify fun s => f.assign s (f.value merged) :
      ExceptT (List Issue) (StateM Settings) PUnit).run.run s = (.ok ⟨⟩, assigned merged fs s) := by
  induction fs generalizing s with
  | nil => rfl
  | cons f fs ih => exact ih (f.assign s (f.value merged))

theorem run_override_of_ok {s merged : Settings} {overrides : Fields}
    (h : ofFields (s.toFields ++ overrides) = .ok merged) :
    (override overrides).run.run s = (.ok merged, merged) := by
  have hread : (ExceptT.mk (pure (ofFields (s.toFields ++ overrides))) :
      ExceptT (List Issue) (StateM Settings) Settings).run.run s = (.ok merged, s) := by
    rw [h]
    rfl
  have hassign := run_assign merged Field.all s
  rw [assigned_all] at hassign
  calc
    _ = _ := run_bind_of_ok _ rfl
    _ = _ := run_bind_of_ok _ hread
    _ = _ := run_bind_of_ok _ hassign
    _ = _ := rfl

/-- No field is assigned if any could not be read. -/
theorem run_override_of_error {s : Settings} {overrides : Fields} {issues : List Issue}
    (h : ofFields (s.toFields ++ overrides) = .error issues) :
    (override overrides).run.run s = (.error issues, s) := by
  have hread : (ExceptT.mk (pure (ofFields (s.toFields ++ overrides))) :
      ExceptT (List Issue) (StateM Settings) Settings).run.run s = (.error issues, s) := by
    rw [h]
    rfl
  calc
    _ = _ := run_bind_of_ok _ rfl
    _ = _ := run_bind_of_error _ hread

variable {s changed : Settings} {overrides : Fields}

/-- The answer is what the settings and the overrides are read as together. -/
theorem apply_eq (s : Settings) (overrides : Fields) :
    s.apply overrides = ofFields (s.toFields ++ overrides) := by
  cases h : ofFields (s.toFields ++ overrides) with
  | ok merged => rw [apply, run_override_of_ok h]
  | error issues => rw [apply, run_override_of_error h]

theorem applyOrKeep_of_ok (h : s.apply overrides = .ok changed) :
    s.applyOrKeep overrides = changed := by
  rw [apply_eq] at h
  rw [applyOrKeep, run_override_of_ok h]

theorem applyOrKeep_of_error {issues : List Issue} (h : s.apply overrides = .error issues) :
    s.applyOrKeep overrides = s := by
  rw [apply_eq] at h
  rw [applyOrKeep, run_override_of_error h]

/-! ### What an override changes -/

/-- The settings `changed` have what is read of the values that are given for fields, and
what the settings `s` have for the others. -/
structure Overridden (s : Settings) (overrides : Fields) (changed : Settings) : Prop where
  named : ∀ (f : Field) (d : Datum),
    overrides.find? f.name = some d → f.read d = .ok (f.value changed)
  unnamed : ∀ f : Field, overrides.find? f.name = none → f.value changed = f.value s

/-- A value that is given for some field cannot be read. The issues are those of all values
that cannot, and each of them names its field. -/
structure Refused (overrides : Fields) (issues : List Issue) : Prop where
  unread : ∃ (f : Field) (d : Datum) (is : List Issue),
    overrides.find? f.name = some d ∧ f.read d = .error is
  collected : issues = Field.all.flatMap fun f => (field overrides f).issues
  located : ∀ i ∈ issues, ∃ (f : Field) (d : Datum),
    overrides.find? f.name = some d ∧ i.path.head? = some f.name

theorem find?_override_of_some {f : Field} {d : Datum} (h : overrides.find? f.name = some d) :
    (s.toFields ++ overrides).find? f.name = some d := by
  rw [Fields.find?_append, h, Option.some_or]

theorem find?_override_of_none {f : Field} (h : overrides.find? f.name = none) :
    (s.toFields ++ overrides).find? f.name = some (f.write (f.value s)) := by
  rw [Fields.find?_append, h, Option.none_or, find?_toFields]

theorem field_override_of_some {f : Field} {d : Datum} (h : overrides.find? f.name = some d) :
    field (s.toFields ++ overrides) f = (f.read d).within f.name :=
  field_of_find?_eq_some (find?_override_of_some h)

/-- A field that is not named is written and read again. -/
theorem field_override_of_none (hs : s.Valid) {f : Field} (h : overrides.find? f.name = none) :
    field (s.toFields ++ overrides) f = .ok (f.value s) := by
  rw [field_of_find?_eq_some (find?_override_of_none h), Checked.within_eq_ok_iff]
  exact f.read_write hs

theorem apply_eq_ok_iff (hs : s.Valid) :
    s.apply overrides = .ok changed ↔ Overridden s overrides changed := by
  rw [apply_eq, ofFields_eq_ok_iff]
  constructor
  · intro h
    refine ⟨?_, ?_⟩
    · intro f d hfind
      have hfield := h f
      rwa [field_override_of_some hfind, Checked.within_eq_ok_iff] at hfield
    · intro f hfind
      have hfield := h f
      rw [field_override_of_none hs hfind] at hfield
      exact (Except.ok.inj hfield).symm
  · intro h f
    cases hfind : overrides.find? f.name with
    | some d =>
        rw [field_override_of_some hfind, Checked.within_eq_ok_iff]
        exact h.named f d hfind
    | none => rw [field_override_of_none hs hfind, h.unnamed f hfind]

theorem exists_find?_of_mem_issues {f : Field} {i : Issue} (h : i ∈ (field overrides f).issues) :
    ∃ d, overrides.find? f.name = some d ∧ i.path.head? = some f.name := by
  cases hfind : overrides.find? f.name with
  | none =>
      rw [field_of_find?_eq_none hfind] at h
      cases h
  | some d =>
      rw [field_of_find?_eq_some hfind, Checked.issues_within] at h
      obtain ⟨i', -, rfl⟩ := List.mem_map.1 h
      exact ⟨d, rfl, rfl⟩

/-- The fields that are not named have no issues. -/
theorem issues_override (hs : s.Valid) (overrides : Fields) (f : Field) :
    (field (s.toFields ++ overrides) f).issues = (field overrides f).issues := by
  cases hfind : overrides.find? f.name with
  | some d => rw [field_override_of_some hfind, field_of_find?_eq_some hfind]
  | none =>
      rw [field_override_of_none hs hfind, field_of_find?_eq_none hfind]
      rfl

theorem refused_of_apply_eq_error (hs : s.Valid) {issues : List Issue}
    (h : s.apply overrides = .error issues) : Refused overrides issues := by
  rw [apply_eq] at h
  have hcollected : issues = Field.all.flatMap fun f => (field overrides f).issues := by
    have hall := issues_ofFields (s.toFields ++ overrides)
    rw [h] at hall
    simp only [issues_override hs] at hall
    exact hall
  refine ⟨?_, hcollected, ?_⟩
  · obtain ⟨f, is, hf⟩ := exists_field_eq_error h
    cases hfind : overrides.find? f.name with
    | some d =>
        rw [field_override_of_some hfind] at hf
        obtain ⟨is', hread⟩ := Checked.exists_eq_error_of_within hf
        exact ⟨f, d, is', hfind, hread⟩
    | none =>
        rw [field_override_of_none hs hfind] at hf
        cases hf
  · intro i hi
    rw [hcollected] at hi
    obtain ⟨f, -, hf⟩ := List.mem_flatMap.1 hi
    obtain ⟨d, hfind, hhead⟩ := exists_find?_of_mem_issues hf
    exact ⟨f, d, hfind, hhead⟩

theorem Overridden.trans {middle : Settings} {first second : Fields}
    (h₁ : Overridden s first middle) (h₂ : Overridden middle second changed) :
    Overridden s (first ++ second) changed := by
  refine ⟨?_, ?_⟩
  · intro f d hfind
    rw [Fields.find?_append] at hfind
    cases hsecond : second.find? f.name with
    | some d' =>
        rw [hsecond, Option.some_or] at hfind
        obtain rfl := Option.some.inj hfind
        exact h₂.named f d' hsecond
    | none =>
        rw [hsecond, Option.none_or] at hfind
        rw [h₂.unnamed f hsecond]
        exact h₁.named f d hfind
  · intro f hfind
    rw [Fields.find?_append, Option.or_eq_none_iff] at hfind
    rw [h₂.unnamed f hfind.1, h₁.unnamed f hfind.2]

/-- Overridden once more in the same way the settings are the same. -/
theorem Overridden.self (h : Overridden s overrides changed) :
    Overridden changed overrides changed :=
  ⟨h.named, fun _ _ => rfl⟩

/-- Names of no field have no effect. They are names that nothing reads: the options of the
reading, which have names with an underscore in front, are not meant. -/
theorem run_filter (s : Settings) (overrides : Fields) :
    (override (overrides.filter fun entry => entry.1 ∈ fieldNames)).run.run s =
      (override overrides).run.run s := by
  have hread : ofFields (s.toFields ++ overrides.filter fun entry => entry.1 ∈ fieldNames) =
      ofFields (s.toFields ++ overrides) := by
    apply ofFields_congr
    intro f
    have hname : decide (f.name ∈ fieldNames) = true :=
      decide_eq_true (List.mem_map_of_mem f.mem_all)
    rw [Fields.find?_append, Fields.find?_append,
      Fields.find?_filter _ (p := fun name => decide (name ∈ fieldNames)) hname]
  cases h : ofFields (s.toFields ++ overrides) with
  | ok merged => rw [run_override_of_ok h, run_override_of_ok (hread.trans h)]
  | error issues => rw [run_override_of_error h, run_override_of_error (hread.trans h)]

/-! ### Runs of overrides -/

/-- The settings in use after overriding them again and again. -/
def after (s : Settings) (history : List Fields) : Settings := history.foldl applyOrKeep s

theorem valid_of_apply (h : s.apply overrides = .ok changed) : changed.Valid := by
  rw [apply_eq] at h
  exact valid_of_ofFields h

theorem valid_applyOrKeep (hs : s.Valid) (overrides : Fields) :
    (s.applyOrKeep overrides).Valid := by
  cases h : s.apply overrides with
  | ok changed =>
      rw [applyOrKeep_of_ok h]
      exact valid_of_apply h
  | error issues => rwa [applyOrKeep_of_error h]

theorem valid_after (hs : s.Valid) (history : List Fields) : (s.after history).Valid := by
  induction history generalizing s with
  | nil => exact hs
  | cons overrides history ih => exact ih (valid_applyOrKeep hs overrides)

/-- Along every run of overrides the settings stay valid, and the next one is either refused,
and leaves them as they are, or it changes the named fields and nothing else. Names of no
field, which are no options of the reading either, have no effect. Two overrides in a row that are not refused lead to what both lead to
at once; one that is not refused leads to the same settings again. -/
theorem overrides_run (hs : s.Valid) (history : List Fields) :
    let present := s.after history
    present.Valid ∧
      present.logLevel.name ∈ ["DEBUG", "INFO", "WARNING", "ERROR", "CRITICAL"] ∧
      (∀ overrides : Fields,
        (∃ changed, present.apply overrides = .ok changed ∧
          present.applyOrKeep overrides = changed ∧ Overridden present overrides changed) ∨
        (∃ issues, present.apply overrides = .error issues ∧
          present.applyOrKeep overrides = present ∧ Refused overrides issues)) ∧
      (∀ overrides : Fields,
        let known := overrides.filter fun entry => entry.1 ∈ fieldNames
        present.apply known = present.apply overrides ∧
          present.applyOrKeep known = present.applyOrKeep overrides) ∧
      (∀ (first second : Fields) (once twice : Settings),
        present.apply first = .ok once → once.apply second = .ok twice →
          present.apply (first ++ second) = .ok twice) ∧
      (∀ (overrides : Fields) (once : Settings),
        present.apply overrides = .ok once → once.apply overrides = .ok once) := by
  intro present
  have hvalid : present.Valid := valid_after hs history
  refine ⟨hvalid, ?_, ?_, ?_, ?_, ?_⟩
  · cases present.logLevel <;> decide
  · intro overrides
    cases h : present.apply overrides with
    | ok changed =>
        exact .inl ⟨changed, rfl, applyOrKeep_of_ok h, (apply_eq_ok_iff hvalid).1 h⟩
    | error issues =>
        exact .inr ⟨issues, rfl, applyOrKeep_of_error h, refused_of_apply_eq_error hvalid h⟩
  · intro overrides known
    have hrun := run_filter present overrides
    exact ⟨congrArg Prod.fst hrun, congrArg Prod.snd hrun⟩
  · intro first second once twice hfirst hsecond
    have honce : once.Valid := valid_of_apply hfirst
    have hchanged : Overridden present (first ++ second) twice :=
      ((apply_eq_ok_iff hvalid).1 hfirst).trans ((apply_eq_ok_iff honce).1 hsecond)
    exact (apply_eq_ok_iff hvalid).2 hchanged
  · intro overrides once honce
    have hagain : Overridden once overrides once := ((apply_eq_ok_iff hvalid).1 honce).self
    exact (apply_eq_ok_iff (valid_of_apply honce)).2 hagain

theorem overrides_run_precision :
    default.Valid ∧ default.after [[("debug", .bool true), ("port", .text "x")]] = default ∧
      default.apply ([("result_precision", .text " 3 "), ("unknown", .null)] ++
          [("log_level", .text "debug")]) =
        .ok { default with resultPrecision := 3, logLevel := .debug } := by
  have hvalid : default.Valid := by decide
  have hpresent : default.after [[("debug", .bool true), ("port", .text "x")]] = default := by
    decide
  have hrun := overrides_run hvalid [[("debug", .bool true), ("port", .text "x")]]
  refine ⟨hvalid, hpresent, ?_⟩
  rw [hpresent] at hrun
  obtain ⟨-, -, -, -, hrow, -⟩ := hrun
  apply hrow _ _ { default with resultPrecision := 3 }
  · rfl
  · rfl

end Settings

end Reckoner
