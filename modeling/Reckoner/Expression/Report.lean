import Reckoner.Log

/-!
# Reports

A stage of an evaluation has an outcome and reports events meanwhile. A `Report` keeps the
two side by side: what follows a stage reports behind it, and nothing follows a stage that
fails. So each event stands with the step that reports it, and the outcome of stages in a row
is the one that they have without their events (`Report.outcome_bind`).
-/

namespace Reckoner

/-- An outcome, and the events that were reported on the way to it. -/
structure Report (α : Type) where
  outcome : Except Fault α
  events : List Log.Event

namespace Report

variable {α β : Type}

/-- A stage that reports its result once it is completed. -/
def stage (outcome : Except Fault α) (event : α → Log.Event) : Report α :=
  match outcome with
  | .ok result => ⟨.ok result, [event result]⟩
  | .error fault => ⟨.error fault, []⟩

/-- A report and, if there is a result, the report of what is done with it. -/
def bind (x : Report α) (f : α → Report β) : Report β :=
  match x.outcome with
  | .ok result => ⟨(f result).outcome, x.events ++ (f result).events⟩
  | .error fault => ⟨.error fault, x.events⟩

/-- A report in which a failure is told at the end. -/
def tellFailure (event : Failure → Log.Event) (x : Report α) : Report α :=
  match x.outcome with
  | .error (.failure cause) => { x with events := x.events ++ [event cause] }
  | _ => x

instance : Monad Report where
  pure result := ⟨.ok result, []⟩
  bind := bind

@[simp] theorem outcome_pure (result : α) : (pure result : Report α).outcome = .ok result := rfl

@[simp] theorem outcome_stage (outcome : Except Fault α) (event : α → Log.Event) :
    (stage outcome event).outcome = outcome := by
  cases outcome <;> rfl

@[simp] theorem outcome_bind (x : Report α) (f : α → Report β) :
    (x >>= f).outcome = x.outcome >>= fun result => (f result).outcome := by
  obtain ⟨outcome, events⟩ := x
  cases outcome <;> rfl

@[simp] theorem outcome_tellFailure (event : Failure → Log.Event) (x : Report α) :
    (tellFailure event x).outcome = x.outcome := by
  rw [tellFailure]
  split <;> rfl

/-- What follows a stage that is completed reports behind it. -/
theorem stage_ok_bind (result : α) (event : α → Log.Event) (f : α → Report β) :
    (stage (.ok result) event >>= f) =
      ⟨(f result).outcome, event result :: (f result).events⟩ := rfl

theorem events_bind_of_ok {x : Report α} {result : α} (h : x.outcome = .ok result)
    (f : α → Report β) : (x >>= f).events = x.events ++ (f result).events := by
  obtain ⟨outcome, events⟩ := x
  subst h
  rfl

theorem events_bind_of_error {x : Report α} {fault : Fault} (h : x.outcome = .error fault)
    (f : α → Report β) : (x >>= f).events = x.events := by
  obtain ⟨outcome, events⟩ := x
  subst h
  rfl

end Report

end Reckoner
