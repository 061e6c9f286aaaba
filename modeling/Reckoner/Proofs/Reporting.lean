import Reckoner.Proofs.Editor.Calculation

/-!
# What is logged

An evaluation logs one line for each stage that it completes, and if it fails, one more
with the cause (`reported`). What an editor logs is made of such evaluations: none for an
action without an effect, at most one for a preview, two for a calculation with a value.
Only a key that asks for a calculation without a value adds a line of its own, the one line
that is more urgent than the lowest level (`logs_perform`).

This is carried along every row of activities, and a log with another threshold is that of
the lowest one without the lines below the threshold (`log_disciplined`).
-/

namespace Reckoner

open Token

namespace Log

/-- An event as it is logged. -/
structure Line where
  level : Level
  name : String
  fields : List (String × Field)
deriving DecidableEq

/-- The line of an event. -/
def Event.line (e : Event) : Line := ⟨e.level, e.name, e.fields⟩

/-- The lines that a log with a threshold has for some events. -/
def lines (threshold : Level) (events : List Event) : List Line :=
  (kept threshold events).map Event.line

@[simp] theorem lines_nil (threshold : Level) : lines threshold [] = [] := rfl

@[simp] theorem lines_append (threshold : Level) (first second : List Event) :
    lines threshold (first ++ second) = lines threshold first ++ lines threshold second := by
  rw [lines, kept_append, List.map_append, lines, lines]

theorem lines_debug (events : List Event) : lines .debug events = events.map Event.line := by
  rw [lines, kept_debug]

/-- A threshold removes the lines below it and changes nothing else. -/
theorem lines_eq_filter (threshold : Level) (events : List Event) :
    lines threshold events =
      (lines .debug events).filter fun line => threshold.urgency ≤ line.level.urgency := by
  rw [lines_debug, List.filter_map]
  rfl

end Log

/-! ### Evaluations -/

/-- The line of the first stage, with the number of tokens. -/
def scannedLine (count : Nat) : Log.Line :=
  ⟨.debug, "Tokenized expression", [("count", .count count)]⟩

/-- The line of the second stage, with the number of tokens in postfix order. -/
def orderedLine (count : Nat) : Log.Line :=
  ⟨.debug, "Converted to postfix", [("count", .count count)]⟩

/-- The line of the last stage, with the value. -/
def reducedLine (value : Binary64) : Log.Line :=
  ⟨.debug, "Evaluated postfix", [("result", .number value)]⟩

/-- The line of a stage that fails. -/
def failedLine (text : String) (cause : Failure) : Log.Line :=
  ⟨.debug, "Evaluation failed",
    [("expression", .text text), ("kind", .text cause.kind.code), ("error", .text cause.message)]⟩

/-- The line of a calculation that is asked for by a key and fails. -/
def rejectedLine (text : String) (cause : Failure) : Log.Line :=
  ⟨.info, "Calculation rejected",
    [("expression", .text text), ("kind", .text cause.kind.code)]⟩

/-- The outcome of an evaluation and the lines of the stages that it completes. -/
inductive Completed (text : String) (precision : Int) :
    Except Fault Binary64 → List Log.Line → Prop where
  | scanning {cause : Failure} (h : scan text = .error cause) :
    Completed text precision (.error (.failure cause)) []
  | ordering {tokens : List Token} {cause : Failure} (hscan : scan text = .ok tokens)
    (h : toPostfix tokens = .error cause) :
    Completed text precision (.error (.failure cause)) [scannedLine tokens.length]
  | reduction {tokens ordered : List Token} {cause : Failure} (hscan : scan text = .ok tokens)
    (hordered : toPostfix tokens = .ok ordered)
    (h : reduce ordered precision = .error (.failure cause)) :
    Completed text precision (.error (.failure cause))
      [scannedLine tokens.length, orderedLine ordered.length]
  | value {tokens ordered : List Token} {v : Binary64} (hscan : scan text = .ok tokens)
    (hordered : toPostfix tokens = .ok ordered) (h : reduce ordered precision = .ok v) :
    Completed text precision (.ok v)
      [scannedLine tokens.length, orderedLine ordered.length, reducedLine v]

/-- The outcome of an evaluation and the lines that it logs: those of the stages that it
completes, and one more if it fails. -/
inductive Reported (text : String) (precision : Int) :
    Except Fault Binary64 → List Log.Line → Prop where
  | value {v : Binary64} {lines : List Log.Line} (h : Completed text precision (.ok v) lines) :
    Reported text precision (.ok v) lines
  | failure {cause : Failure} {lines : List Log.Line}
    (h : Completed text precision (.error (.failure cause)) lines) :
    Reported text precision (.error (.failure cause)) (lines ++ [failedLine text cause])

/-- Every evaluation logs the stages that it completes, and its failure if it fails. -/
theorem reported (text : String) (precision : Int) :
    Reported text precision (evaluate text precision)
      (Log.lines .debug (evaluationEvents text precision)) := by
  rw [Log.lines_debug, evaluationEvents, Report.ofText, Report.scan]
  cases hscan : scan text with
  | error cause =>
      rw [evaluate_of_scan_eq_error hscan]
      exact .failure (.scanning hscan)
  | ok tokens =>
      rw [Except.mapError_ok_eq, Report.stage_ok_bind, Report.toPostfix]
      cases hordered : toPostfix tokens with
      | error cause =>
          rw [evaluate_of_toPostfix_eq_error hscan hordered]
          exact .failure (.ordering hscan hordered)
      | ok ordered =>
          rw [Except.mapError_ok_eq, Report.stage_ok_bind, Report.reduce,
            evaluate_of_toPostfix hscan hordered]
          cases hreduce : reduce ordered precision with
          | ok v => exact .value (.value hscan hordered hreduce)
          | error fault =>
              have hevaluate := evaluate_of_toPostfix hscan hordered precision
              obtain ⟨cause, rfl⟩ := exists_failure_of_error (hevaluate.trans hreduce)
              exact .failure (.reduction hscan hordered hreduce)

theorem reported_of_evaluate {text : String} {precision : Int} {outcome : Except Fault Binary64}
    (h : evaluate text precision = outcome) :
    Reported text precision outcome (Log.lines .debug (evaluationEvents text precision)) := by
  rw [← h]
  exact reported text precision

/-- A failed evaluation logs the stages that it completes, and then its failure. -/
theorem exists_completed {text : String} {precision : Int} {cause : Failure}
    (h : evaluate text precision = .error (.failure cause)) :
    ∃ stages, Completed text precision (.error (.failure cause)) stages ∧
      Log.lines .debug (evaluationEvents text precision) = stages ++ [failedLine text cause] := by
  have hreported := reported_of_evaluate h
  generalize Log.lines .debug (evaluationEvents text precision) = lines at hreported
  cases hreported with
  | failure hcompleted => exact ⟨_, hcompleted, rfl⟩

namespace Report

variable {α β : Type}

/-- Nothing is reported that is more urgent than the lowest level. -/
def Quiet (x : Report α) : Prop := ∀ event ∈ x.events, event.level = .debug

theorem quiet_pure (result : α) : (pure result : Report α).Quiet := List.forall_mem_nil _

theorem quiet_stage {outcome : Except Fault α} {event : α → Log.Event}
    (h : ∀ result, (event result).level = .debug) : (stage outcome event).Quiet := by
  cases outcome with
  | ok result => exact List.forall_mem_singleton.2 (h result)
  | error fault => exact List.forall_mem_nil _

theorem Quiet.bind {x : Report α} {f : α → Report β} (hx : x.Quiet) (hf : ∀ a, (f a).Quiet) :
    (x >>= f).Quiet := by
  rw [Quiet]
  cases h : x.outcome with
  | ok result =>
      rw [events_bind_of_ok h]
      exact List.forall_mem_append.2 ⟨hx, hf result⟩
  | error fault =>
      rw [events_bind_of_error h]
      exact hx

theorem Quiet.tellFailure {x : Report α} {event : Failure → Log.Event} (hx : x.Quiet)
    (h : ∀ cause, (event cause).level = .debug) : (x.tellFailure event).Quiet := by
  rw [Report.tellFailure]
  split
  · exact List.forall_mem_append.2 ⟨hx, List.forall_mem_singleton.2 (h _)⟩
  · exact hx

end Report

/-- An evaluation reports nothing that is more urgent than the lowest level. -/
theorem level_of_mem_evaluationEvents (text : String) (precision : Int) :
    ∀ event ∈ evaluationEvents text precision, event.level = .debug := by
  have hscan : (Report.scan text).Quiet := Report.quiet_stage fun _ => rfl
  have hordered (tokens : List Token) : (Report.toPostfix tokens).Quiet :=
    Report.quiet_stage fun _ => rfl
  have hreduce (ordered : List Token) : (Report.reduce ordered precision).Quiet :=
    Report.quiet_stage fun _ => rfl
  have hstages := hscan.bind fun tokens => (hordered tokens).bind fun ordered =>
    (hreduce ordered).bind fun value => Report.quiet_pure (Trace.mk text tokens ordered value)
  exact hstages.tellFailure fun _ => rfl

theorem kept_evaluationEvents {threshold : Log.Level}
    (h : Log.Level.info.urgency ≤ threshold.urgency) (text : String) (precision : Int) :
    Log.kept threshold (evaluationEvents text precision) = [] := by
  refine List.filter_eq_nil_iff.2 fun event hevent => ?_
  rw [level_of_mem_evaluationEvents text precision event hevent, decide_eq_true_eq]
  exact Nat.not_le.2 (Nat.lt_of_lt_of_le (by decide) h)

/-! ### Actions of an editor -/

namespace Editor

variable {precision : Int} {e : Editor}

/-- What an editor reports while it follows a command. -/
def commandEvents (precision : Int) (e : Editor) : Command → List Log.Event
  | .push value => (e.push precision value).events
  | .backspace => (e.backspace precision).events
  | .clear => (e.clear precision).events
  | .percent => (e.percent precision).events
  | .preview => (e.preview precision).events
  | .calculate => (e.calculate precision).events

/-- What an editor reports during an action. -/
def actionEvents (precision : Int) (e : Editor) : Action → List Log.Event
  | .command c => e.commandEvents precision c
  | .key name => (e.handleKey precision name).events

/-- A preview evaluates the expression, unless there is none yet. -/
theorem events_preview (precision : Int) (e : Editor) :
    (e.preview precision).events =
      if e.isPending then [] else evaluationEvents e.expression precision := by
  unfold preview
  split
  · rfl
  · cases hevaluate : evaluate e.expression precision with
    | ok value => rfl
    | error fault =>
        obtain ⟨cause, rfl⟩ := exists_failure_of_error hevaluate
        rfl

/-- What a preview of an expression logs: an evaluation of it, or nothing while there is no
preview. -/
inductive Previewing (precision : Int) (expression : String) : List Log.Line → Prop where
  | pending (h : expression = "" ∨ endsWithOperator expression.toList = true) :
    Previewing precision expression []
  | evaluated {lines : List Log.Line}
    (h : ¬ (expression = "" ∨ endsWithOperator expression.toList = true))
    (hreported : Reported expression precision (evaluate expression precision) lines) :
    Previewing precision expression lines

theorem previewing (precision : Int) (e : Editor) :
    Previewing precision e.expression (Log.lines .debug (e.preview precision).events) := by
  rw [events_preview]
  split
  · next h => exact .pending (isPending_iff.1 h)
  · next h => exact .evaluated (mt isPending_iff.2 h) (reported e.expression precision)

/-- A command that changes the expression in another way than by a calculation reports
what the preview reports. -/
theorem commandEvents_of_edits {c : Command} {cs : List Char}
    (h : Edits precision e.expression.toList c cs) (hc : c ≠ .calculate) :
    e.commandEvents precision c = ((e.withExpression cs).preview precision).events := by
  cases h with
  | push h =>
      rw [commandEvents, push_eq, h]
      rfl
  | backspace => rfl
  | clear => rfl
  | percent hoperand hread =>
      rw [commandEvents, percent_of_operand hoperand hread]
      rfl
  | preview => rw [commandEvents, withExpression, String.ofList_toList]
  | calculate => exact absurd rfl hc

theorem commandEvents_of_idle {c : Command} (h : Idle e.expression.toList c) :
    e.commandEvents precision c = [] := by
  cases h with
  | push h => rw [commandEvents, push_eq, h]
  | percent h =>
      rw [commandEvents, percent, h]
      rfl
  | calculate h =>
      rw [commandEvents, calculate, if_pos (String.toList_eq_nil_iff.1 h)]
      rfl

theorem events_calculate_of_ok {v : Binary64} (hne : e.expression ≠ "")
    (h : evaluate e.expression precision = .ok v) :
    (e.calculate precision).events = evaluationEvents e.expression precision ++
      evaluationEvents v.text precision := by
  obtain ⟨htext, hends⟩ := text_not_pending (isFinite_of_evaluate h)
  have hexpression : (e.withExpression v.chars).expression = v.text := rfl
  have hpending : ¬ (e.withExpression v.chars).isPending = true := by
    rw [isPending_iff, hexpression, hends]
    simpa using htext
  have hpreview := events_preview precision (e.withExpression v.chars)
  rw [if_neg hpending] at hpreview
  simp only [calculate, if_neg hne, h, hpreview]
  rfl

theorem events_calculate_of_error {cause : Failure} (hne : e.expression ≠ "")
    (h : evaluate e.expression precision = .error (.failure cause)) :
    (e.calculate precision).events = evaluationEvents e.expression precision := by
  simp only [calculate, if_neg hne, h]

theorem events_enter_of_answer {answer : Option Binary64}
    (h : (e.calculate precision).answer = .ok answer) :
    (e.enter precision).events = (e.calculate precision).events := by
  simp only [enter, h]
  rfl

/-- A key that asks for a calculation reports that it failed, with the expression as it was. -/
theorem events_enter_of_error {cause : Failure} (hne : e.expression ≠ "")
    (h : evaluate e.expression precision = .error (.failure cause)) :
    (e.enter precision).events = evaluationEvents e.expression precision ++
      [.calculationRejected e.expression cause] := by
  obtain ⟨heditor, hanswer⟩ := calculate_of_error hne h
  simp only [enter, hanswer, heditor, events_calculate_of_error hne h]

theorem ofName?_eq_enter_iff {name : String} :
    Key.ofName? name = some .enter ↔ name = "Enter" ∨ name = "=" := by
  constructor
  · intro h
    simp only [Key.ofName?] at h
    -- No other name gives this key.
    repeat' split at h
    all_goals first | assumption | cases h
  · rintro (rfl | rfl) <;> rfl

theorem command_eq_calculate_iff {key : Key} : key.command = .calculate ↔ key = .enter := by
  cases key <;> simp [Key.command]

/-- A key reports what its command reports, if it does not ask for a calculation. -/
theorem actionEvents_of_command? {a : Action} {c : Command} (h : a.command? = some c)
    (hc : c ≠ .calculate) : e.actionEvents precision a = e.commandEvents precision c := by
  cases a with
  | command c' => rw [actionEvents, Option.some.inj h]
  | key name =>
      obtain ⟨key, hkey, rfl⟩ := Option.map_eq_some_iff.1 h
      rw [actionEvents, handleKey, hkey]
      cases key with
      | enter => exact absurd rfl hc
      | backspace => rfl
      | escape => rfl
      | percent => rfl
      | char c => rfl

theorem actionEvents_of_ignored {a : Action} (h : a.command? = none) :
    e.actionEvents precision a = [] := by
  cases a with
  | command c => cases h
  | key name =>
      rw [Action.command?, Option.map_eq_none_iff] at h
      rw [actionEvents, handleKey, h]
      rfl

/-- A calculation is asked for by a command, or by one of two keys. -/
theorem actionEvents_of_calculate {a : Action} (h : a.command? = some .calculate) :
    (a = .command .calculate ∧
        e.actionEvents precision a = (e.calculate precision).events) ∨
      ∃ name, a = .key name ∧ (name = "Enter" ∨ name = "=") ∧
        e.actionEvents precision a = (e.enter precision).events := by
  cases a with
  | command c =>
      obtain rfl := Option.some.inj h
      exact .inl ⟨rfl, rfl⟩
  | key name =>
      obtain ⟨key, hkey, hcommand⟩ := Option.map_eq_some_iff.1 h
      obtain rfl := command_eq_calculate_iff.1 hcommand
      refine .inr ⟨name, rfl, ofName?_eq_enter_iff.1 hkey, ?_⟩
      rw [actionEvents, handleKey, hkey]
      rfl

/-- A calculation that does not fail reports the same for a key as for the command. -/
theorem actionEvents_of_answer {a : Action} {answer : Option Binary64}
    (h : a.command? = some .calculate) (hanswer : (e.calculate precision).answer = .ok answer) :
    e.actionEvents precision a = (e.calculate precision).events := by
  rcases actionEvents_of_calculate h with ⟨-, ha⟩ | ⟨name, -, -, ha⟩
  · exact ha
  · rw [ha, events_enter_of_answer hanswer]

end Editor

/-! ### Activities -/

/-- What the library can be asked to do: to evaluate a text, to open an editor on an
expression, or to do something with the editor that is open. -/
inductive Activity where
  | evaluation (text : String) (precision : Int)
  | opening (expression : String)
  | action (a : Editor.Action)

/-- The editor after an activity, and what is reported meanwhile. An editor that is opened
has the placeholders of the one before it. -/
def Activity.perform (precision : Int) (e : Editor) : Activity → Editor × List Log.Event
  | .evaluation text precision' => (e, evaluationEvents text precision')
  | .opening expression =>
    let step := Editor.start expression e.previewPlaceholder e.errorPlaceholder precision
    (step.editor, step.events)
  | .action a => (e.after precision a, e.actionEvents precision a)

/-- What a log with a threshold has of some activities. -/
def logged (threshold : Log.Level) (precision : Int) : Editor → List Activity → List Log.Line
  | _, [] => []
  | e, a :: rest =>
    let outcome := a.perform precision e
    Log.lines threshold outcome.2 ++ logged threshold precision outcome.1 rest

open Editor (Edits Idle Previewing)

/-- Everything that an activity can do to the editor, with what it logs. -/
inductive Logs (precision : Int) (e : Editor) : Activity → Editor → List Log.Line → Prop where
  | evaluation {text : String} {precision' : Int} {lines : List Log.Line}
    (h : Reported text precision' (evaluate text precision') lines) :
    Logs precision e (.evaluation text precision') e lines
  | opening {expression : String} {lines : List Log.Line}
    (h : Previewing precision expression lines) :
    Logs precision e (.opening expression)
      (Editor.start expression e.previewPlaceholder e.errorPlaceholder precision).editor lines
  | idle {a : Editor.Action} (h : ∀ c ∈ a.command?, Idle e.expression.toList c) :
    Logs precision e (.action a) e []
  | edited {a : Editor.Action} {c : Editor.Command} {cs : List Char} {lines : List Log.Line}
    (hcommand : a.command? = some c) (hc : c ≠ .calculate)
    (hedits : Edits precision e.expression.toList c cs)
    (h : Previewing precision (String.ofList cs) lines) :
    Logs precision e (.action a) ((e.withExpression cs).refreshed precision) lines
  | calculated {a : Editor.Action} {v : Binary64} {first second : List Log.Line}
    (hcommand : a.command? = some .calculate) (hne : e.expression ≠ "")
    (h : Reported e.expression precision (.ok v) first)
    (hpreview : Reported v.text precision (evaluate v.text precision) second) :
    Logs precision e (.action a) { e with expression := v.text, resultText := v.text }
      (first ++ second)
  | failed {cause : Failure} {lines : List Log.Line} (hne : e.expression ≠ "")
    (h : Reported e.expression precision (.error (.failure cause)) lines) :
    Logs precision e (.action (.command .calculate)) { e with resultText := e.errorPlaceholder }
      lines
  | rejected {name : String} {cause : Failure} {stages : List Log.Line}
    (hname : name = "Enter" ∨ name = "=") (hne : e.expression ≠ "")
    (h : Completed e.expression precision (.error (.failure cause)) stages) :
    Logs precision e (.action (.key name)) { e with resultText := e.errorPlaceholder }
      (stages ++ [failedLine e.expression cause, rejectedLine e.expression cause])

theorem logs_calculation (precision : Int) (e : Editor) {a : Editor.Action}
    (h : a.command? = some .calculate) :
    Logs precision e (.action a) (e.after precision a)
      (Log.lines .debug (e.actionEvents precision a)) := by
  rw [Editor.after_of_command? h, Editor.perform]
  rcases Editor.calculate_cases precision e with
    ⟨hempty, heditor, hanswer⟩ | ⟨v, hne, hv, -, hanswer⟩ | ⟨cause, hne, hcause, heditor, -⟩
  · have hidle : Idle e.expression.toList .calculate :=
      .calculate (String.toList_eq_nil_iff.2 hempty)
    have hevents : (e.calculate precision).events = [] := Editor.commandEvents_of_idle hidle
    rw [heditor, Editor.actionEvents_of_answer h hanswer, hevents]
    exact .idle (by simpa [h] using hidle)
  · rw [Editor.editor_calculate_of_ok hne hv, Editor.actionEvents_of_answer h hanswer,
      Editor.events_calculate_of_ok hne hv, Log.lines_append]
    exact .calculated h hne (reported_of_evaluate hv) (reported v.text precision)
  · rw [heditor]
    rcases Editor.actionEvents_of_calculate h with ⟨rfl, ha⟩ | ⟨name, rfl, hname, ha⟩
    · rw [ha, Editor.events_calculate_of_error hne hcause]
      exact .failed hne (reported_of_evaluate hcause)
    · obtain ⟨stages, hstages, hlines⟩ := exists_completed hcause
      rw [ha, Editor.events_enter_of_error hne hcause, Log.lines_append, hlines,
        List.append_assoc]
      exact .rejected hname hne hstages

theorem logs_action (precision : Int) (e : Editor) (a : Editor.Action) :
    Logs precision e (.action a) (e.after precision a)
      (Log.lines .debug (e.actionEvents precision a)) := by
  cases hcommand : a.command? with
  | none =>
      rw [Editor.after_of_ignored hcommand, Editor.actionEvents_of_ignored hcommand]
      exact .idle (by simp [hcommand])
  | some c =>
      by_cases hc : c = .calculate
      · subst hc
        exact logs_calculation precision e hcommand
      · rw [Editor.after_of_command? hcommand, Editor.actionEvents_of_command? hcommand hc]
        rcases Editor.perform_cases precision e c with
          ⟨cs, hedits, heditor⟩ | ⟨hcalculate, -⟩ | hidle
        · rw [heditor, Editor.commandEvents_of_edits hedits hc]
          exact .edited hcommand hc hedits (Editor.previewing precision (e.withExpression cs))
        · exact absurd hcalculate hc
        · rw [Editor.perform_of_idle precision hidle, Editor.commandEvents_of_idle hidle]
          exact .idle (by simpa [hcommand] using hidle)

/-- What an activity does and logs. -/
theorem logs_perform (precision : Int) (e : Editor) (a : Activity) :
    Logs precision e a (a.perform precision e).1
      (Log.lines .debug (a.perform precision e).2) := by
  cases a with
  | evaluation text precision' => exact .evaluation (reported text precision')
  | opening expression =>
      exact .opening (Editor.previewing precision
        { expression, previewPlaceholder := e.previewPlaceholder,
          errorPlaceholder := e.errorPlaceholder, resultText := "" })
  | action a => exact logs_action precision e a

/-- The lines of some activities, one after another. -/
inductive Logged (precision : Int) : Editor → List Activity → List Log.Line → Prop where
  | nil {e : Editor} : Logged precision e [] []
  | cons {e next : Editor} {a : Activity} {rest : List Activity} {first lines : List Log.Line}
    (hfirst : Logs precision e a next first) (hrest : Logged precision next rest lines) :
    Logged precision e (a :: rest) (first ++ lines)

theorem logged_debug (precision : Int) (e : Editor) (activities : List Activity) :
    Logged precision e activities (logged .debug precision e activities) := by
  induction activities generalizing e with
  | nil => exact .nil
  | cons a rest ih => exact .cons (logs_perform precision e a) (ih _)

theorem logged_eq_filter (threshold : Log.Level) (precision : Int) (e : Editor)
    (activities : List Activity) :
    logged threshold precision e activities =
      (logged .debug precision e activities).filter
        fun line => threshold.urgency ≤ line.level.urgency := by
  induction activities generalizing e with
  | nil => rfl
  | cons a rest ih =>
      rw [logged, logged, List.filter_append, ← Log.lines_eq_filter, ← ih]

/-! ### Urgent lines -/

variable {precision : Int}

theorem lines_evaluationEvents {threshold : Log.Level}
    (h : Log.Level.info.urgency ≤ threshold.urgency) (text : String) (precision : Int) :
    Log.lines threshold (evaluationEvents text precision) = [] := by
  rw [Log.lines, kept_evaluationEvents h, List.map_nil]

theorem lines_events_preview {threshold : Log.Level}
    (h : Log.Level.info.urgency ≤ threshold.urgency) (e : Editor) (precision : Int) :
    Log.lines threshold (e.preview precision).events = [] := by
  rw [Editor.events_preview]
  split
  · rfl
  · exact lines_evaluationEvents h e.expression precision

theorem Completed.level {text : String} {outcome : Except Fault Binary64} {lines : List Log.Line}
    (h : Completed text precision outcome lines) : ∀ line ∈ lines, line.level = .debug := by
  cases h <;> simp [scannedLine, orderedLine, reducedLine]

theorem Reported.level {text : String} {outcome : Except Fault Binary64} {lines : List Log.Line}
    (h : Reported text precision outcome lines) : ∀ line ∈ lines, line.level = .debug := by
  cases h with
  | value h => exact h.level
  | failure h =>
      intro line hline
      rcases List.mem_append.1 hline with hline | hline
      · exact h.level line hline
      · rw [List.mem_singleton.1 hline, failedLine]

theorem Editor.Previewing.level {expression : String} {lines : List Log.Line}
    (h : Previewing precision expression lines) : ∀ line ∈ lines, line.level = .debug := by
  cases h with
  | pending => exact List.forall_mem_nil _
  | evaluated _ hreported => exact hreported.level

/-- A line is of the lowest level, or it is that of a rejection. -/
theorem Logs.level {e next : Editor} {a : Activity} {lines : List Log.Line}
    (h : Logs precision e a next lines) :
    ∀ line ∈ lines, line.level = .debug ∨ ∃ text cause, line = rejectedLine text cause := by
  intro line hline
  cases h with
  | evaluation h => exact .inl (h.level line hline)
  | opening h => exact .inl (h.level line hline)
  | idle => cases hline
  | edited _ _ _ h => exact .inl (h.level line hline)
  | calculated _ _ h hpreview =>
      rcases List.mem_append.1 hline with hline | hline
      · exact .inl (h.level line hline)
      · exact .inl (hpreview.level line hline)
  | failed _ h => exact .inl (h.level line hline)
  | rejected _ _ h =>
      simp only [List.mem_append, List.mem_cons, List.not_mem_nil, or_false] at hline
      rcases hline with hline | rfl | rfl
      · exact .inl (h.level line hline)
      · exact .inl rfl
      · exact .inr ⟨_, _, rfl⟩

theorem Logged.level {e : Editor} {activities : List Activity} {lines : List Log.Line}
    (h : Logged precision e activities lines) :
    ∀ line ∈ lines, line.level = .debug ∨ ∃ text cause, line = rejectedLine text cause := by
  induction h with
  | nil => exact List.forall_mem_nil _
  | cons hfirst _ ih =>
      intro line hline
      rcases List.mem_append.1 hline with hline | hline
      · exact hfirst.level line hline
      · exact ih line hline

/-- A log above the lowest level holds rejections alone. -/
theorem exists_rejectedLine {threshold : Log.Level}
    (h : Log.Level.info.urgency ≤ threshold.urgency) {e : Editor} {activities : List Activity}
    {line : Log.Line} (hline : line ∈ logged threshold precision e activities) :
    ∃ text cause, line = rejectedLine text cause := by
  rw [logged_eq_filter, List.mem_filter, decide_eq_true_eq] at hline
  obtain ⟨hmem, hlevel⟩ := hline
  refine ((logged_debug precision e activities).level line hmem).resolve_left fun hdebug => ?_
  rw [hdebug] at hlevel
  exact absurd (Nat.le_trans h hlevel) (by decide)

/-- Every row of activities logs, at the lowest level, the stages of the evaluations that are
asked for and of those that are hidden in the actions of an editor, the cause of each that
fails, and a rejection where a key asks for a calculation that fails. A log with another
threshold has the lines of this one that are at or above the threshold. Above the lowest level
these are rejections alone, and evaluations and previews have none. -/
theorem log_disciplined (precision : Int) (e : Editor) (activities : List Activity) :
    Logged precision e activities (logged .debug precision e activities) ∧
      ∀ threshold : Log.Level,
        logged threshold precision e activities =
            (logged .debug precision e activities).filter
              (fun line => threshold.urgency ≤ line.level.urgency) ∧
          (Log.Level.info.urgency ≤ threshold.urgency →
            (∀ line ∈ logged threshold precision e activities,
                ∃ text cause, line = rejectedLine text cause) ∧
              (∀ text precision', Log.lines threshold (evaluationEvents text precision') = []) ∧
              ∀ e' : Editor, Log.lines threshold (e'.preview precision).events = []) := by
  refine ⟨logged_debug precision e activities, fun threshold => ⟨?_, fun h => ⟨?_, ?_, ?_⟩⟩⟩
  · exact logged_eq_filter threshold precision e activities
  · exact fun line hline => exists_rejectedLine h hline
  · exact lines_evaluationEvents h
  · exact fun e' => lines_events_preview h e' precision

/-- A quotient that does not exist is typed, asked for by a key, and evaluated as a text. Each of
the three evaluations fails, and only the key adds a line above the lowest level. -/
theorem log_disciplined_quotient :
    let e := (Editor.start "" "…" "Error" 12).editor
    let activities : List Activity := [.action (.key "1"), .action (.key "/"), .action (.key "0"),
      .action (.key "Enter"), .evaluation "1/0" 12]
    let failure := [scannedLine 3, orderedLine 3, failedLine "1/0" .divisionByZero]
    Log.Level.info.urgency ≤ Log.Level.info.urgency ∧
      logged .debug 12 e activities =
        [scannedLine 1, orderedLine 1, reducedLine (Binary64.ofInt 1)] ++ failure ++
          (failure ++ [rejectedLine "1/0" .divisionByZero]) ++ failure ∧
      Logged 12 e activities (logged .debug 12 e activities) ∧
      logged .info 12 e activities = [rejectedLine "1/0" .divisionByZero] ∧
      ∀ line ∈ logged .info 12 e activities, ∃ text cause, line = rejectedLine text cause := by
  intro e activities failure
  have hinfo : Log.Level.info.urgency ≤ Log.Level.info.urgency := Nat.le_refl _
  have hdebug : logged .debug 12 e activities =
      [scannedLine 1, orderedLine 1, reducedLine (Binary64.ofInt 1)] ++ failure ++
        (failure ++ [rejectedLine "1/0" .divisionByZero]) ++ failure := by decide +kernel
  obtain ⟨hlogged, hthreshold⟩ := log_disciplined 12 e activities
  obtain ⟨hfilter, hurgent⟩ := hthreshold .info
  refine ⟨hinfo, hdebug, hlogged, ?_, (hurgent hinfo).1⟩
  rw [hfilter, hdebug]
  decide

end Reckoner
