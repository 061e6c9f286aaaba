import Reckoner.Proofs.Reporting
import Reckoner.Repl

/-!
# Sessions that start over

A line without a value and the request to clear leave the editor as a session starts with
it: nothing of what was typed before is seen in what follows (`isolated_run`). Between
two such lines the expression is what the last value is written as, and a line that
continues it is calculated together with it.

What is reported during a session is all of the lowest level (`kept_events_run`), so a log with
a higher threshold puts nothing between what the session prints.
-/

namespace Reckoner.Repl

variable {precision : Int} {e : Editor} {line : String} {cs : List Char}

/-! ### One line -/

/-- The text of a line without the blanks around it. -/
def stripped (line : String) : String := String.ofList (Text.trim Text.isBlank line.toList)

/-- The editor with the expression that a line leads to. -/
def typed (e : Editor) (cs : List Char) : Editor :=
  e.withExpression (if continues e.expression.toList cs then e.expression.toList ++ cs else cs)

/-- The value of the expression that a line leads to. -/
def value? (precision : Int) (e : Editor) (line : String) : Option Binary64 :=
  match Request.ofLine line with
  | .calculate cs => (evaluate (typed e cs).expression precision).toOption
  | _ => none

/-- The expression that a line leads to has no value. -/
def Fails (precision : Int) (e : Editor) (line : String) : Prop :=
  ∃ cs cause, Request.ofLine line = .calculate cs ∧
    evaluate (typed e cs).expression precision = .error (.failure cause)

/-- The editor without its expression. -/
def emptied (e : Editor) : Editor :=
  { e with expression := "", resultText := e.previewPlaceholder }

/-- The editor on a result. -/
def holding (e : Editor) (v : Binary64) : Editor :=
  { e with expression := v.text, resultText := v.text }

theorem ofLine_eq (line : String) :
    Request.ofLine line =
      if stripped line = "quit" ∨ stripped line = "exit" then .leave
      else if stripped line = "clear" then .clear
      else if stripped line = "" then .nothing
      else .calculate (stripped line).toList := by
  have heq (s : String) : stripped line = s ↔ Text.trim Text.isBlank line.toList = s.toList := by
    rw [← String.toList_inj, stripped, String.toList_ofList]
  have hcs : (stripped line).toList = Text.trim Text.isBlank line.toList := String.toList_ofList
  simp only [heq, hcs]
  rfl

theorem ofLine_eq_leave_iff :
    Request.ofLine line = .leave ↔ stripped line = "quit" ∨ stripped line = "exit" := by
  rw [ofLine_eq]
  split_ifs with hleave <;> simp [hleave]

theorem ofLine_of_clear (h : stripped line = "clear") : Request.ofLine line = .clear := by
  rw [ofLine_eq, h]
  decide

theorem ne_nil_of_ofLine (h : Request.ofLine line = .calculate cs) : cs ≠ [] := by
  rw [ofLine_eq] at h
  split_ifs at h with _ _ hne
  obtain rfl := Request.calculate.inj h
  exact mt String.toList_eq_nil_iff.1 hne

theorem expression_typed_ne (e : Editor) (hcs : cs ≠ []) : (typed e cs).expression ≠ "" := by
  rw [typed, Editor.withExpression, Ne, ← String.toList_eq_nil_iff, String.toList_ofList]
  split
  · exact List.append_ne_nil_of_right_ne_nil _ hcs
  · exact hcs

/-- An expression that is cleared is not evaluated, so nothing is reported. -/
theorem clear_eq (precision : Int) (e : Editor) : e.clear precision = ⟨emptied e, .ok (), []⟩ := by
  have hpending : (e.withExpression []).isPending = true := rfl
  rw [Editor.clear, Editor.edit, Editor.preview, if_pos hpending]
  rfl

theorem calculate_eq (precision : Int) (e : Editor) (cs : List Char) :
    calculate precision e cs =
      let step := (typed e cs).calculate precision
      match step.answer with
      | .ok _ =>
        { editor := some step.editor, output := Console.printed ("= " ++ step.editor.expression),
          events := step.events }
      | .error (.fault (.failure cause)) =>
        { editor := some (emptied step.editor), output := failureText cause,
          events := step.events }
      | .error refusal =>
        { editor := none, output := "", events := step.events, fault := some refusal } := by
  rw [calculate]
  simp only [clear_eq, List.append_nil]
  rfl

theorem calculate_of_ok {v : Binary64} (hcs : cs ≠ [])
    (h : evaluate (typed e cs).expression precision = .ok v) :
    calculate precision e cs =
      { editor := some (holding e v), output := Console.printed ("= " ++ v.text),
        events := evaluationEvents (typed e cs).expression precision ++
          evaluationEvents v.text precision } := by
  have hne := expression_typed_ne e hcs
  have heditor : ((typed e cs).calculate precision).editor = holding e v :=
    Editor.editor_calculate_of_ok hne h
  have hanswer := (Editor.calculate_of_ok hne h).2
  rw [calculate_eq]
  simp only [hanswer, heditor, Editor.events_calculate_of_ok hne h]
  rfl

theorem calculate_of_error {cause : Failure} (hcs : cs ≠ [])
    (h : evaluate (typed e cs).expression precision = .error (.failure cause)) :
    calculate precision e cs =
      { editor := some (emptied e), output := failureText cause,
        events := evaluationEvents (typed e cs).expression precision } := by
  have hne := expression_typed_ne e hcs
  obtain ⟨heditor, hanswer⟩ := Editor.calculate_of_error hne h
  rw [calculate_eq]
  simp only [hanswer, heditor, Editor.events_calculate_of_error hne h]
  rfl

/-- Everything that a line can do. -/
inductive Follows (precision : Int) (e : Editor) (line : String) : Turn → Prop where
  | leave (h : Request.ofLine line = .leave) :
    Follows precision e line { editor := none, output := "", events := [] }
  | clear (h : Request.ofLine line = .clear) :
    Follows precision e line { editor := some (emptied e), output := "", events := [] }
  | nothing (h : Request.ofLine line = .nothing) :
    Follows precision e line { editor := some e, output := "", events := [] }
  | value {cs : List Char} {v : Binary64} (h : Request.ofLine line = .calculate cs)
    (hvalue : evaluate (typed e cs).expression precision = .ok v) :
    Follows precision e line
      { editor := some (holding e v), output := Console.printed ("= " ++ v.text),
        events := evaluationEvents (typed e cs).expression precision ++
          evaluationEvents v.text precision }
  | failure {cs : List Char} {cause : Failure} (h : Request.ofLine line = .calculate cs)
    (hfailure : evaluate (typed e cs).expression precision = .error (.failure cause)) :
    Follows precision e line
      { editor := some (emptied e), output := failureText cause,
        events := evaluationEvents (typed e cs).expression precision }

variable {turn : Turn}

theorem Follows.fault_eq_none (h : Follows precision e line turn) : turn.fault = none := by
  cases h <;> rfl

/-- A line reports evaluations alone, so a log above the lowest level has nothing of it. -/
theorem Follows.kept_events (h : Follows precision e line turn) {threshold : Log.Level}
    (hthreshold : Log.Level.info.urgency ≤ threshold.urgency) :
    Log.kept threshold turn.events = [] := by
  have hquiet (text : String) := kept_evaluationEvents hthreshold text precision
  cases h with
  | leave => rfl
  | clear => rfl
  | nothing => rfl
  | value => rw [Log.kept_append, hquiet, hquiet, List.append_nil]
  | failure => exact hquiet _

/-- A session goes on after a line that does not leave it. -/
theorem Follows.exists_editor (h : Follows precision e line turn)
    (hline : Request.ofLine line ≠ .leave) : ∃ next, turn.editor = some next := by
  cases h with
  | leave hleave => exact absurd hleave hline
  | clear => exact ⟨_, rfl⟩
  | nothing => exact ⟨_, rfl⟩
  | value => exact ⟨_, rfl⟩
  | failure => exact ⟨_, rfl⟩

theorem follows_applyLine (precision : Int) (e : Editor) (line : String) :
    Follows precision e line (applyLine precision e line) := by
  rw [applyLine]
  cases h : Request.ofLine line with
  | leave => exact .leave h
  | clear =>
      simp only [clear_eq]
      exact .clear h
  | nothing => exact .nothing h
  | calculate cs =>
      have hcs := ne_nil_of_ofLine h
      rcases evaluate_ok_or_failure (typed e cs).expression precision with
        ⟨v, hvalue, -⟩ | ⟨cause, hfailure⟩
      · simp only [calculate_of_ok hcs hvalue]
        exact .value h hvalue
      · simp only [calculate_of_error hcs hfailure]
        exact .failure h hfailure

/-! ### The prompts of a session -/

/-- The editor at a prompt, and the value of the last line before it that has one. -/
structure Moment where
  editor : Editor
  last : Option Binary64
deriving DecidableEq

namespace Moment

/-- The next prompt after a line; a line that leaves the session has none. -/
def proceed? (precision : Int) (m : Moment) (line : String) : Option Moment :=
  (applyLine precision m.editor line).editor.map fun next =>
    ⟨next, (value? precision m.editor line).or m.last⟩

/-- The prompt after some lines. -/
def after? (precision : Int) (m : Moment) (lines : List String) : Option Moment :=
  lines.foldlM (proceed? precision) m

/-- What holds at every prompt of a session that started with the editor `origin`: the
editor shows nothing or the last value, and without that it is `origin`. -/
structure Kept (origin : Editor) (m : Moment) : Prop where
  shown : m.editor.expression = "" ∨ ∃ v, m.last = some v ∧ m.editor.expression = v.text
  emptied_eq : emptied m.editor = origin

variable {origin : Editor} {m m' : Moment} {lines : List String}

theorem Kept.proceed (h : Kept origin m) (hm' : m.proceed? precision line = some m') :
    Kept origin m' := by
  obtain ⟨next, hnext, rfl⟩ := Option.map_eq_some_iff.1 hm'
  have hfollows := follows_applyLine precision m.editor line
  generalize applyLine precision m.editor line = turn at hnext hfollows
  cases hfollows with
  | leave => cases hnext
  | clear =>
      obtain rfl := Option.some.inj hnext
      exact ⟨.inl rfl, h.emptied_eq⟩
  | nothing hline =>
      obtain rfl := Option.some.inj hnext
      have hvalue : value? precision m.editor line = none := by rw [value?, hline]
      rw [hvalue, Option.none_or]
      exact h
  | value hline hv =>
      obtain rfl := Option.some.inj hnext
      have hvalue := congrArg Except.toOption hv
      refine ⟨.inr ⟨_, ?_, rfl⟩, h.emptied_eq⟩
      simp only [value?, hline, hvalue]
      rfl
  | failure =>
      obtain rfl := Option.some.inj hnext
      exact ⟨.inl rfl, h.emptied_eq⟩

theorem Kept.after (h : Kept origin m) (hm' : m.after? precision lines = some m') :
    Kept origin m' := by
  induction lines generalizing m with
  | nil => exact Option.some.inj hm' ▸ h
  | cons line lines ih =>
      obtain ⟨next, hnext, hrest⟩ := Option.bind_eq_some_iff.1 hm'
      exact ih (h.proceed hnext) hrest

theorem exists_proceed? (m : Moment) (precision : Int) (h : Request.ofLine line ≠ .leave) :
    ∃ m', m.proceed? precision line = some m' := by
  obtain ⟨next, hnext⟩ := (follows_applyLine precision m.editor line).exists_editor h
  rw [proceed?, hnext]
  exact ⟨_, rfl⟩

theorem exists_after? (m : Moment) (precision : Int)
    (h : ∀ line ∈ lines, Request.ofLine line ≠ .leave) :
    ∃ m', m.after? precision lines = some m' := by
  induction lines generalizing m with
  | nil => exact ⟨m, rfl⟩
  | cons line lines ih =>
      obtain ⟨hline, hlines⟩ := List.forall_mem_cons.1 h
      obtain ⟨next, hnext⟩ := m.exists_proceed? precision hline
      obtain ⟨m', hm'⟩ := ih next hlines
      exact ⟨m', Option.bind_eq_some_iff.2 ⟨next, hnext, hm'⟩⟩

theorem after?_append_singleton (m : Moment) (lines : List String) (line : String) :
    m.after? precision (lines ++ [line]) =
      (m.after? precision lines).bind fun m' => m'.proceed? precision line := by
  rw [after?, List.foldlM_append]
  simp only [List.foldlM_cons, List.foldlM_nil, bind_pure]
  rfl

/-- A line that clears or fails leads to a prompt without an expression. -/
theorem editor_of_proceed? (hm' : m.proceed? precision line = some m')
    (hline : stripped line = "clear" ∨ Fails precision m.editor line) :
    m'.editor = emptied m.editor := by
  obtain ⟨next, hnext, rfl⟩ := Option.map_eq_some_iff.1 hm'
  rw [applyLine] at hnext
  rcases hline with hclear | ⟨cs, cause, hrequest, hfailure⟩
  · rw [ofLine_of_clear hclear] at hnext
    simp only [clear_eq] at hnext
    exact (Option.some.inj hnext).symm
  · simp only [hrequest, calculate_of_error (ne_nil_of_ofLine hrequest) hfailure] at hnext
    exact (Option.some.inj hnext).symm

end Moment

/-! ### What a session prints and reports -/

theorem runFrom_cons_of_none (h : (applyLine precision e line).editor = none)
    (lines : List String) :
    runFrom precision e (line :: lines) =
      { output := prompt e ++ (applyLine precision e line).output,
        events := (applyLine precision e line).events,
        fault := (applyLine precision e line).fault } := by
  rw [runFrom, h]

theorem runFrom_cons_of_some {next : Editor} (h : (applyLine precision e line).editor = some next)
    (lines : List String) :
    runFrom precision e (line :: lines) =
      { output := prompt e ++ (applyLine precision e line).output ++
          (runFrom precision next lines).output,
        events := (applyLine precision e line).events ++ (runFrom precision next lines).events,
        fault := (runFrom precision next lines).fault } := by
  rw [runFrom, h]

/-- Nothing but a request ends a session. -/
theorem fault_runFrom (precision : Int) (e : Editor) (lines : List String) :
    (runFrom precision e lines).fault = none := by
  induction lines generalizing e with
  | nil => rfl
  | cons line lines ih =>
      cases h : (applyLine precision e line).editor with
      | none =>
          rw [runFrom_cons_of_none h]
          exact (follows_applyLine precision e line).fault_eq_none
      | some next =>
          rw [runFrom_cons_of_some h]
          exact ih next

/-- Nothing in a session is more urgent than the lowest level. -/
theorem kept_events_runFrom {threshold : Log.Level}
    (hthreshold : Log.Level.info.urgency ≤ threshold.urgency) (precision : Int) (e : Editor)
    (lines : List String) : Log.kept threshold (runFrom precision e lines).events = [] := by
  induction lines generalizing e with
  | nil => rfl
  | cons line lines ih =>
      have hturn := (follows_applyLine precision e line).kept_events hthreshold
      cases h : (applyLine precision e line).editor with
      | none =>
          rw [runFrom_cons_of_none h]
          exact hturn
      | some next =>
          rw [runFrom_cons_of_some h, Log.kept_append, hturn, ih, List.append_nil]

theorem kept_events_run {threshold : Log.Level}
    (hthreshold : Log.Level.info.urgency ≤ threshold.urgency) (s : Settings)
    (lines : List String) : Log.kept threshold (run s lines).events = [] :=
  kept_events_runFrom hthreshold s.resultPrecision (start s) lines

/-- What is printed after a prompt depends on the editor at the prompt only, and not on
the lines before it. -/
theorem exists_runFrom_append {m m' : Moment} {first : List String}
    (h : m.after? precision first = some m') :
    ∃ body, ∀ second, (runFrom precision m.editor (first ++ second)).output =
      body ++ (runFrom precision m'.editor second).output := by
  induction first generalizing m with
  | nil =>
      obtain rfl := Option.some.inj h
      exact ⟨"", fun second => (String.empty_append).symm⟩
  | cons line first ih =>
      obtain ⟨next, hnext, hrest⟩ := Option.bind_eq_some_iff.1 h
      obtain ⟨body, hbody⟩ := ih hrest
      obtain ⟨e, he, rfl⟩ := Option.map_eq_some_iff.1 hnext
      refine ⟨prompt m.editor ++ (applyLine precision m.editor line).output ++ body, ?_⟩
      intro second
      rw [List.cons_append, runFrom_cons_of_some he]
      simp only [hbody, String.append_assoc]

theorem prompt_of_expression (h : e.expression = "") : prompt e = "0 > " := by
  rw [prompt, Editor.display, if_pos h]
  decide +kernel

/-- The prompt that a session starts with. -/
def opening (s : Settings) : Moment := ⟨start s, none⟩

theorem kept_opening (s : Settings) : (opening s).Kept (start s) := by
  refine ⟨.inl rfl, ?_⟩
  rw [opening, start, opened, Editor.editor_start]
  rfl

/-- A session never fails. At each of its prompts there is no expression, or it is what the
last value is written as. A line that clears or fails ends it as if it were two sessions:
what the lines up to it print, without the last prompt, is followed by what the other lines
print on their own, without the banner. Nothing is logged between what is printed, unless the
lowest level is asked for. -/
theorem isolated_run (s : Settings) :
    (∀ lines, (run s lines).fault = none) ∧
      (∀ lines m, (opening s).after? s.resultPrecision lines = some m →
        m.editor.expression = "" ∨ ∃ v, m.last = some v ∧ m.editor.expression = v.text) ∧
      (∀ (first : List String) (last : String) (second : List String),
        (∀ line ∈ first ++ [last], stripped line ≠ "quit" ∧ stripped line ≠ "exit") →
        (stripped last = "clear" ∨ ∀ m, (opening s).after? s.resultPrecision first = some m →
          Fails s.resultPrecision m.editor last) →
        ∃ body rest, (run s (first ++ [last])).output = body ++ "0 > " ++ "\n" ∧
          (run s second).output = banner ++ rest ∧
          (run s (first ++ [last] ++ second)).output = body ++ rest) ∧
      (Log.Level.info.urgency ≤ s.logLevel.urgency →
        ∀ lines, Log.kept s.logLevel (run s lines).events = []) := by
  refine ⟨?_, ?_, ?_, fun hlevel => kept_events_run hlevel s⟩
  · intro lines
    exact fault_runFrom s.resultPrecision (start s) lines
  · intro lines m hm
    exact ((kept_opening s).after hm).shown
  · intro first last second hstay hlast
    have hrequest : ∀ line ∈ first ++ [last], Request.ofLine line ≠ .leave := by
      intro line hline hleave
      rcases ofLine_eq_leave_iff.1 hleave with hquit | hexit
      · exact (hstay line hline).1 hquit
      · exact (hstay line hline).2 hexit
    obtain ⟨m', hm'⟩ := (opening s).exists_after? s.resultPrecision hrequest
    have hsplit := hm'
    rw [Moment.after?_append_singleton] at hsplit
    obtain ⟨m, hm, hproceed⟩ := Option.bind_eq_some_iff.1 hsplit
    -- The last line leaves the editor that the session started with.
    have hstart : m'.editor = start s := by
      have hreset := hlast.imp_right fun hfails => hfails m hm
      rw [Moment.editor_of_proceed? hproceed hreset]
      exact ((kept_opening s).after hm).emptied_eq
    obtain ⟨body, hbody⟩ := exists_runFrom_append hm'
    rw [hstart] at hbody
    refine ⟨banner ++ body, (runFrom s.resultPrecision (start s) second).output, ?_, rfl, ?_⟩
    · have hend := hbody []
      rw [List.append_nil] at hend
      have hprompt : prompt (start s) = "0 > " := prompt_of_expression rfl
      calc
        (run s (first ++ [last])).output = banner ++ (body ++ (prompt (start s) ++ "\n")) :=
          congrArg (banner ++ ·) hend
        _ = banner ++ body ++ "0 > " ++ "\n" := by
          rw [hprompt, String.append_assoc, String.append_assoc]
    · calc
        (run s (first ++ [last] ++ second)).output =
            banner ++ (body ++ (runFrom s.resultPrecision (start s) second).output) :=
          congrArg (banner ++ ·) (hbody second)
        _ = banner ++ body ++ (runFrom s.resultPrecision (start s) second).output :=
          String.append_assoc.symm

/-- A quotient that does not exist: the minus of the next line continues nothing. -/
theorem isolated_run_quotient :
    let s : Settings := {}
    ∃ body rest, (run s ["1-3", "/0"]).output = body ++ "0 > " ++ "\n" ∧
      (run s ["-1"]).output = banner ++ rest ∧
      (run s ["1-3", "/0", "-1"]).output = body ++ rest := by
  intro s
  have hdifference : (opening s).after? s.resultPrecision ["1-3"] =
      some ⟨holding (start s) (Binary64.ofInt (-2)), some (Binary64.ofInt (-2))⟩ := by
    decide +kernel
  have hfails : ∀ m, (opening s).after? s.resultPrecision ["1-3"] = some m →
      Fails s.resultPrecision m.editor "/0" := by
    intro m hm
    obtain rfl := Option.some.inj (hdifference.symm.trans hm)
    exact ⟨"/0".toList, .divisionByZero, by decide, by decide +kernel⟩
  have hstay : ∀ line ∈ ["1-3"] ++ ["/0"], stripped line ≠ "quit" ∧ stripped line ≠ "exit" := by
    decide
  obtain ⟨-, -, hisolated, -⟩ := isolated_run s
  exact hisolated ["1-3"] "/0" ["-1"] hstay (.inr hfails)

end Reckoner.Repl
