import Reckoner.CommandLine.Run
import Reckoner.Proofs.Chaining
import Reckoner.Proofs.Classification
import Reckoner.Proofs.Console.Wrapping
import Reckoner.Proofs.Reporting

/-!
# What the commands print

A number is printed as it is written, on one line if it has at most `lineWidth`
characters, and else in pieces with line ends between them (`filter_printed_text`,
`prompted_text`, `newline_mem_prompted_text`).

A result that was printed on one line can be evaluated again, and the command prints the
same. A line end can stand in no expression, so a result in pieces is refused, unless its line
ends are removed before (`run_eval_printed`).
-/

namespace Reckoner

/-! ### Commands -/

namespace CommandLine

/-- Arguments without switches before the command change no settings. -/
theorem run_of_readCommon {args arguments : List String} {name : CommandName} {command : Command}
    (hcommon : readCommon args = .request ⟨none, none, name, arguments⟩)
    (hcommand : readCommand name arguments = .request command) (s : Settings)
    (files : String → File) (input : String) :
    run s files input args = runCommand s input command := by
  have hprepare : prepare s files args = .ok (s, command) := by
    rw [prepare]
    simp only [hcommon, hcommand, overrides, fileOverrides]
    rfl
  rw [run, hprepare]

theorem run_eval (s : Settings) (files : String → File) (input text : String) :
    run s files input ["eval", "--", text] = runEval s text := by
  have hcommon : readCommon ["eval", "--", text] = .request ⟨none, none, .eval, ["--", text]⟩ := by
    rw [readCommon, readSwitches, if_neg (by decide)]
    rfl
  have hcommand : readCommand .eval ["--", text] = .request (.eval text) := by
    rw [readCommand, readSwitches]
    rfl
  exact run_of_readCommon hcommon hcommand s files input

theorem run_rpn (s : Settings) (files : String → File) (input text : String) :
    run s files input ["rpn", "--", text] = runRpn s text := by
  have hcommon : readCommon ["rpn", "--", text] = .request ⟨none, none, .rpn, ["--", text]⟩ := by
    rw [readCommon, readSwitches, if_neg (by decide)]
    rfl
  have hcommand : readCommand .rpn ["--", text] = .request (.rpn text) := by
    rw [readCommand, readSwitches]
    rfl
  exact run_of_readCommon hcommon hcommand s files input

end CommandLine

/-! ### Printed numbers -/

theorem isBlank_of_isNumeralChar {c : Char} (h : Token.isNumeralChar c = true) :
    Text.isBlank c = false := by
  have hc := toNat_of_isNumeralChar h
  simp only [Text.isBlank, Text.blankRanges, List.any_cons, List.any_nil]
  simp
  omega

theorem width_of_isNumeralChar {c : Char} (h : Token.isNumeralChar c = true) :
    Text.width c = 1 := by
  obtain ⟨hlow, hhigh⟩ := toNat_of_isNumeralChar h
  exact Text.width_of_ascii (Nat.le_trans (by decide) hlow) (Nat.lt_of_le_of_lt hhigh (by decide))

/-- The characters of a written number are no blanks, and each takes one column. -/
theorem isBlank_and_width_of_mem_text {v : Binary64} (h : v.isFinite = true) :
    ∀ c ∈ v.text.toList, Text.isBlank c = false ∧ Text.width c = 1 := by
  obtain ⟨sign, digits, hsign, -, hdigits, hchars⟩ := Binary64.exists_chars h
  intro c hc
  rw [Binary64.text, String.toList_ofList, hchars] at hc
  rcases List.mem_append.1 hc with hc | hc
  · rw [hsign c hc]
    decide
  · exact ⟨isBlank_of_isNumeralChar (hdigits c hc), width_of_isNumeralChar (hdigits c hc)⟩

theorem columns_eq_length {cs : List Char} (h : ∀ c ∈ cs, Text.width c = 1) :
    Text.columns cs = cs.length := by
  induction cs with
  | nil => rfl
  | cons c cs ih =>
      obtain ⟨hc, hcs⟩ := List.forall_mem_cons.1 h
      rw [Text.columns_cons, hc, ih hcs, List.length_cons, Nat.add_comm]

theorem columns_text {v : Binary64} (h : v.isFinite = true) :
    Text.columns v.text.toList = v.text.length := by
  rw [columns_eq_length fun c hc => (isBlank_and_width_of_mem_text h c hc).2, String.length_toList]

/-- A finite number is printed as it is written, apart from line ends. -/
theorem filter_printed_text {v : Binary64} (h : v.isFinite = true) :
    (Console.printed v.text).toList.filter (· != '\n') = v.text.toList :=
  Console.filter_toList_printed fun c hc => (isBlank_and_width_of_mem_text h c hc).1

/-- A number that fits a line is printed on one line. -/
theorem prompted_text {v : Binary64} (h : v.isFinite = true)
    (hfits : v.text.length ≤ Console.lineWidth) : Console.prompted v.text = v.text := by
  rw [← columns_text h] at hfits
  exact Console.prompted_of_columns_le (fun c hc => (isBlank_and_width_of_mem_text h c hc).1) hfits

/-- A number that does not fit a line is printed in pieces. -/
theorem newline_mem_prompted_text {v : Binary64} (h : v.isFinite = true)
    (hlong : Console.lineWidth < v.text.length) : '\n' ∈ (Console.prompted v.text).toList := by
  have hblank : ∀ c ∈ v.text.toList, Text.isBlank c = false :=
    fun c hc => (isBlank_and_width_of_mem_text h c hc).1
  rw [← columns_text h] at hlong
  rw [Console.prompted_of_not_blank hblank]
  exact Console.newline_mem_joinLines (by decide) hblank hlong

/-! ### Results as expressions -/

/-- A text with a line end in it has no value. -/
theorem exists_evaluate_of_newline {text : String} (h : '\n' ∈ text.toList) (precision : Int) :
    ∃ cause, evaluate text precision = .error (.failure cause) := by
  have hlegible : ¬ Legible text.toList := by
    intro hlegible
    exact absurd (hlegible.mem_chars '\n' h) (by decide)
  rw [← exists_scanFrom_eq_ok_iff none 0] at hlegible
  cases hscan : Token.scanFrom none 0 text.toList with
  | ok tokens => exact absurd ⟨tokens, hscan⟩ hlegible
  | error cause => exact ⟨cause, evaluate_of_scan_eq_error hscan precision⟩

namespace CommandLine

/-- What was printed, without the line end behind it. -/
def withoutFinalNewline (output : String) : String := String.ofList output.toList.dropLast

theorem withoutFinalNewline_printed (text : String) :
    withoutFinalNewline (Console.printed text) = Console.prompted text := by
  have hend : "\n".toList = ['\n'] := rfl
  rw [withoutFinalNewline, Console.printed, String.toList_append, hend, List.dropLast_concat,
    String.ofList_toList]

variable {s : Settings} {text : String} {v : Binary64}

theorem runEval_of_ok (h : evaluate text s.resultPrecision = .ok v) :
    runEval s text = { output := Console.printed v.text } := by
  rw [runEval, h]

theorem exists_of_exitCode_runEval (h : (runEval s text).exitCode = 0) :
    ∃ v, evaluate text s.resultPrecision = .ok v := by
  rcases evaluate_ok_or_failure text s.resultPrecision with ⟨v, hv, -⟩ | ⟨cause, hcause⟩
  · exact ⟨v, hv⟩
  · rw [runEval, hcause] at h
    exact absurd h Nat.one_ne_zero

/-- A result is evaluated to what is printed the same. -/
theorem runEval_text (h : evaluate text s.resultPrecision = .ok v) :
    runEval s v.text = runEval s text := by
  obtain ⟨-, -, x, -, -, -, hclean⟩ := evaluate_eq_ok_iff.1 h
  obtain ⟨w, hw, -, htext⟩ := exists_evaluate_text hclean
  rw [runEval_of_ok hw, runEval_of_ok h, htext]

theorem exitCode_runEval_of_newline (h : '\n' ∈ text.toList) : (runEval s text).exitCode = 1 := by
  obtain ⟨cause, hcause⟩ := exists_evaluate_of_newline h s.resultPrecision
  rw [runEval, hcause]
  rfl

/-- A result in pieces is refused. -/
theorem exitCode_runEval_printed (h : evaluate text s.resultPrecision = .ok v)
    (hlong : Console.lineWidth < v.text.length) :
    (runEval s (withoutFinalNewline (runEval s text).output)).exitCode = 1 := by
  rw [runEval_of_ok h, withoutFinalNewline_printed]
  exact exitCode_runEval_of_newline (newline_mem_prompted_text (isFinite_of_evaluate h) hlong)

/-- The result of an expression with a value is printed on one line if it fits a line, and then
it can be evaluated as it was printed, with the same outcome. A longer one is refused as it was
printed, and has the same outcome without its line ends. Nothing is logged between what is
printed, unless the lowest level is asked for. -/
theorem run_eval_printed (s : Settings) (files : String → File) (input : String) {text : String}
    (h : (run s files input ["eval", "--", text]).exitCode = 0) :
    let once := run s files input ["eval", "--", text]
    let again := run s files input ["eval", "--", withoutFinalNewline once.output]
    let unbroken := String.ofList (once.output.toList.filter (· != '\n'))
    ∃ v, evaluate text s.resultPrecision = .ok v ∧
      (v.text.length ≤ Console.lineWidth → once.output = v.text ++ "\n" ∧ again = once) ∧
      (Console.lineWidth < v.text.length → again.exitCode = 1) ∧
      run s files input ["eval", "--", unbroken] = once ∧
      (Log.Level.info.urgency ≤ s.logLevel.urgency → ∀ expression,
        Log.kept s.logLevel (evaluationEvents expression s.resultPrecision) = []) := by
  simp only [run_eval] at h ⊢
  obtain ⟨v, hv⟩ := exists_of_exitCode_runEval h
  have hfinite := isFinite_of_evaluate hv
  refine ⟨v, hv, fun hfits => ?_, exitCode_runEval_printed hv, ?_, fun hlevel expression => ?_⟩
  · have hprompted := prompted_text hfinite hfits
    constructor
    · rw [runEval_of_ok hv, Console.printed, hprompted]
    · rw [runEval_of_ok hv, withoutFinalNewline_printed, hprompted, runEval_text hv,
        runEval_of_ok hv]
  · rw [runEval_of_ok hv, filter_printed_text hfinite, String.ofList_toList, runEval_text hv,
      runEval_of_ok hv]
  · exact kept_evaluationEvents hlevel expression s.resultPrecision

/-- The longest power of ten that fits a line. -/
theorem run_eval_printed_eighty :
    let s : Settings := {}
    let files : String → File := fun _ => .missing
    let text := String.ofList ('1' :: List.replicate 79 '0')
    let once := run s files "" ["eval", "--", text]
    let again := run s files "" ["eval", "--", withoutFinalNewline once.output]
    let unbroken := String.ofList (once.output.toList.filter (· != '\n'))
    once.exitCode = 0 ∧
    ∃ v, evaluate text s.resultPrecision = .ok v ∧
      (v.text.length ≤ Console.lineWidth → once.output = v.text ++ "\n" ∧ again = once) ∧
      (Console.lineWidth < v.text.length → again.exitCode = 1) ∧
      run s files "" ["eval", "--", unbroken] = once ∧
      (Log.Level.info.urgency ≤ s.logLevel.urgency → ∀ expression,
        Log.kept s.logLevel (evaluationEvents expression s.resultPrecision) = []) := by
  intro s files text once again unbroken
  have hv : evaluate text s.resultPrecision = .ok (.ofFraction false (tenTo 79) 1) :=
    Except.eq_ok_of_toOption (by decide +kernel)
  have h : once.exitCode = 0 := by
    simp only [once, run_eval, runEval_of_ok hv]
  exact ⟨h, run_eval_printed s files "" h⟩

/-- A result that has one character more than a line is not printed as an expression. -/
theorem not_run_eval_printed :
    ¬ ∀ (s : Settings) (files : String → File) (input text : String),
      (run s files input ["eval", "--", text]).exitCode = 0 →
      let once := run s files input ["eval", "--", text]
      let again := run s files input ["eval", "--", withoutFinalNewline once.output]
      again.exitCode = 0 ∧ again.output = once.output := by
  intro hall
  let s : Settings := {}
  let text := String.ofList ('1' :: List.replicate 80 '0')
  have hv : evaluate text s.resultPrecision = .ok (.ofFraction false (tenTo 80) 1) :=
    Except.eq_ok_of_toOption (by decide +kernel)
  have hlong : Console.lineWidth < (Binary64.ofFraction false (tenTo 80) 1).text.length := by
    decide +kernel
  have h : (run s (fun _ => .missing) "" ["eval", "--", text]).exitCode = 0 := by
    simp only [run_eval, runEval_of_ok hv]
  have hrefused := exitCode_runEval_printed hv hlong
  obtain ⟨hagain, -⟩ := hall s (fun _ => .missing) "" text h
  simp only [run_eval] at hagain
  rw [hrefused] at hagain
  cases hagain

end CommandLine

end Reckoner
