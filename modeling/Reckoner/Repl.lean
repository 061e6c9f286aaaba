import Reckoner.Console.Wrap
import Reckoner.Editor.Basic
import Reckoner.Settings.Basic

/-!
# The interactive session

A session reads lines and prints a prompt before each. A line that starts with
an operator continues the last result, where a minus does so only if there is
one; any other line starts anew. A line without a value prints why and removes
the expression, so that failures leave no trace in what follows.
-/

namespace Reckoner.Repl

/-- What a session prints first. -/
def banner : String := Console.printed "calcyard - type an expression, 'clear' or 'quit'"

/-- What is printed before a line is read. -/
def prompt (e : Editor) : String := Console.prompted (e.display ++ " > ")

/-- What is printed for a failure. -/
def failureText (cause : Failure) : String :=
  Console.printed ("✗ " ++ cause.kind.code ++ ": " ++ cause.message)

/-- The editor that a session opens, and what is reported meanwhile. -/
def opened (s : Settings) : Editor.Step String :=
  Editor.start "" s.previewPlaceholder s.errorPlaceholder s.resultPrecision

/-- The editor that a session starts with. -/
def start (s : Settings) : Editor := (opened s).editor

/-- What a line asks for. -/
inductive Request where
  | leave
  | clear
  | nothing
  | calculate (cs : List Char)
deriving DecidableEq

/-- The request of a line. Blanks around it do not count. -/
def Request.ofLine (line : String) : Request :=
  let cs := Text.trim Text.isBlank line.toList
  if cs = "quit".toList ∨ cs = "exit".toList then .leave
  else if cs = "clear".toList then .clear
  else if cs = [] then .nothing
  else .calculate cs

/-- Whether a line continues the expression before it. -/
def continues (expression cs : List Char) : Bool :=
  match cs with
  | '+' :: _ | '*' :: _ | '/' :: _ => true
  | '-' :: _ => !expression.isEmpty
  | _ => false

/-- The outcome of a line: the editor after it, what was printed, and the events that
were reported; the session is over without an editor. A refusal that is no failure
ends it too. -/
structure Turn where
  editor : Option Editor
  output : String
  events : List Log.Event
  fault : Option Editor.Refusal := none

/-- Calculate the expression that a line leads to. -/
def calculate (precision : Int) (e : Editor) (cs : List Char) : Turn :=
  let expression := e.expression.toList
  let typed := e.withExpression (if continues expression cs then expression ++ cs else cs)
  let step := typed.calculate precision
  match step.answer with
  | .ok _ =>
    { editor := some step.editor, output := Console.printed ("= " ++ step.editor.expression),
      events := step.events }
  | .error (.fault (.failure cause)) =>
    let cleared := step.editor.clear precision
    { editor := some cleared.editor, output := failureText cause,
      events := step.events ++ cleared.events }
  | .error refusal =>
    { editor := none, output := "", events := step.events, fault := some refusal }

/-- Apply a line. -/
def applyLine (precision : Int) (e : Editor) (line : String) : Turn :=
  match Request.ofLine line with
  | .leave => { editor := none, output := "", events := [] }
  | .clear =>
    let cleared := e.clear precision
    { editor := some cleared.editor, output := "", events := cleared.events }
  | .nothing => { editor := some e, output := "", events := [] }
  | .calculate cs => calculate precision e cs

/-- A session from its start to its end: what it printed, the events that were reported,
and the fault that ended it. -/
structure Transcript where
  output : String
  events : List Log.Event
  fault : Option Editor.Refusal := none

/-- The session from an editor on. The end of the lines ends it with a line end. -/
def runFrom (precision : Int) (e : Editor) : List String → Transcript
  | [] => { output := prompt e ++ "\n", events := [] }
  | line :: rest =>
    let turn := applyLine precision e line
    match turn.editor with
    | none => { output := prompt e ++ turn.output, events := turn.events, fault := turn.fault }
    | some next =>
      let later := runFrom precision next rest
      { later with
        output := prompt e ++ turn.output ++ later.output
        events := turn.events ++ later.events }

/-- The session on some lines. -/
def run (s : Settings) (lines : List String) : Transcript :=
  let session := runFrom s.resultPrecision (opened s).editor lines
  { session with
    output := banner ++ session.output
    events := (opened s).events ++ session.events }

end Reckoner.Repl
