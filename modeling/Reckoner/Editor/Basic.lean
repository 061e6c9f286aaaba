import Reckoner.Editor.Typing
import Reckoner.Expression.Evaluation

/-!
# The expression editor

The editor holds the expression that is being typed and a result text beside
it, and applies the actions of a pocket calculator to them. Every action is a
function from an editor to a `Step`: the editor after it, its answer, and what
it reported. The precision of results is a parameter of every action that
evaluates.

The result text is a preview: the value of the expression, or a placeholder
while the expression is empty or ends in an operator, or another placeholder if
it has no value.
-/

namespace Reckoner

/-- The state of an expression editor. -/
structure Editor where
  expression : String
  previewPlaceholder : String
  errorPlaceholder : String
  resultText : String
deriving DecidableEq

namespace Editor

/-- Why an action of the editor gives no answer. -/
inductive Refusal where
  | fault (cause : Fault)
  | notAppendable (value : String)
deriving DecidableEq

/-- The wording of a refusal. -/
def Refusal.message : Refusal → String
  | fault cause => cause.message
  | notAppendable value => "Cannot append " ++ Text.quoted value ++ " to an expression"

/-- The outcome of an action: the editor after it, its answer, and the events
that it reported. -/
structure Step (α : Type) where
  editor : Editor
  answer : Except Refusal α
  events : List Log.Event

/-- The same outcome with another answer. -/
def Step.map {α β : Type} (f : α → β) (s : Step α) : Step β :=
  { s with answer := s.answer.map f }

/-- An outcome that changes and reports nothing. -/
def idle {α : Type} (answer : α) (e : Editor) : Step α := ⟨e, .ok answer, []⟩

/-- The text that a display shows. -/
def display (e : Editor) : String := if e.expression = "" then "0" else e.expression

/-- Whether the expression has no preview yet. -/
def isPending (e : Editor) : Bool :=
  e.expression.toList.isEmpty || endsWithOperator e.expression.toList

/-- The editor with another expression. -/
def withExpression (e : Editor) (cs : List Char) : Editor :=
  { e with expression := String.ofList cs }

/-- Refresh the result text, and answer it. -/
def preview (precision : Int) (e : Editor) : Step String :=
  if e.isPending then idle e.previewPlaceholder { e with resultText := e.previewPlaceholder }
  else
    let events := evaluationEvents e.expression precision
    match evaluate e.expression precision with
    | .ok value => ⟨{ e with resultText := value.text }, .ok value.text, events⟩
    | .error (.failure _) =>
      ⟨{ e with resultText := e.errorPlaceholder }, .ok e.errorPlaceholder, events⟩
    | .error cause => ⟨e, .error (.fault cause), events⟩

/-- Replace the expression and refresh the result text. -/
def edit (precision : Int) (cs : List Char) (e : Editor) : Step Unit :=
  ((e.withExpression cs).preview precision).map fun _ => ()

/-- A new editor on an expression. -/
def start (expression previewPlaceholder errorPlaceholder : String) (precision : Int) :
    Step String :=
  preview precision { expression, previewPlaceholder, errorPlaceholder, resultText := "" }

/-- Type one of the characters of an expression. -/
def push (precision : Int) (value : String) (e : Editor) : Step Unit :=
  match value.toList with
  | [c] =>
    match type? c e.expression.toList with
    | some cs => e.edit precision cs
    | none => ⟨e, .error (.notAppendable value), []⟩
  | _ => ⟨e, .error (.notAppendable value), []⟩

/-- Remove the whole expression. -/
def clear (precision : Int) (e : Editor) : Step Unit := e.edit precision []

/-- Remove the last character. -/
def backspace (precision : Int) (e : Editor) : Step Unit :=
  e.edit precision e.expression.toList.dropLast

/-- One hundred. -/
def hundred : Binary64 := Binary64.ofInt 100

/-- Replace the trailing number by its hundredth. -/
def percent (precision : Int) (e : Editor) : Step Unit :=
  match percentOperand? e.expression.toList with
  | none => idle () e
  | some (before, number) =>
    match Binary64.ofText? (String.ofList number) with
    | some x => e.edit precision (before ++ (x.div hundred).chars)
    | none => ⟨e, .error (.fault (.unreadableNumber (String.ofList number))), []⟩

/-- Replace the expression by its value, and answer the value. An expression
without a value stays as it is. -/
def calculate (precision : Int) (e : Editor) : Step (Option Binary64) :=
  if e.expression = "" then idle none e
  else
    let events := evaluationEvents e.expression precision
    match evaluate e.expression precision with
    | .ok value =>
      let refreshed := (e.withExpression value.chars).preview precision
      ⟨refreshed.editor, refreshed.answer.map fun _ => some value, events ++ refreshed.events⟩
    | .error cause =>
      let shown := match cause with
        | .failure _ => { e with resultText := e.errorPlaceholder }
        | _ => e
      ⟨shown, .error (.fault cause), events⟩

/-! ### Keys -/

/-- What a key of the keyboard asks for. -/
inductive Key where
  | enter | backspace | escape | percent
  | char (c : Char)
deriving DecidableEq

/-- Whether a character has a key of its own. -/
def isKeyChar (c : Char) : Bool :=
  c == '.' || (Operator.ofChar? c).isSome || isPlain c

/-- The key of a name; `none` for a key that is ignored. -/
def Key.ofName? (name : String) : Option Key :=
  if name = "Enter" ∨ name = "=" then some .enter
  else if name = "Backspace" then some .backspace
  else if name = "Escape" then some .escape
  else if name = "%" then some .percent
  else
    match name.toList with
    | [c] => if isKeyChar c then some (.char c) else none
    | _ => none

/-- Calculate, and report a failure instead of answering it. -/
def enter (precision : Int) (e : Editor) : Step Unit :=
  let step := e.calculate precision
  match step.answer with
  | .ok _ => step.map fun _ => ()
  | .error (.fault (.failure cause)) =>
    ⟨step.editor, .ok (), step.events ++ [.calculationRejected step.editor.expression cause]⟩
  | .error refusal => ⟨step.editor, .error refusal, step.events⟩

/-- Apply a key. -/
def press (precision : Int) (e : Editor) : Key → Step Unit
  | .enter => e.enter precision
  | .backspace => e.backspace precision
  | .escape => e.clear precision
  | .percent => e.percent precision
  | .char c => e.push precision (String.singleton c)

/-- Apply a key given by name, and answer whether there is such a key. -/
def handleKey (precision : Int) (name : String) (e : Editor) : Step Bool :=
  match Key.ofName? name with
  | some key => (e.press precision key).map fun _ => true
  | none => idle false e

/-- Apply keys given by name one after another. The first refusal ends the
run. -/
def handleKeys (precision : Int) (names : List String) (e : Editor) : Step Unit :=
  match names with
  | [] => idle () e
  | name :: rest =>
    let first := e.handleKey precision name
    match first.answer with
    | .ok _ =>
      let others := handleKeys precision rest first.editor
      { others with events := first.events ++ others.events }
    | .error refusal => ⟨first.editor, .error refusal, first.events⟩

end Editor

end Reckoner
