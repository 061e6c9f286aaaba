import Reckoner.Editor.Basic
import Reckoner.Service.Path
import Reckoner.Service.Request
import Reckoner.Settings.Basic

/-!
# Answers of the service

The service has five endpoints. `Service.respond` maps a request to a response
and to the events that were reported meanwhile: it finds the endpoint by path
and method, reads the body, and runs the evaluation or the editor. A refused
expression is answered with its kind and wording.

A body that cannot be read does not reach an endpoint. How it is answered is not
up to the service but to what calls it, so the refusal is a parameter of the
answer. `Service.answer` is the answer with the plainest refusal, which lists the
issues and says nothing of the body.
-/

namespace Reckoner.Service

/-- The version of the service. -/
def version : String := "1.0.0"

/-- A response: its status code and its body. -/
structure Response where
  status : Nat
  body : Datum

/-- A record of named values. -/
def record (fields : Fields) : Datum := .map (fields.map fun f => (.text f.1, f.2))

/-- The endpoints of the service. -/
inductive Endpoint where
  | health | configuration | evaluation | ordering | keys
deriving DecidableEq

namespace Endpoint

/-- All endpoints. -/
def all : List Endpoint := [health, configuration, evaluation, ordering, keys]

/-- The path of an endpoint. -/
def path : Endpoint → String
  | health => "/health"
  | configuration => "/api/v1/config"
  | evaluation => "/api/v1/evaluate"
  | ordering => "/api/v1/postfix"
  | keys => "/api/v1/editor/keys"

/-- The one method that an endpoint answers to. -/
def method : Endpoint → String
  | health | configuration => "GET"
  | evaluation | ordering | keys => "POST"

/-- The endpoint of a path. -/
def ofPath? (path : String) : Option Endpoint :=
  all.find? fun e => e.path == Path.ofTarget path

end Endpoint

/-- A response that only names what is wrong. -/
def detail (status : Nat) (d : Datum) : Response := ⟨status, record [("detail", d)]⟩

/-- The response to a body that cannot be read, given the body and its issues. -/
abbrev Refusal := Option Datum → List Issue → Response

/-- The response to an expression without a value. -/
def refuseExpression : Fault → Response
  | .failure cause =>
    ⟨422, record [("kind", .text cause.kind.code), ("message", .text cause.message)]⟩
  | _ => detail 500 (.text "Internal Server Error")

/-- A token as a record. -/
def tokenRecord (t : Token) : Datum :=
  record [("kind", .text t.kind.name), ("text", .text t.text)]

/-- The answer to the request for a value. -/
def answerEvaluation (s : Settings) (r : EvaluationRequest) : Response × List Log.Event :=
  (match evaluate r.expression s.resultPrecision with
    | .ok value =>
      ⟨200, record [("expression", .text r.expression), ("result", .real value),
        ("display", .text value.text)]⟩
    | .error cause => refuseExpression cause,
    evaluationEvents r.expression s.resultPrecision)

/-- The answer to the request for the stages of an evaluation. -/
def answerOrdering (s : Settings) (r : EvaluationRequest) : Response × List Log.Event :=
  (match trace r.expression s.resultPrecision with
    | .ok t =>
      ⟨200, record [("expression", .text t.expression),
        ("tokens", .list (t.tokens.map tokenRecord)),
        ("postfix", .list (t.ordered.map tokenRecord)), ("result", .real t.value)]⟩
    | .error cause => refuseExpression cause,
    evaluationEvents r.expression s.resultPrecision)

/-- The answer to the request to press keys. -/
def answerKeys (s : Settings) (r : KeysRequest) : Response × List Log.Event :=
  let opened := Editor.start r.expression s.previewPlaceholder s.errorPlaceholder s.resultPrecision
  let pressed := opened.editor.handleKeys s.resultPrecision r.keys
  let e := pressed.editor
  (match opened.answer, pressed.answer with
    | .ok _, .ok _ =>
      ⟨200, record [("expression", .text e.expression), ("display", .text e.display),
        ("result_text", .text e.resultText)]⟩
    | _, _ => detail 500 (.text "Internal Server Error"),
    opened.events ++ pressed.events)

/-- The answer to what was read of a body, or the refusal of the body. -/
def answerRead {α : Type} (refusal : Refusal) (body : Option Datum) (read : Checked α)
    (answer : α → Response × List Log.Event) : Response × List Log.Event :=
  match read with
  | .ok r => answer r
  | .error issues => (refusal body issues, [])

/-- The answer of an endpoint to a body. -/
def answerAt (refusal : Refusal) (s : Settings) (body : Option Datum) :
    Endpoint → Response × List Log.Event
  | .health => (⟨200, record [("status", .text "healthy"), ("version", .text version)]⟩, [])
  | .configuration =>
    (⟨200, record [("app_name", .text s.appName), ("result_precision", .int s.resultPrecision),
      ("preview_placeholder", .text s.previewPlaceholder),
      ("error_placeholder", .text s.errorPlaceholder)]⟩, [])
  | .evaluation => answerRead refusal body (EvaluationRequest.read body) (answerEvaluation s)
  | .ordering => answerRead refusal body (EvaluationRequest.read body) (answerOrdering s)
  | .keys => answerRead refusal body (KeysRequest.read body) (answerKeys s)

/-- The answer to a request, and the events reported from the start of the
service on. -/
def respond (refusal : Refusal) (s : Settings) (r : Request) : Response × List Log.Event :=
  let started := Log.Event.serviceStarted s.appName version
  match Endpoint.ofPath? r.path with
  | none => (detail 404 (.text "Not Found"), [started])
  | some e =>
    if r.method.toUpper = e.method then
      let (response, events) := answerAt refusal s r.body e
      (response, started :: events)
    else (detail 405 (.text "Method Not Allowed"), [started])

/-- The refusal that lists the place, the code and the wording of each issue. -/
def listing : Refusal := fun _ issues =>
  detail 422 (.list (issues.map fun i =>
    record [("loc", .text i.location), ("type", .text i.complaint.code),
      ("msg", .text i.complaint.message)]))

/-- The answer to a request where bodies are refused by a listing. -/
def answer (s : Settings) (r : Request) : Response × List Log.Event := respond listing s r

end Reckoner.Service
