import Reckoner.Proofs.Editor.Keys
import Reckoner.Service.Answer

/-!
# Requests that are posted

A record that is posted to an endpoint is read back field by field, so an expression
and keys within their bounds arrive as they were sent (`read_expressionFields`,
`read_keysFields`). Keys that are posted are answered with the state of an editor after
these keys (`posted_keys`). Whatever is requested, the service itself does not fail
(`respond_cases`): nothing keeps a text from having a value but a failure, and no key
is refused. It has no say in the answer to a body that cannot be read.
-/

namespace Reckoner

theorem Datum.fields?_record (fields : Fields) : (Service.record fields).fields? = some fields := by
  rw [Service.record, Datum.fields?, List.mapM_map]
  induction fields with
  | nil => rfl
  | cons field fields ih =>
      rw [List.mapM_cons, ih]
      rfl

namespace Service

/-- The response to a request that posts some fields to an endpoint. -/
def posted (refusal : Refusal) (s : Settings) (e : Endpoint) (fields : Fields) : Response :=
  (respond refusal s ⟨"POST", e.path, some (record fields)⟩).1

/-- The fields of a request for an evaluation. -/
def expressionFields (text : String) : Fields := [("expression", .text text)]

/-- The fields of a request to press keys. -/
def keysFields (text : String) (keys : List String) : Fields :=
  [("expression", .text text), ("keys", .list (keys.map .text))]

/-- What is shown of an editor. -/
def stateRecord (expression display resultText : String) : Datum :=
  record [("expression", .text expression), ("display", .text display),
    ("result_text", .text resultText)]

/-! ### Reading what was posted -/

theorem ofPath?_path (e : Endpoint) : Endpoint.ofPath? e.path = some e := by
  cases e <;> decide +kernel

/-- The service answers what is posted to an endpoint as the endpoint does. -/
theorem posted_eq (refusal : Refusal) (s : Settings) {e : Endpoint} (h : e.method = "POST")
    (fields : Fields) :
    posted refusal s e fields = (answerAt refusal s (some (record fields)) e).1 := by
  have hmethod : "POST".toUpper = e.method := by
    rw [h]
    decide +kernel
  rw [posted, respond, ofPath?_path]
  simp only [hmethod, if_true]

theorem readBody_record {α : Type} (fields : Fields) (read : Fields → Checked α) :
    readBody (some (record fields)) read = Checked.within "body" (read fields) := by
  have hfields : bodyFields (some (record fields)) = .ok fields := by
    have h := Datum.fields?_record fields
    rw [record] at h ⊢
    simp only [bodyFields, h]
  rw [readBody, hfields]

theorem boundedText_text {text : String} (h : text.length ≤ mostCharacters) :
    boundedText (.text text) = .ok text := by
  rw [boundedText, Reading.text_text, Except.ok_bind_eq, if_neg (Nat.not_lt.2 h)]

theorem boundedTexts_texts {texts : List String} (h : texts.length ≤ mostKeys) :
    boundedTexts (.list (texts.map .text)) = .ok texts := by
  rw [boundedTexts, List.length_map, if_neg (Nat.not_lt.2 h), Reading.texts_texts]

theorem read_expressionFields {text : String} (h : text.length ≤ mostCharacters) :
    EvaluationRequest.read (some (record (expressionFields text))) = .ok ⟨text⟩ := by
  have hfind : Fields.find? (expressionFields text) "expression" = some (.text text) := by
    simp [expressionFields, Fields.find?]
  rw [EvaluationRequest.read, readBody_record, expressionField, bodyField, hfind]
  simp only [boundedText_text h]
  rfl

theorem read_keysFields {text : String} {keys : List String} (h : text.length ≤ mostCharacters)
    (hkeys : keys.length ≤ mostKeys) :
    KeysRequest.read (some (record (keysFields text keys))) = .ok ⟨text, keys⟩ := by
  have hfind : Fields.find? (keysFields text keys) "expression" = some (.text text) := by
    simp [keysFields, Fields.find?]
  have hfind' : Fields.find? (keysFields text keys) "keys" = some (.list (keys.map .text)) := by
    simp [keysFields, Fields.find?]
  rw [KeysRequest.read, readBody_record, expressionField, bodyField, bodyField, hfind, hfind']
  simp only [boundedText_text h, boundedTexts_texts hkeys]
  rfl

/-! ### Answers -/

/-- The editor that the service opens on an expression. -/
def opened (s : Settings) (text : String) : Editor :=
  (Editor.start text s.previewPlaceholder s.errorPlaceholder s.resultPrecision).editor

theorem expression_opened (s : Settings) (text : String) : (opened s text).expression = text := by
  rw [opened, Editor.editor_start]
  rfl

theorem placeholders_opened (s : Settings) (text : String) :
    (opened s text).previewPlaceholder = s.previewPlaceholder ∧
      (opened s text).errorPlaceholder = s.errorPlaceholder := by
  rw [opened, Editor.editor_start]
  exact ⟨rfl, rfl⟩

/-- The editor after the keys of a request. -/
def replayed (s : Settings) (text : String) (keys : List String) : Editor :=
  (opened s text).run s.resultPrecision (keys.map .key)

/-- Keys are answered with what an editor shows after them. -/
theorem response_answerKeys (s : Settings) (r : KeysRequest) :
    (answerKeys s r).1 = ⟨200, stateRecord (replayed s r.expression r.keys).expression
      (replayed s r.expression r.keys).display (replayed s r.expression r.keys).resultText⟩ := by
  obtain ⟨hanswer, heditor⟩ :=
    Editor.handleKeys_eq s.resultPrecision r.keys (opened s r.expression)
  rw [opened] at hanswer heditor
  have hstart := Editor.answer_preview s.resultPrecision
    { expression := r.expression, previewPlaceholder := s.previewPlaceholder,
      errorPlaceholder := s.errorPlaceholder, resultText := "" }
  rw [← Editor.start] at hstart
  rw [answerKeys]
  simp only [hanswer, hstart, heditor]
  rfl

theorem posted_keys (refusal : Refusal) (s : Settings) {text : String} {keys : List String}
    (h : text.length ≤ mostCharacters) (hkeys : keys.length ≤ mostKeys) :
    posted refusal s .keys (keysFields text keys) =
      ⟨200, stateRecord (replayed s text keys).expression (replayed s text keys).display
        (replayed s text keys).resultText⟩ := by
  rw [posted_eq refusal s rfl, answerAt, read_keysFields h hkeys, answerRead]
  exact response_answerKeys s ⟨text, keys⟩

theorem posted_evaluation (refusal : Refusal) (s : Settings) {text : String}
    (h : text.length ≤ mostCharacters) :
    posted refusal s .evaluation (expressionFields text) = (answerEvaluation s ⟨text⟩).1 := by
  rw [posted_eq refusal s rfl, answerAt, read_expressionFields h, answerRead]

theorem posted_ordering (refusal : Refusal) (s : Settings) {text : String}
    (h : text.length ≤ mostCharacters) :
    posted refusal s .ordering (expressionFields text) = (answerOrdering s ⟨text⟩).1 := by
  rw [posted_eq refusal s rfl, answerAt, read_expressionFields h, answerRead]

/-! ### No failure of the service -/

theorem status_answerEvaluation_ne (s : Settings) (r : EvaluationRequest) :
    (answerEvaluation s r).1.status ≠ 500 := by
  rw [answerEvaluation]
  rcases evaluate_ok_or_failure r.expression s.resultPrecision with ⟨value, h, -⟩ | ⟨cause, h⟩
  · simp [h]
  · simp [h, refuseExpression]

theorem status_answerOrdering_ne (s : Settings) (r : EvaluationRequest) :
    (answerOrdering s r).1.status ≠ 500 := by
  rw [answerOrdering]
  rcases evaluate_ok_or_failure r.expression s.resultPrecision with ⟨value, h, -⟩ | ⟨cause, h⟩
  · obtain ⟨t, ht, -⟩ := exists_trace_of_evaluate h
    simp [ht]
  · simp [trace_of_evaluate_eq_error h, refuseExpression]

theorem status_answerKeys_ne (s : Settings) (r : KeysRequest) :
    (answerKeys s r).1.status ≠ 500 := by
  simp [response_answerKeys]

/-- The request is for an endpoint, and asks it in the way that it answers to. -/
def Request.IsFor (r : Request) (e : Endpoint) : Prop :=
  Endpoint.ofPath? r.path = some e ∧ r.method.toUpper = e.method

/-- An endpoint cannot read a body, for some issues. -/
inductive Unreadable (body : Option Datum) : Endpoint → List Issue → Prop where
  | evaluation {issues : List Issue} (h : EvaluationRequest.read body = .error issues) :
    Unreadable body .evaluation issues
  | ordering {issues : List Issue} (h : EvaluationRequest.read body = .error issues) :
    Unreadable body .ordering issues
  | keys {issues : List Issue} (h : KeysRequest.read body = .error issues) :
    Unreadable body .keys issues

theorem answerRead_cases {α : Type} (refusal : Refusal) (body : Option Datum) (read : Checked α)
    {answer : α → Response × List Log.Event} (h : ∀ r, (answer r).1.status ≠ 500) :
    (answerRead refusal body read answer).1.status ≠ 500 ∨
      ∃ issues, read = .error issues ∧
        (answerRead refusal body read answer).1 = refusal body issues := by
  cases read with
  | ok r => exact .inl (h r)
  | error issues => exact .inr ⟨issues, rfl, rfl⟩

/-- An endpoint does not fail, or the body is refused before it is asked. -/
theorem answerAt_cases (refusal : Refusal) (s : Settings) (body : Option Datum) (e : Endpoint) :
    (answerAt refusal s body e).1.status ≠ 500 ∨
      ∃ issues, Unreadable body e issues ∧
        (answerAt refusal s body e).1 = refusal body issues := by
  cases e with
  | health => exact .inl (by simp [answerAt])
  | configuration => exact .inl (by simp [answerAt])
  | evaluation =>
      refine (answerRead_cases refusal body _ (status_answerEvaluation_ne s)).imp_right ?_
      rintro ⟨issues, hissues, hrefused⟩
      exact ⟨issues, .evaluation hissues, hrefused⟩
  | ordering =>
      refine (answerRead_cases refusal body _ (status_answerOrdering_ne s)).imp_right ?_
      rintro ⟨issues, hissues, hrefused⟩
      exact ⟨issues, .ordering hissues, hrefused⟩
  | keys =>
      refine (answerRead_cases refusal body _ (status_answerKeys_ne s)).imp_right ?_
      rintro ⟨issues, hissues, hrefused⟩
      exact ⟨issues, .keys hissues, hrefused⟩

/-- Nothing that is requested makes the service fail, or the body is refused before an endpoint
is asked. -/
theorem respond_cases (refusal : Refusal) (s : Settings) (r : Request) :
    (respond refusal s r).1.status ≠ 500 ∨
      ∃ e issues, r.IsFor e ∧ Unreadable r.body e issues ∧
        (respond refusal s r).1 = refusal r.body issues := by
  rw [respond]
  cases hpath : Endpoint.ofPath? r.path with
  | none => exact .inl (by simp [detail])
  | some e =>
      dsimp only
      split
      · next hmethod =>
        refine (answerAt_cases refusal s r.body e).imp_right ?_
        rintro ⟨issues, hissues, hrefused⟩
        exact ⟨e, issues, ⟨hpath, hmethod⟩, hissues, hrefused⟩
      · exact .inl (by simp [detail])

end Service

end Reckoner
