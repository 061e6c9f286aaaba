import Reckoner.Data.Reading

/-!
# Requests to the service

What a client sends, and how the body of a request is read. Texts and lists are
not converted here; they have a greatest length. Every field that is wrong is
reported, in the order of the fields.
-/

namespace Reckoner.Service

/-- A request: its method, its path, and its body if it has one. -/
structure Request where
  method : String
  path : String
  body : Option Datum

/-- The longest expression that is accepted, in characters. -/
def mostCharacters : Nat := 4096

/-- The greatest number of keys that is accepted. -/
def mostKeys : Nat := 1024

/-- An expression that is to be evaluated. -/
structure EvaluationRequest where
  expression : String
deriving DecidableEq

/-- Keys that are to be pressed on an expression. -/
structure KeysRequest where
  expression : String
  keys : List String
deriving DecidableEq

/-- A text of bounded length. -/
def boundedText (d : Datum) : Except Complaint String := do
  let s ← Reading.text d
  if mostCharacters < s.length then .error (.textTooLong mostCharacters) else .ok s

/-- A list of texts of bounded length. The length is complained of first. -/
def boundedTexts : Datum → Checked (List String)
  | .list ds =>
    if mostKeys < ds.length then Checked.ofComplaint (.error (.listTooLong mostKeys ds.length))
    else Reading.texts (.list ds)
  | d => Reading.texts d

/-- A field of a body; `absent` is the value of a field that is not given. -/
def bodyField {α : Type} (body : Fields) (name : String) (read : Datum → Checked α)
    (absent : Except Complaint α) : Checked α :=
  Checked.within name <|
    match body.find? name with
    | some d => read d
    | none => Checked.ofComplaint absent

/-- The fields of a body. A body that is not given is missing as a whole. -/
def bodyFields : Option Datum → Except Complaint Fields
  | none | some .null => .error .missing
  | some d =>
    match d.fields? with
    | some fields => .ok fields
    | none => .error .notRecord

/-- Read the body of a request by its fields. -/
def readBody {α : Type} (body : Option Datum) (read : Fields → Checked α) : Checked α :=
  Checked.within "body" <|
    match bodyFields body with
    | .ok fields => read fields
    | .error complaint => Checked.ofComplaint (.error complaint)

/-- The expression of a body. -/
def expressionField (fields : Fields) (absent : Except Complaint String) : Checked String :=
  bodyField fields "expression" (fun d => Checked.ofComplaint (boundedText d)) absent

/-- Read the request for an evaluation. -/
def EvaluationRequest.read (body : Option Datum) : Checked EvaluationRequest :=
  readBody body fun fields =>
    (expressionField fields (.error .missing)).map EvaluationRequest.mk

/-- Read the request for keys. Without an expression the editor starts empty. -/
def KeysRequest.read (body : Option Datum) : Checked KeysRequest :=
  readBody body fun fields =>
    Checked.ap ((expressionField fields (.ok "")).map KeysRequest.mk)
      (bodyField fields "keys" boundedTexts (.ok []))

end Reckoner.Service
