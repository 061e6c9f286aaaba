import Reckoner.Data.Key
import Reckoner.Text.LineEnds
import Reckoner.Yaml.Node
import Reckoner.Yaml.Scalar

/-!
# The value of a document

A node has the value that its tag and its text or parts give it. A collection
cannot be a key. A mapping with the tag of a scalar stands for the text of its
default value. A document without a value, or with a value that counts as
absent, is read as a mapping without entries.

The parts of a document are valued from the outside in: of several errors, the
one in the outermost collection counts, and of those the first.
-/

namespace Reckoner.Yaml

/-- A value, or an error with the number of collections around its place. -/
abbrev Valued (α : Type) := Except (Nat × Error) α

namespace Valued

/-- What is found at the place itself. -/
def here {α : Type} (r : Except Error α) : Valued α := r.mapError (0, ·)

/-- What is found inside of one more collection. -/
def inside {α : Type} (x : Valued α) : Valued α := x.mapError fun e => (e.1 + 1, e.2)

/-- A node has no value. -/
def refuse {α : Type} : Valued α := .error (0, .value)

/-- Two parts side by side. Of two errors the outer one counts. -/
def both {α β γ : Type} (f : α → β → γ) (x : Valued α) (y : Valued β) : Valued γ :=
  match x, y with
  | .ok a, .ok b => .ok (f a b)
  | .error e, .ok _ => .error e
  | .ok _, .error e => .error e
  | .error e, .error e' => .error (if e'.1 < e.1 then e' else e)

end Valued

namespace Node

/-- Whether the value of a node has parts. -/
def isCollection (n : Node) : Bool := n.kind?.any (·.isCollection)

mutual

/-- The text of a scalar; a mapping stands for its first default value. -/
def text? : Node → Option String
  | scalar _ text => some text
  | sequence .. => none
  | mapping _ entries _ => defaultText? entries

@[inherit_doc text?]
def defaultText? : List (Node × Node) → Option String
  | [] => none
  | (k, v) :: rest => if k.hasKind .default then text? v else defaultText? rest

end

/-- The value of a node whose tag is that of a scalar. -/
def scalarValue (k : Kind) (n : Node) : Except Error Datum :=
  match n.text? with
  | none => .error .value
  | some text =>
    match k, n with
    | .moment, mapping .. => .error (.content .momentInMapping)
    | _, _ => Scalar.value k text

/-- Read the parts of a collection if the node is of the right shape, and a
scalar otherwise. -/
def collected (n : Node) (sequences pairs : Valued Datum) (mappings sets : Valued Datum) :
    Valued Datum :=
  match n.kind? with
  | none => .refuse
  | some .sequence => sequences.inside
  | some .pairs | some .orderedMap => pairs.inside
  | some .mapping => mappings.inside
  | some .set => sets.inside
  | some k => .here (scalarValue k n)

mutual

/-- The value of a node. -/
def value : Node → Valued Datum
  | scalar tag text => (scalar tag text).collected .refuse .refuse .refuse .refuse
  | sequence tag items =>
    (sequence tag items).collected ((itemValues items).map .list) ((pairValues items).map .list)
      .refuse .refuse
  | mapping tag entries merged? =>
    (mapping tag entries merged?).collected .refuse .refuse
      ((mergedValues merged?).map Datum.ofEntries)
      ((mergedValues merged?).map fun es => .list ((Datum.distinct es).map (·.1)))

/-- The values of some nodes. -/
def itemValues : List Node → Valued (List Datum)
  | [] => .ok []
  | n :: rest => .both (· :: ·) (value n) (itemValues rest)

/-- The pairs that mappings with one entry each stand for. -/
def pairValues : List Node → Valued (List Datum)
  | [] => .ok []
  | mapping _ [(k, v)] _ :: rest =>
    .both (· :: ·) (.both (fun key value => .list [key, value]) (value k) (value v))
      (pairValues rest)
  | _ :: _ => .refuse

/-- The keys and values of some entries. -/
def entryValues : List (Node × Node) → Valued (List (Datum × Datum))
  | [] => .ok []
  | (k, v) :: rest =>
    if k.isCollection then .refuse
    else .both (· :: ·) (.both Prod.mk (value k) (value v)) (entryValues rest)

/-- The keys and values of a mapping after merging. -/
def mergedValues : Option (List (Node × Node)) → Valued (List (Datum × Datum))
  | none => .refuse
  | some entries => entryValues entries

end

end Node

/-- The value of the document in a text from outside. -/
def read (s : String) : Except Error Datum := do
  match ← Node.ofText? (Text.unifyLineEnds s.toList) with
  | none => .ok (.map [])
  | some n =>
    match n.value with
    | .ok d => .ok (if d.isVoid then .map [] else d)
    | .error (_, e) => .error e

end Reckoner.Yaml
