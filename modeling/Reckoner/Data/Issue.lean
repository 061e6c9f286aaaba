/-!
# What is wrong with a value

`Complaint` lists the reasons for which a value is refused, each with a stable
code and a wording. An `Issue` is a complaint with the path to the value that it
is about. `Checked` collects issues: a record is read field by field, and all
its fields are read before the issues of any are answered.
-/

namespace Reckoner

/-- Why a value is refused. -/
inductive Complaint where
  | missing
  | notRecord
  | notText
  | undecodableText
  | textTooLong (most : Nat)
  | notList
  | listTooLong (most actual : Nat)
  | notInteger
  | unreadableInteger
  | oversizedInteger
  | fractionalInteger
  | notFinite
  | tooSmall (least : Int)
  | tooLarge (most : Int)
  | notBoolean
  | unreadableBoolean
  | notLevel
deriving DecidableEq

namespace Complaint

/-- The stable code of a complaint. -/
def code : Complaint → String
  | missing => "missing"
  | notRecord => "model_attributes_type"
  | notText => "string_type"
  | undecodableText => "string_unicode"
  | textTooLong _ => "string_too_long"
  | notList => "list_type"
  | listTooLong .. => "too_long"
  | notInteger => "int_type"
  | unreadableInteger => "int_parsing"
  | oversizedInteger => "int_parsing_size"
  | fractionalInteger => "int_from_float"
  | notFinite => "finite_number"
  | tooSmall _ => "greater_than_equal"
  | tooLarge _ => "less_than_equal"
  | notBoolean => "bool_type"
  | unreadableBoolean => "bool_parsing"
  | notLevel => "literal_error"

/-- The wording of a complaint. -/
def message : Complaint → String
  | missing => "Field required"
  | notRecord => "Input should be a valid dictionary or object to extract fields from"
  | notText => "Input should be a valid string"
  | undecodableText =>
    "Input should be a valid string, unable to parse raw data as a unicode string"
  | textTooLong most => "String should have at most " ++ toString most ++ " characters"
  | notList => "Input should be a valid list"
  | listTooLong most actual =>
    "List should have at most " ++ toString most ++ " items after validation, not " ++
      toString actual
  | notInteger => "Input should be a valid integer"
  | unreadableInteger => "Input should be a valid integer, unable to parse string as an integer"
  | oversizedInteger => "Unable to parse input string as an integer, exceeded maximum size"
  | fractionalInteger => "Input should be a valid integer, got a number with a fractional part"
  | notFinite => "Input should be a finite number"
  | tooSmall least => "Input should be greater than or equal to " ++ toString least
  | tooLarge most => "Input should be less than or equal to " ++ toString most
  | notBoolean => "Input should be a valid boolean"
  | unreadableBoolean => "Input should be a valid boolean, unable to interpret input"
  | notLevel => "Input should be 'DEBUG', 'INFO', 'WARNING', 'ERROR' or 'CRITICAL'"

end Complaint

/-- A complaint with the path to the value that it is about, outermost name
first. -/
structure Issue where
  path : List String
  complaint : Complaint
deriving DecidableEq

namespace Issue

/-- The path with points between its names. -/
def location (i : Issue) : String := ".".intercalate i.path

/-- The same issue, seen from one level further out. -/
def within (name : String) (i : Issue) : Issue := { i with path := name :: i.path }

end Issue

/-- A value, or the issues that keep it from being read. -/
abbrev Checked (α : Type) := Except (List Issue) α

namespace Checked

/-- The value that an unnested reading gives. -/
def ofComplaint {α : Type} (r : Except Complaint α) : Checked α :=
  r.mapError fun c => [⟨[], c⟩]

/-- A reading seen from one level further out. -/
def within {α : Type} (name : String) (r : Checked α) : Checked α :=
  r.mapError (·.map (Issue.within name))

/-- Apply a read function to a read value. The issues of both are kept. -/
def ap {α β : Type} (f : Checked (α → β)) (x : Checked α) : Checked β :=
  match f, x with
  | .ok f, .ok x => .ok (f x)
  | .error is, .ok _ => .error is
  | .ok _, .error js => .error js
  | .error is, .error js => .error (is ++ js)

/-- Read every item of a list; an item is named by its position. -/
def items {α β : Type} (read : α → Checked β) (position : Nat) : List α → Checked (List β)
  | [] => .ok []
  | a :: rest =>
    ap ((within (toString position) (read a)).map List.cons) (items read (position + 1) rest)

theorem ap_eq_ok_iff {α β : Type} {f : Checked (α → β)} {x : Checked α} {b : β} :
    ap f x = .ok b ↔ ∃ g a, f = .ok g ∧ x = .ok a ∧ g a = b := by
  cases f <;> cases x <;> simp [ap]

@[simp] theorem items_nil {α β : Type} (read : α → Checked β) (position : Nat) :
    items read position [] = .ok [] := rfl

end Checked

end Reckoner
