import Reckoner.Number.Binary64

/-!
# Data without a schema

`Datum` is a value of a data format, as a configuration file or a request body
holds it, before anything is known about its meaning. A mapping keeps its
entries in order; where a key is bound more than once, the last binding counts.
-/

namespace Reckoner

/-- A value of a data format. -/
inductive Datum where
  | null
  | bool (b : Bool)
  | int (n : Int)
  | real (x : Binary64)
  | text (s : String)
  | moment (written : String)
  | octets (os : List UInt8)
  | list (items : List Datum)
  | map (entries : List (Datum × Datum))

namespace Datum

instance : Inhabited Datum := ⟨null⟩

/-- Whether a value counts as absent: nothing, false, zero, or without parts. -/
def isVoid : Datum → Bool
  | null => true
  | bool b => !b
  | int n => n == 0
  | real x => x.isZero
  | text s => s == ""
  | moment _ => false
  | octets os => os.isEmpty
  | list items => items.isEmpty
  | map entries => entries.isEmpty

/-- The text that a value is, if it is one. -/
def text? : Datum → Option String
  | text s => some s
  | _ => none

end Datum

/-- The named fields of a record without a schema, in order. -/
abbrev Fields := List (String × Datum)

namespace Fields

/-- The last value bound to a name. -/
def find? (fields : Fields) (name : String) : Option Datum :=
  match fields with
  | [] => none
  | (key, value) :: rest =>
    match find? rest name with
    | some later => some later
    | none => if key = name then some value else none

@[simp] theorem find?_nil (name : String) : find? [] name = none := rfl

/-- The bindings of the second record count before those of the first. -/
theorem find?_append (first second : Fields) (name : String) :
    find? (first ++ second) name = (find? second name).or (find? first name) := by
  induction first with
  | nil => cases h : find? second name <;> simp [find?, h]
  | cons entry rest ih =>
    obtain ⟨key, value⟩ := entry
    simp only [List.cons_append, find?, ih]
    cases find? second name <;> simp

/-- Bindings of other names do not matter. -/
theorem find?_filter (fields : Fields) {p : String → Bool} {name : String} (h : p name = true) :
    find? (fields.filter fun entry => p entry.1) name = find? fields name := by
  induction fields with
  | nil => rfl
  | cons entry rest ih =>
    obtain ⟨key, value⟩ := entry
    rw [List.filter_cons]
    by_cases hkey : p key = true
    · rw [if_pos hkey, find?, find?, ih]
    · have hne : key ≠ name := by
        rintro rfl
        exact hkey h
      rw [if_neg hkey, ih, find?, if_neg hne]
      cases find? rest name <;> rfl

end Fields

/-- The fields of a mapping whose keys are all texts. -/
def Datum.fields? : Datum → Option Fields
  | .map entries => entries.mapM fun entry => entry.1.text?.map (·, entry.2)
  | _ => none

end Reckoner
