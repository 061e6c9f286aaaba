import Reckoner.Data.Datum
import Reckoner.Number.Scientific

/-!
# Keys of mappings

Two values are the same key if they are equal; truth values count as zero and
one, and a number is the same key however it is written, but `nan` is not even
the same key as itself. A key that is bound again keeps its first spelling and
its place, and takes the last value. Where keys must be texts, `Datum.keyText`
is the text of a key.
-/

namespace Reckoner.Datum

/-- The whole number that a value counts as in comparisons. -/
def whole? : Datum → Option Int
  | bool b => some (if b then 1 else 0)
  | int n => some n
  | real x => x.toInt?
  | _ => none

/-- Whether two values are the same key. -/
def isSameKey (a b : Datum) : Bool :=
  match a.whole?, b.whole? with
  | some m, some n => m == n
  | none, none =>
    match a, b with
    | null, null => true
    | real x, real y => x == y && x != .nan
    | text s, text t => s == t
    | moment s, moment t => s == t
    | octets os, octets ps => os == ps
    | _, _ => false
  | _, _ => false

/-- The entries with one more binding. -/
def bind (key value : Datum) : List (Datum × Datum) → List (Datum × Datum)
  | [] => [(key, value)]
  | entry :: rest =>
    if entry.1.isSameKey key then (entry.1, value) :: rest else entry :: bind key value rest

/-- The entries with one for each key. -/
def distinct (entries : List (Datum × Datum)) : List (Datum × Datum) :=
  entries.foldl (fun bound entry => bind entry.1 entry.2 bound) []

/-- The mapping that binds some keys one after another. -/
def ofEntries (entries : List (Datum × Datum)) : Datum := map (distinct entries)

/-- The text of a key that has no parts. -/
def keyText : Datum → String
  | null => "null"
  | bool b => if b then "true" else "false"
  | int n => toString n
  | real x => x.shortText
  | text s => s
  | moment written => written
  | octets _ | list _ | map _ => ""

@[simp] theorem bind_nil (key value : Datum) : bind key value [] = [(key, value)] := rfl

end Reckoner.Datum
