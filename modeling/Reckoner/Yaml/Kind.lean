import Reckoner.Number.Numeral
import Reckoner.Yaml.Moment

/-!
# Types of scalars and collections

Every type has a tag. A plain scalar has the type that its text has the form of:
truth values by word, whole numbers with bases and in base sixty, numbers with a
point, moments in time, nothing at all, the marks of merging, of default values
and of indicators, and otherwise text. `Kind.ofText` finds the type.
-/

namespace Reckoner.Yaml

/-- The types of scalars and collections that have a value. -/
inductive Kind where
  | null | bool | int | float | moment | merge | default | mark | text
  | binary | pairs | orderedMap | set | sequence | mapping
deriving DecidableEq

namespace Kind

/-- The start of the tags of all types. -/
def tagStart : String := "tag:yaml.org,2002:"

/-- The tag of a type. -/
def tag (k : Kind) : String :=
  tagStart ++ match k with
    | null => "null"
    | bool => "bool"
    | int => "int"
    | float => "float"
    | moment => "timestamp"
    | merge => "merge"
    | default => "value"
    | mark => "yaml"
    | text => "str"
    | binary => "binary"
    | pairs => "pairs"
    | orderedMap => "omap"
    | set => "set"
    | sequence => "seq"
    | mapping => "map"

/-- All types. -/
def all : List Kind :=
  [null, bool, int, float, moment, merge, default, mark, text, binary, pairs, orderedMap, set,
    sequence, mapping]

/-- The type of a tag. -/
def ofTag? (tag : String) : Option Kind := all.find? (·.tag == tag)

/-- Whether the values of a type have parts. -/
def isCollection : Kind → Bool
  | pairs | orderedMap | set | sequence | mapping => true
  | _ => false

@[simp] theorem ofTag?_tag (k : Kind) : ofTag? k.tag = some k := by
  cases k <;> decide

end Kind

/-! ### Forms -/

/-- The words for nothing. -/
def nullWords : List String := ["", "~", "null", "Null", "NULL"]

/-- The words for true. -/
def trueWords : List String := ["yes", "Yes", "YES", "true", "True", "TRUE", "on", "On", "ON"]

/-- The words for false. -/
def falseWords : List String := ["no", "No", "NO", "false", "False", "FALSE", "off", "Off", "OFF"]

/-- Whether `c` is a digit or an underscore. -/
def isDigitOrBar (c : Char) : Bool := c.isDigit || c == '_'

/-- The text after a sign, if it has one. -/
def unsigned (cs : List Char) : List Char := (Numeral.splitSign cs).2

/-- The groups of a number in base sixty after the first: a colon and one or two
digits below sixty. The rest after them is returned with whether there was
one. -/
def sixtyGroups : Nat → List Char → Bool × List Char
  | 0, cs => (false, cs)
  | fuel + 1, cs =>
    match cs with
    | ':' :: a :: b :: rest =>
      if a.isDigit ∧ a < '6' ∧ b.isDigit then (true, (sixtyGroups fuel rest).2)
      else if a.isDigit then (true, (sixtyGroups fuel (b :: rest)).2)
      else (false, cs)
    | [':', a] => if a.isDigit then (true, []) else (false, cs)
    | _ => (false, cs)

/-- Whether an unsigned text is a whole number. -/
def isIntForm (cs : List Char) : Bool :=
  match cs with
  | ['0'] => true
  | '0' :: 'b' :: rest => !rest.isEmpty && rest.all fun c => c == '0' || c == '1' || c == '_'
  | '0' :: 'x' :: rest => !rest.isEmpty && rest.all fun c => (Text.hexValue? c).isSome || c == '_'
  | '0' :: rest => rest.all fun c => ('0' ≤ c && c ≤ '7') || c == '_'
  | c :: rest =>
    c.isDigit &&
      (rest.all isDigitOrBar ||
        sixtyGroups rest.length (rest.dropWhile isDigitOrBar) == (true, []))
  | [] => false

/-- Whether a text is empty or a signed power of ten. -/
def isPowerForm (cs : List Char) : Bool :=
  match cs with
  | [] => true
  | e :: sign :: digits =>
    (e == 'e' || e == 'E') && (sign == '+' || sign == '-') && !digits.isEmpty &&
      digits.all Char.isDigit
  | _ => false

/-- Whether a text is a number with a point. A number that starts with its point
has no sign. -/
def isFloatForm (cs : List Char) : Bool :=
  let body := unsigned cs
  match body with
  | '.' :: rest =>
    ["inf", "Inf", "INF"].contains (String.ofList rest) ||
      (["nan", "NaN", "NAN"].contains (String.ofList rest) && cs == body) ||
      (rest.head?.any Char.isDigit && cs == body && isPowerForm (rest.dropWhile isDigitOrBar))
  | c :: rest =>
    c.isDigit &&
      match rest.dropWhile isDigitOrBar with
      | '.' :: fraction => isPowerForm (fraction.dropWhile isDigitOrBar)
      | after =>
        match sixtyGroups after.length after with
        | (true, '.' :: fraction) => fraction.all isDigitOrBar
        | _ => false
  | [] => false

/-- The text without a line end at its end. -/
def withoutFinalBreak (cs : List Char) : List Char :=
  if cs.getLast? = some '\n' then cs.dropLast else cs

/-- The type that a text without a line end at its end has the form of. -/
def Kind.ofLine (cs : List Char) : Kind :=
  let s := String.ofList cs
  if trueWords.contains s ∨ falseWords.contains s then .bool
  else if isFloatForm cs then .float
  else if isIntForm (unsigned cs) then .int
  else if s = "<<" then .merge
  else if nullWords.contains s then .null
  else if Moment.isForm cs then .moment
  else if s = "=" then .default
  else if ["!", "&", "*"].contains s then .mark
  else .text

/-- The type of a plain scalar. A line end at its end does not count, unless
there is nothing else. -/
def Kind.ofText (s : String) : Kind :=
  if s = "\n" then .text else .ofLine (withoutFinalBreak s.toList)

end Reckoner.Yaml
