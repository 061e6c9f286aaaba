import Reckoner.Data.Datum
import Reckoner.Data.Issue
import Reckoner.Number.Integer
import Reckoner.Text.Blank

/-!
# Reading values of a known type

A reader turns a value of a data format into a value of a type, or complains.
Texts and lists must be texts and lists. Numbers and truth values are read
generously: a whole number may be a truth value, a number without fraction or a
text of digits, and a truth value may be zero, one or one of a few words.
-/

namespace Reckoner.Reading

/-- The text that octets encode. -/
def decoded? (octets : List UInt8) : Option String := String.fromUTF8? ⟨octets.toArray⟩

/-- A text; octets stand for the text that they encode. -/
def text : Datum → Except Complaint String
  | .text s => .ok s
  | .octets os =>
    match decoded? os with
    | some s => .ok s
    | none => .error .undecodableText
  | _ => .error .notText

/-- The blanks that may surround a whole number. -/
def isPadding (c : Char) : Bool :=
  Text.isBlank c && !(0x1c ≤ c.toNat && c.toNat ≤ 0x1f)

/-- The digits after the leading zeros of a text of digits; `last` is the
character before the text. One zero is kept if nothing or a point follows, and
underscores between the zeros are dropped with them. A minus may follow the
zeros. -/
def afterZeros? (last : Char) : List Char → Option (List Char)
  | [] => some [last]
  | c :: rest =>
    if c = '0' ∨ c = '_' then afterZeros? c rest
    else if c.isDigit ∨ c = '-' then some (c :: rest)
    else if c = '.' then some (last :: c :: rest)
    else none

/-- The text without its leading zeros; a digit must come first. -/
def withoutZeros? : List Char → Option (List Char)
  | [] => none
  | c :: rest =>
    if c = '0' then afterZeros? c rest
    else if c.isDigit then some (c :: rest)
    else none

/-- The text without a fraction of zeros at its end. -/
def withoutFraction (cs : List Char) : List Char :=
  match cs.dropWhile (· != '.') with
  | _ :: zeros =>
    if zeros ≠ [] ∧ zeros.all (· == '0') then cs.takeWhile (· != '.') else cs
  | [] => cs

/-- The unsigned text without zeros, a fraction and underscores that do not
change its number. -/
def withoutOrnament? (cs : List Char) : Option (List Char) := do
  Integer.withoutUnderscores? (withoutFraction (← withoutZeros? cs))

/-- The plain form of a whole number: between blanks there may be one sign, and
what follows it may be ornamented. A plus is dropped. -/
def plainForm? (cs : List Char) : Option (List Char) :=
  match Text.trim isPadding cs with
  | '+' :: '-' :: _ => none
  | '+' :: rest => withoutOrnament? rest
  | '-' :: rest => (withoutOrnament? rest).map ('-' :: ·)
  | rest => withoutOrnament? rest

/-- A run of digits that starts with zero only if it is zero. -/
def canonicalNatural? (cs : List Char) : Option Nat :=
  if cs = [] ∨ !cs.all Char.isDigit ∨ (cs.head? = some '0' ∧ cs.length ≠ 1) then none
  else some (Nat.ofDigitChars 10 cs 0)

/-- The whole number in plain form: an optional minus and digits. -/
def plainInteger? : List Char → Option Int
  | '-' :: rest => (canonicalNatural? rest).map fun n => -(n : Int)
  | cs => (canonicalNatural? cs).map Int.ofNat

/-- Whether a text starts with a whole number in plain form that has more than
`Integer.mostDigits` characters, the minus among them. -/
def startsOversized (cs : List Char) : Bool :=
  let (sign, body) := match cs with
    | '-' :: rest => (1, rest)
    | cs => (0, cs)
  body.head? != some '0' && Integer.mostDigits < sign + (body.takeWhile Char.isDigit).length

/-- The whole number that a text stands for. A text that starts out too long as
it stands is told apart from one that cannot be read. -/
def integerOfText (s : String) : Except Complaint Int :=
  let cs := s.toList
  if startsOversized cs then .error .oversizedInteger
  else
    match (plainForm? cs).filter (!startsOversized ·) >>= plainInteger? with
    | some n => .ok n
    | none => .error .unreadableInteger

/-- A whole number from a number; past 63 bits there is none. -/
def integerOfReal (x : Binary64) : Except Complaint Int :=
  if !x.isFinite then .error .notFinite
  else
    match x.toInt? with
    | none => .error .fractionalInteger
    | some n => if n.natAbs < twoTo 63 then .ok n else .error .oversizedInteger

/-- A whole number. -/
def integer : Datum → Except Complaint Int
  | .int n => .ok n
  | .bool b => .ok (if b then 1 else 0)
  | .real x => integerOfReal x
  | .text s => integerOfText s
  | .octets os =>
    match decoded? os with
    | some s => integerOfText s
    | none => .error .unreadableInteger
  | _ => .error .notInteger

/-- A whole number between two bounds. -/
def integerBetween (least most : Int) (d : Datum) : Except Complaint Int := do
  let n ← integer d
  if n < least then .error (.tooSmall least)
  else if most < n then .error (.tooLarge most)
  else .ok n

/-- The words for false and for true. -/
def falseWords : List String := ["0", "off", "f", "false", "n", "no"]

@[inherit_doc falseWords]
def trueWords : List String := ["1", "on", "t", "true", "y", "yes"]

/-- The truth value of a whole number. One that does not fit in 64 bits is not
taken for a truth value at all. -/
def booleanOfInt (n : Int) : Except Complaint Bool :=
  if n = 0 then .ok false
  else if n = 1 then .ok true
  else if -(twoTo 63 : Int) ≤ n ∧ n < twoTo 63 then .error .unreadableBoolean
  else .error .notBoolean

/-- The text with its ASCII letters in lower case. -/
def lowered (s : String) : String := String.ofList (s.toList.map Char.toLower)

/-- The truth value that a word stands for. -/
def booleanOfText (s : String) : Except Complaint Bool :=
  if falseWords.contains (lowered s) then .ok false
  else if trueWords.contains (lowered s) then .ok true
  else .error .unreadableBoolean

/-- A truth value. -/
def boolean : Datum → Except Complaint Bool
  | .bool b => .ok b
  | .int n => booleanOfInt n
  | .real x =>
    match integerOfReal x with
    | .ok n => booleanOfInt n
    | .error _ => .error .notBoolean
  | .text s => booleanOfText s
  | .octets os =>
    match decoded? os with
    | some s => booleanOfText s
    | none => .error .unreadableBoolean
  | _ => .error .notBoolean

/-- A list of texts. -/
def texts : Datum → Checked (List String)
  | .list ds => Checked.items (fun d => Checked.ofComplaint (text d)) 0 ds
  | _ => Checked.ofComplaint (.error .notList)

/-- What the readers accept, they accept unchanged. -/
@[simp] theorem text_text (s : String) : text (.text s) = .ok s := rfl

@[simp] theorem integer_int (n : Int) : integer (.int n) = .ok n := rfl

@[simp] theorem boolean_bool (b : Bool) : boolean (.bool b) = .ok b := rfl

theorem texts_texts (ss : List String) : texts (.list (ss.map .text)) = .ok ss := by
  have hitems (position : Nat) : Checked.items (fun d => Checked.ofComplaint (text d)) position
      (ss.map .text) = .ok ss := by
    induction ss generalizing position with
    | nil => rfl
    | cons s ss ih =>
        rw [List.map_cons, Checked.items, ih]
        rfl
  exact hitems 0

end Reckoner.Reading
