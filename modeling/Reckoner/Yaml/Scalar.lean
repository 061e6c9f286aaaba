import Reckoner.Data.Base64
import Reckoner.Data.Datum
import Reckoner.Text.Lower
import Reckoner.Yaml.Error
import Reckoner.Yaml.Kind

/-!
# Values of scalars

The text of a scalar is read by its type: words as truth values, numbers in four
bases and in base sixty, moments, and octets. A type may be forced upon a text
that does not have its form; then the readers say what is wrong with it.
-/

namespace Reckoner.Yaml.Scalar

/-- The truth value of a word in any case. -/
def boolean (s : String) : Except Fault Bool :=
  let word := Text.lowered s
  if trueWords.contains word then .ok true
  else if falseWords.contains word then .ok false
  else .error (.truthWord word)

/-- The parts of a text between colons. -/
def colonParts : List Char → List (List Char)
  | [] => [[]]
  | c :: rest =>
    if c = ':' then [] :: colonParts rest
    else
      match colonParts rest with
      | [] => [[c]]
      | part :: others => (c :: part) :: others

/-- Whether a number that starts with `c` is negative, and the number without its
sign. -/
def splitSign (c : Char) (rest : List Char) : Bool × List Char :=
  if c = '-' then (true, rest) else if c = '+' then (false, rest) else (false, c :: rest)

/-- The whole number in a base. -/
def inBase (base : Nat) (cs : List Char) : Except Fault Int :=
  (Integer.ofText base (String.ofList cs)).mapError .integer

/-- The whole number of an unsigned text. A zero before more digits marks base
eight, and with a letter base two or sixteen; colons part the places of base
sixty. -/
def unsignedInteger (cs : List Char) : Except Fault Int :=
  match cs with
  | [] => .error .noCharacters
  | ['0'] => .ok 0
  | '0' :: 'b' :: rest => inBase 2 rest
  | '0' :: 'x' :: rest => inBase 16 rest
  | '0' :: _ => inBase 8 cs
  | _ =>
    if cs.contains ':' then do
      let places ← (colonParts cs).mapM (inBase 10)
      .ok (places.foldl (fun n place => n * 60 + place) 0)
    else inBase 10 cs

/-- The whole number of a text, whose underscores do not count. -/
def integer (s : String) : Except Fault Int :=
  match s.toList.filter (· != '_') with
  | [] => .error .noCharacters
  | c :: rest =>
    let (negative, body) := splitSign c rest
    (unsignedInteger body).map fun n => if negative then -n else n

/-- The number that a text stands for. -/
def real (cs : List Char) : Except Fault Binary64 :=
  match Binary64.ofText? (String.ofList cs) with
  | some x => .ok x
  | none => .error (.number (String.ofList cs))

/-- The sum of places in base sixty, the last place first; `weight` is that of the
first one. -/
def sixtySum (total : Binary64) (weight : Nat) : List Binary64 → Except Fault Binary64
  | [] => .ok total
  | x :: rest =>
    let factor := Binary64.ofInt weight
    if factor.isFinite then sixtySum (total.add (x.mul factor)) (weight * 60) rest
    else .error .tooManySixties

/-- The number of an unsigned text. -/
def unsignedReal (cs : List Char) : Except Fault Binary64 :=
  if cs = ".inf".toList then .ok (.infinite false)
  else if cs = ".nan".toList then .ok .nan
  else if cs.contains ':' then do
    let places ← (colonParts cs).mapM real
    sixtySum (.zero false) 1 places.reverse
  else real cs

/-- The number of a text in any case, whose underscores do not count. -/
def number (s : String) : Except Fault Binary64 :=
  match (Text.lowered s).toList.filter (· != '_') with
  | [] => .error .noCharacters
  | c :: rest =>
    let (negative, body) := splitSign c rest
    (unsignedReal body).map fun x => if negative then x.neg else x

/-- The moment of a text, written out. -/
def moment (s : String) : Except Fault String :=
  match Moment.ofChars? (withoutFinalBreak s.toList) with
  | none => .error .noMoment
  | some m => (m.check.map Moment.written).mapError .moment

/-- The value of a text by its type. Some types have no texts. -/
def value (k : Kind) (s : String) : Except Error Datum :=
  match k with
  | .null => .ok .null
  | .bool => ((boolean s).map .bool).mapError .content
  | .int => ((integer s).map .int).mapError .content
  | .float => ((number s).map .real).mapError .content
  | .moment => ((moment s).map .moment).mapError .content
  | .text => .ok (.text s)
  | .binary =>
    if s.toList.all (·.toNat < 128) then
      match Base64.decode? s.toList with
      | some os => .ok (.octets os)
      | none => .error .value
    else .error .value
  | _ => .error .value

end Reckoner.Yaml.Scalar
