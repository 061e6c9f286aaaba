/-!
# Octets in base sixty-four

Four digits of base sixty-four stand for three octets; at the end, two or three
digits filled up with equals signs stand for one or two. Characters that are no
digits are passed over.
-/

namespace Reckoner.Base64

/-- The value of a digit. -/
def digit? (c : Char) : Option Nat :=
  if c.isUpper then some (c.toNat - 65)
  else if c.isLower then some (c.toNat - 71)
  else if c.isDigit then some (c.toNat + 4)
  else if c = '+' then some 62
  else if c = '/' then some 63
  else none

/-- What is read of a group of four digits: how many digits, the bits that belong
to the next octet, and how many equals signs stand after the digits. -/
structure Group where
  digits : Nat := 0
  bits : Nat := 0
  fill : Nat := 0

/-- The octet that one more digit completes, if it does, and the group after
it. -/
def Group.push (g : Group) (value : Nat) : Option UInt8 × Group :=
  if g.digits = 0 then (none, { digits := 1, bits := value })
  else if g.digits = 1 then
    (some (g.bits * 4 + value / 16).toUInt8, { digits := 2, bits := value % 16 })
  else if g.digits = 2 then
    (some (g.bits * 16 + value / 4).toUInt8, { digits := 3, bits := value % 4 })
  else (some (g.bits * 64 + value).toUInt8, {})

/-- The octets of the digits after a group that was begun. Equals signs that
complete a group of two or three digits end the text. -/
def decodeFrom? (g : Group) : List Char → Option (List UInt8)
  | [] => if g.digits = 0 then some [] else none
  | c :: rest =>
    if c = '=' then
      if g.digits < 2 then decodeFrom? g rest
      else if 4 ≤ g.digits + (g.fill + 1) then some []
      else decodeFrom? { g with fill := g.fill + 1 } rest
    else
      match digit? c with
      | none => decodeFrom? g rest
      | some value =>
        match g.push value with
        | (some octet, next) => (decodeFrom? next rest).map (octet :: ·)
        | (none, next) => decodeFrom? next rest

/-- The octets that a text stands for. A group that is not complete at the end
of the text is refused. -/
def decode? (cs : List Char) : Option (List UInt8) := decodeFrom? {} cs

@[simp] theorem decode?_nil : decode? [] = some [] := rfl

end Reckoner.Base64
