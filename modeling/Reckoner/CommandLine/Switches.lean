/-!
# Switches among arguments

A command declares its switches; each has a long name after two dashes, a short
one of one letter after one dash, or both, and may take a value. The value of a
long switch follows an equals sign or is the next argument, whatever that is;
short switches may share one dash, and the value of the last is the rest of the
argument or the next one. Two dashes end the switches. `readSwitches` parts the
arguments into switches and others, and refuses unknown switches and missing
values.
-/

namespace Reckoner.CommandLine

/-- A switch that a command knows. -/
structure Switch where
  name : String
  short : Option Char
  takesValue : Bool
deriving DecidableEq

/-- The switches that were given, in order, and the other arguments. -/
structure Given where
  switches : List (String × String)
  others : List String
deriving DecidableEq

/-- The value of the last switch of a name. -/
def Given.value? (g : Given) (name : String) : Option String :=
  (g.switches.reverse.find? (·.1 == name)).map (·.2)

/-- The switches in one argument, and whether the next argument was used up as
a value. -/
abbrev Taken := List (String × String) × Bool

/-- A switch whose value, if it takes one, is the next argument. -/
def takeNext? (s : Switch) (next : Option String) : Option Taken :=
  if s.takesValue then next.map fun value => ([(s.name, value)], true)
  else some ([(s.name, "")], false)

/-- A long switch; `value` is what follows an equals sign. -/
def takeLong? (s : Switch) (value next : Option String) : Option Taken :=
  match value with
  | none => takeNext? s next
  | some value => if s.takesValue then some ([(s.name, value)], false) else none

/-- Short switches that share a dash. -/
def takeShort? (known : List Switch) (next : Option String) : List Char → Option Taken
  | [] => some ([], false)
  | c :: rest =>
    match known.find? (·.short == some c) with
    | none => none
    | some s =>
      if s.takesValue && !rest.isEmpty then some ([(s.name, String.ofList rest)], false)
      else if s.takesValue then takeNext? s next
      else (takeShort? known next rest).map fun t => ((s.name, "") :: t.1, t.2)

/-- The switches in the argument with the characters `cs` after its first
dash. -/
def take? (known : List Switch) (cs : List Char) (next : Option String) : Option Taken :=
  let value := match cs.dropWhile (· != '=') with
    | _ :: value => some (String.ofList value)
    | [] => none
  match cs.takeWhile (· != '=') with
  | '-' :: name =>
    match known.find? (·.name == String.ofList name) with
    | some s => takeLong? s value next
    | none => none
  | _ => if cs.head? = some '-' then none else takeShort? known next cs

/-- Part arguments into switches and others. Unless `mixed` holds, the first
other argument ends the switches. -/
def readSwitches (known : List Switch) (mixed : Bool) : List String → Option Given
  | [] => some ⟨[], []⟩
  | arg :: rest =>
    if arg = "--" then some ⟨[], rest⟩
    else
      match arg.toList with
      | '-' :: c :: cs =>
        match take? known (c :: cs) rest.head? with
        | none => none
        | some (switches, usedNext) =>
          (readSwitches known mixed (rest.drop (if usedNext then 1 else 0))).map fun g =>
            { g with switches := switches ++ g.switches }
      | _ =>
        if mixed then (readSwitches known mixed rest).map fun g => { g with others := arg :: g.others }
        else some ⟨[], arg :: rest⟩
termination_by args => args.length
decreasing_by
  · simp only [List.length_drop, List.length_cons]; omega
  · simp

end Reckoner.CommandLine
