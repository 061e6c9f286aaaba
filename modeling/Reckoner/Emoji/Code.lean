import Reckoner.Emoji.Name
import Reckoner.Text.Blank
import Reckoner.Text.Lower

/-!
# Codes of emoji in a text

A name between two colons stands for its emoji, in capitals as well as in small
letters; `-emoji` or `-text` after the name adds a selector. Between the colons
there are no blanks. What is no name stays as it is, both colons included, so
its second colon does not start another code.
-/

namespace Reckoner.Emoji

/-- Whether `c` may stand between the colons of a code. -/
def isCodeChar (c : Char) : Bool := c != ':' && !Text.isBlank c

/-- What stands between a colon and the next one, and what is left after it. -/
def codeAfter? (cs : List Char) : Option (List Char × List Char) :=
  match cs.dropWhile isCodeChar with
  | ':' :: rest => some (cs.takeWhile isCodeChar, rest)
  | _ => none

/-- The second colon of a code is gone from what is left. -/
theorem length_lt_of_codeAfter? {cs code rest : List Char}
    (h : codeAfter? cs = some (code, rest)) : rest.length < cs.length := by
  have hdrop := (List.dropWhile_sublist (l := cs) isCodeChar).length_le
  unfold codeAfter? at h
  split at h
  · next after hafter =>
    obtain ⟨-, rfl⟩ := Prod.mk.inj (Option.some.inj h)
    rw [hafter, List.length_cons] at hdrop
    omega
  · simp at h

/-- The endings of codes that add a selector. -/
def endings : List (String × Char) := [("-emoji", inColour), ("-text", asText)]

/-- The name of a code and the selector that it adds. -/
def nameOf (code : List Char) : List Char × List Char :=
  match endings.find? fun e => e.1.toList.isSuffixOf code with
  | some (ending, selector) => (code.take (code.length - ending.length), [selector])
  | none => (code, [])

/-- What is shown for a code. -/
def shown? (code : List Char) : Option (List Char) :=
  let (name, selector) := nameOf code
  (ofName? (Text.lowered (String.ofList name))).map (· ++ selector)

/-- The text with its emoji in place of their codes. -/
def replaced : List Char → List Char
  | [] => []
  | c :: cs =>
    if c = ':' then
      match h : codeAfter? cs with
      | some (code, rest) =>
        have := length_lt_of_codeAfter? h
        (shown? code).getD (':' :: code ++ [':']) ++ replaced rest
      | none => c :: replaced cs
    else c :: replaced cs
termination_by cs => cs.length
decreasing_by
  all_goals simp only [List.length_cons]; omega

@[simp] theorem replaced_nil : replaced [] = [] := by simp [replaced]

end Reckoner.Emoji
