import Reckoner.Console.Literal
import Reckoner.Console.Style
import Reckoner.Emoji.Code

/-!
# Markup in printed texts

A printed text may hold tags, which set the style of what follows and leave no
trace in plain output: an opening bracket, a small letter or one of `#`, `/`
and `@`, and all up to the closing bracket. A tag that starts with a slash
closes the last open tag whose name is the same style, or the last open one if
it has no name, and is refused if there is none. A tag that starts with `@` names
an action, whose parameters are read when the tag is closed. An odd number of
backslashes before a tag makes it plain text. Codes of emoji are replaced in each
run of plain text, and the control characters that a console would act on are
dropped.
-/

namespace Reckoner.Console

/-- A tag: its name, and its parameters after an equals sign. -/
structure Tag where
  name : List Char
  parameters : Option (List Char)
deriving DecidableEq

/-- A piece of a marked-up text: a run of plain text, a tag that backslashes made
plain text, or a tag. -/
inductive Piece where
  | plain (cs : List Char)
  | escaped (cs : List Char)
  | tag (t : Tag)
deriving DecidableEq

/-- Why a marked-up text cannot be printed. -/
inductive MarkupFault where
  | notOpen
  | notLiteral
  | style
deriving DecidableEq

/-- Whether a tag may start with the character `c`. -/
def startsTag (c : Char) : Bool := c.isLower || c == '#' || c == '/' || c == '@'

/-- The inside of the tag after an opening bracket, and the rest after it. -/
def tagAfter? (cs : List Char) : Option (List Char × List Char) :=
  match cs with
  | c :: rest =>
    let body := rest.takeWhile fun d => d != ']' && d != '['
    match rest.dropWhile fun d => d != ']' && d != '[' with
    | ']' :: rest => if startsTag c then some (c :: body, rest) else none
    | _ => none
  | [] => none

/-- The tag that has something between its brackets. -/
def Tag.ofInside (inside : List Char) : Tag :=
  { name := inside.takeWhile (· != '=')
    parameters :=
      match inside.dropWhile (· != '=') with
      | _ :: parameters => some parameters
      | [] => none }

/-- A tag has characters, so less follows it than the text had. -/
theorem length_lt_of_tagAfter? {cs inside rest : List Char}
    (h : tagAfter? cs = some (inside, rest)) : rest.length < cs.length := by
  cases cs with
  | nil => simp [tagAfter?] at h
  | cons c cs =>
    have hdrop := (List.dropWhile_sublist (l := cs) fun d => d != ']' && d != '[').length_le
    simp only [tagAfter?] at h
    split at h
    · next after hafter =>
      rw [hafter, List.length_cons] at hdrop
      split at h
      · obtain ⟨-, rfl⟩ := Prod.mk.inj (Option.some.inj h)
        rw [List.length_cons]
        omega
      · simp at h
    · simp at h

/-- The tag that starts with the character `c` before `cs`, and the rest after
it. -/
def tagAt? (c : Char) (cs : List Char) : Option (List Char × List Char) :=
  if c = '[' then tagAfter? cs else none

theorem length_lt_of_tagAt? {c : Char} {cs inside rest : List Char}
    (h : tagAt? c cs = some (inside, rest)) : rest.length < cs.length := by
  unfold tagAt? at h
  split at h
  · exact length_lt_of_tagAfter? h
  · simp at h

/-- The pieces of a text with some characters before it. -/
def prepend (cs : List Char) : List Piece → List Piece
  | .plain ds :: rest => .plain (cs ++ ds) :: rest
  | pieces => .plain cs :: pieces

/-- The pieces of a text; `slashes` counts the backslashes just before it. -/
def piecesFrom (slashes : Nat) : List Char → List Piece
  | [] => [.plain (List.replicate slashes '\\')]
  | c :: cs =>
    if c = '\\' then piecesFrom (slashes + 1) cs
    else
      match h : tagAt? c cs with
      | some (inside, rest) =>
        have := length_lt_of_tagAt? h
        .plain (List.replicate (slashes / 2) '\\') ::
          (if slashes % 2 = 1 then .escaped ('[' :: inside ++ [']'])
            else .tag (Tag.ofInside inside)) ::
          piecesFrom 0 rest
      | none =>
        let kept := if c = '[' then slashes - 1 else slashes
        prepend (List.replicate kept '\\' ++ [c]) (piecesFrom 0 cs)
termination_by cs => cs.length
decreasing_by
  all_goals simp only [List.length_cons]; omega

/-! ### Tags -/

/-- The name of a style in a tag. -/
def styleOf (name : List Char) : Except MarkupFault String :=
  match styleName name with
  | .ok name => .ok name
  | .error _ => .error .style

/-- Whether `c` may stand in the name of a handler. -/
def isHandlerChar (c : Char) : Bool := c.isAlphanum || c == '_' || c == '.' || 128 ≤ c.toNat

/-- What is handed over to a handler: what stands in parentheses after its name,
nothing if there are none, and all of the text if it names no handler. -/
def handed (cs : List Char) : List Char :=
  match cs.dropWhile isHandlerChar with
  | [] => ['(', ')']
  | '(' :: rest =>
    if rest.getLast? = some ')' ∧ '\n' ∉ rest then '(' :: rest else cs
  | _ => cs

/-- An open tag: the name of its style, and its parameters. -/
structure OpenTag where
  name : String
  parameters : Option (List Char)
deriving DecidableEq

/-- Open a tag. -/
def Tag.open (t : Tag) : Except MarkupFault OpenTag := do
  return { name := ← styleOf t.name, parameters := t.parameters }

namespace OpenTag

/-- The words that describe the style of a tag. -/
def description (t : OpenTag) : List Char :=
  match t.parameters with
  | some parameters => t.name.toList ++ ' ' :: parameters
  | none => t.name.toList

/-- Check the parameters of a tag that is closed. -/
def checkClosed (t : OpenTag) : Except MarkupFault Unit :=
  match t.name.toList, t.parameters with
  | '@' :: _, some (c :: parameters) =>
    if isLiteral (handed (Text.trim Text.isBlank (c :: parameters))) then .ok ()
    else .error .notLiteral
  | _, _ => .ok ()

end OpenTag

/-- Close the last of some open tags that has a name, or the last at all if the
name is empty. The open tags are given last first. -/
def close (name : List Char) (openTags : List OpenTag) : Except MarkupFault (List OpenTag) := do
  let closes ← if name = [] then pure fun _ => true else do
    let style ← styleOf name
    pure fun t : OpenTag => t.name == style
  match openTags.find? closes with
  | none => .error .notOpen
  | some t => do
    t.checkClosed
    return openTags.erase t

/-! ### Plain text -/

/-- Whether a console acts on the character instead of showing it. -/
def isConsoleControl (c : Char) : Bool :=
  c == '\x07' || c == '\x08' || c == '\x0b' || c == '\x0c' || c == '\r'

/-- What is shown for a run of plain text. -/
def shownRun (cs : List Char) : List Char :=
  (Emoji.replaced cs).filter (!isConsoleControl ·)

/-- The plain text of some pieces, given the open tags, last first. -/
def plainOf (openTags : List OpenTag) : List Piece → Except MarkupFault (List Char)
  | [] => .ok []
  | .plain cs :: rest => (plainOf openTags rest).map (shownRun cs ++ ·)
  | .escaped cs :: rest => (plainOf openTags rest).map (shownRun cs ++ ·)
  | .tag t :: rest =>
    match t.name with
    | '/' :: name => do
      plainOf (← close (Text.trim Text.isBlank name) openTags) rest
    | _ => do
      plainOf ((← t.open) :: openTags) rest

/-- Check that the styles of some pieces can be looked up. -/
def checkStyles : List Piece → Except MarkupFault Unit
  | [] => .ok ()
  | .tag t :: rest =>
    match t.name with
    | '/' :: _ => checkStyles rest
    | _ => do
      discard <| styleOf (← t.open).description
      checkStyles rest
  | _ :: rest => checkStyles rest

/-- The plain text of a marked-up text. -/
def plainText (s : String) : Except MarkupFault String := do
  let pieces := piecesFrom 0 s.toList
  let text ← plainOf [] pieces
  checkStyles pieces
  return String.ofList text

end Reckoner.Console
