import Reckoner.Console.Colour
import Reckoner.Console.Wrap

/-!
# Styles

A style is described by words: attributes such as `bold`, the same after `not`,
a colour, a colour after `on` for the ground, and an address after `link`. Of two
words for one thing the later counts. `Style.text` describes a style in one way
for all descriptions of it, so two tags have the same style if their names have
the same `styleName`.
-/

namespace Reckoner.Console

/-- What a style sets apart from colours. -/
inductive Attribute where
  | bold
  | dim
  | italic
  | underline
  | blink
  | blink2
  | reverse
  | conceal
  | strike
  | underline2
  | frame
  | encircle
  | overline
deriving DecidableEq

namespace Attribute

/-- The attributes in the order in which they are described. -/
def all : List Attribute :=
  [bold, dim, italic, underline, blink, blink2, reverse, conceal, strike, underline2, frame,
    encircle, overline]

/-- The word for an attribute. -/
def name : Attribute → String
  | bold => "bold"
  | dim => "dim"
  | italic => "italic"
  | underline => "underline"
  | blink => "blink"
  | blink2 => "blink2"
  | reverse => "reverse"
  | conceal => "conceal"
  | strike => "strike"
  | underline2 => "underline2"
  | frame => "frame"
  | encircle => "encircle"
  | overline => "overline"

/-- The short words for attributes. -/
def shortNames : List (String × Attribute) :=
  [("b", bold), ("d", dim), ("i", italic), ("u", underline), ("r", reverse), ("c", conceal),
    ("s", strike), ("uu", underline2), ("o", overline)]

/-- The attribute that a word names. -/
def ofName? (word : String) : Option Attribute :=
  (all.find? fun a => a.name == word).or ((shortNames.find? fun p => p.1 == word).map (·.2))

@[simp] theorem ofName?_name (a : Attribute) : ofName? a.name = some a := by
  cases a <;> rfl

end Attribute

/-- A style. The attributes are those that it sets or clears, last first. -/
structure Style where
  attributes : List (Attribute × Bool) := []
  colour : Option String := none
  ground : Option String := none
  link : Option String := none
deriving DecidableEq

namespace Style

/-- The words for what a style does to an attribute. -/
def attributeText? (s : Style) (a : Attribute) : Option String :=
  (s.attributes.lookup a).map fun on => if on then a.name else "not " ++ a.name

/-- The description of a style. -/
def text (s : Style) : String :=
  let described := Attribute.all.filterMap s.attributeText? ++ s.colour.toList ++
    (s.ground.map ("on " ++ ·)).toList ++ (s.link.map ("link " ++ ·)).toList
  if described = [] then "none" else " ".intercalate described

@[simp] theorem text_plain : text {} = "none" := rfl

/-- Read the words that are left into a style. -/
def readFrom (s : Style) : List (List Char) → Except StyleRefusal Style
  | [] => .ok s
  | word :: rest =>
    let small := Text.lowered (String.ofList word)
    if small = "on" then
      match rest with
      | ground :: rest => do
        let ground := Text.lowered (String.ofList ground)
        checkColour ground.toList
        readFrom { s with ground := some ground } rest
      | [] => .error .unknown
    else if small = "not" then
      match rest with
      | word :: rest =>
        match Attribute.ofName? (String.ofList word) with
        | some a => readFrom { s with attributes := (a, false) :: s.attributes } rest
        | none => .error .unknown
      | [] => .error .unknown
    else if small = "link" then
      match rest with
      | address :: rest => readFrom { s with link := some (String.ofList address) } rest
      | [] => .error .unknown
    else
      match Attribute.ofName? small with
      | some a => readFrom { s with attributes := (a, true) :: s.attributes } rest
      | none => do
        checkColour small.toList
        readFrom { s with colour := some small } rest

/-- The style that a text describes. -/
def read (cs : List Char) : Except StyleRefusal Style :=
  if Text.trim Text.isBlank cs = "none".toList then .ok {}
  else
    readFrom {} ((wordsFrom (cs.dropWhile Text.isBlank)).map (Text.trimEnd Text.isBlank))

end Style

/-- The name of a style: its description, or what describes no style in small
letters. A part of a colour that is no number has no name. -/
def styleName (cs : List Char) : Except StyleRefusal String :=
  match Style.read cs with
  | .ok s => .ok s.text
  | .error .unknown => .ok (Text.lowered (String.ofList (Text.trim Text.isBlank cs)))
  | .error .notNumber => .error .notNumber

end Reckoner.Console
