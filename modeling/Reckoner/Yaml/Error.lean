import Reckoner.Number.Integer
import Reckoner.Yaml.Moment

/-!
# Why a configuration text cannot be read

The stages at which the text of a document is refused: a character that may not
occur, a place where no token can stand, tokens in an order that is no node, a
reference that leads nowhere, a node inside of too many others, and a node
without a value. Apart from these, the content of a scalar may be faulty: it is no number, word or moment of its type,
or it names a character that there is not.
-/

namespace Reckoner.Yaml

/-- What is wrong with the content of a scalar. -/
inductive Fault where
  | integer (cause : Integer.Refusal)
  | number (text : String)
  | tooManySixties
  | noCharacters
  | truthWord (word : String)
  | noMoment
  | momentInMapping
  | moment (cause : Moment.Fault)
  | beyondCharacters
  | beyondWords
deriving DecidableEq

/-- The wording of a fault. -/
def Fault.message : Fault → String
  | integer cause => cause.message
  | number text => "could not convert string to float: " ++ Text.quoted text
  | tooManySixties => "int too large to convert to float"
  | noCharacters => "string index out of range"
  | truthWord word => Text.quoted word
  | noMoment => "'NoneType' object has no attribute 'groupdict'"
  | momentInMapping => "expected string or bytes-like object, got 'list'"
  | moment cause => cause.message
  | beyondCharacters => "chr() arg not in range(0x110000)"
  | beyondWords => "Python int too large to convert to C int"

/-- The wording for a node inside of too many others. -/
def depthMessage : String := "maximum recursion depth exceeded while calling a Python object"

/-- Why a document is refused. -/
inductive Error where
  | character
  | token
  | grammar
  | reference
  | depth
  | value
  | content (fault : Fault)
deriving DecidableEq

end Reckoner.Yaml
