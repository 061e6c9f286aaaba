/-!
# Tokens of a document

The lexical parts of a document: the markers of documents, of collections and
of their parts, and the scalars with what may stand before them. The structure
that indentation expresses has tokens of its own.
-/

namespace Reckoner.Yaml

/-- A directive before a document. -/
inductive Directive where
  | version (major minor : Nat)
  | handle (name expansion : String)
  | other
deriving DecidableEq

/-- A lexical part of a document. -/
inductive Token where
  | streamEnd
  | directive (d : Directive)
  | documentStart
  | documentEnd
  | blockSequenceStart
  | blockMappingStart
  | blockEnd
  | flowSequenceStart
  | flowSequenceEnd
  | flowMappingStart
  | flowMappingEnd
  | entryMark
  | comma
  | keyMark
  | valueMark
  | alias (name : String)
  | anchor (name : String)
  | tag (handle : Option String) (suffix : String)
  | scalar (text : String) (isPlain : Bool)
deriving DecidableEq

end Reckoner.Yaml
