import Reckoner.Yaml.Kind
import Reckoner.Yaml.Stream

/-!
# Nodes of a document

A document is a tree of nodes: scalars, sequences and mappings, each with a
tag. `Node.ofText?` reads the tree from the tokens by the rules of the grammar,
without looking further ahead than the next token. An alias stands for the node
that was anchored by its name before; inside of that node it stands for a node
without parts. A text holds one document, or none.

A mapping may name other mappings to merge: `mergeEntries?` puts their entries
before its own.
-/

namespace Reckoner.Yaml

/-- A node of a document. A mapping has its entries as they are written, and its
entries after merging, if what it merges can be merged. -/
inductive Node where
  | scalar (tag text : String)
  | sequence (tag : String) (items : List Node)
  | mapping (tag : String) (entries : List (Node × Node)) (merged? : Option (List (Node × Node)))

namespace Node

instance : Inhabited Node := ⟨.scalar "" ""⟩

/-- The tag of a node. -/
def tag : Node → String
  | scalar tag _ | sequence tag _ | mapping tag _ _ => tag

/-- The node with another tag. -/
def withTag (tag : String) : Node → Node
  | scalar _ text => scalar tag text
  | sequence _ items => sequence tag items
  | mapping _ entries merged? => mapping tag entries merged?

/-- The type of a node, if its tag is that of one. -/
def kind? (n : Node) : Option Kind := Kind.ofTag? n.tag

/-- Whether a node has the tag of a type. -/
def hasKind (k : Kind) (n : Node) : Bool := n.tag == k.tag

/-- The entries that a mapping has after merging. -/
def merged? : Node → Option (List (Node × Node))
  | mapping _ _ merged? => merged?
  | _ => none

/-- The entries that the value of a merge mark stands for. Of several mappings
the first counts most. -/
def mergeParts? : Node → Option (List (Node × Node))
  | mapping _ _ merged? => merged?
  | sequence _ items => (items.mapM merged?).map (·.reverse.flatten)
  | scalar .. => none

/-- A key, where the mark of a default value is a text. -/
def plainKey (n : Node) : Node := if n.hasKind .default then n.withTag Kind.text.tag else n

/-- The entries of a mapping with its merge marks replaced by the entries that
they stand for, which come first, so that its own count. -/
def mergeEntries? (entries : List (Node × Node)) : Option (List (Node × Node)) := do
  let marks := entries.filter (·.1.hasKind .merge)
  let own := entries.filter (!·.1.hasKind .merge)
  let merged ← marks.mapM fun e => mergeParts? e.2
  some (merged.flatten ++ own.map fun e => (plainKey e.1, e.2))

/-- The mapping of some entries. -/
def ofEntries (tag : String) (entries : List (Node × Node)) : Node :=
  mapping tag entries (mergeEntries? entries)

@[simp] theorem tag_withTag (t : String) (n : Node) : (n.withTag t).tag = t := by
  cases n <;> rfl

@[simp] theorem mergeEntries?_nil : mergeEntries? [] = some [] := rfl

end Node

/-- What is known while a document is read: the tokens to come, the handles of
tags, the anchored nodes, and how many collections are being read. -/
structure Desk where
  stream : Stream
  depth : Nat := 0
  handles : List (String × String) := []
  anchors : List (String × Node) := []

/-- A reader of a part of a document. -/
abbrev Read := StateT Desk (Except Error)

namespace Read

/-- The next token, which stays in place. -/
def peek : Read Token := do
  let d ← get
  let s ← d.stream.ready
  set { d with stream := s }
  pure (s.queue.headD .streamEnd)

/-- Take the next token away. -/
def drop : Read Unit := do
  discard peek
  modify fun d =>
    { d with stream := { d.stream with queue := d.stream.queue.tail, taken := d.stream.taken + 1 } }

/-- Whether the next token is one of some tokens. -/
def at? (ts : List Token) : Read Bool := do pure (ts.contains (← peek))

/-- Take the next token away if it is `t`, and answer whether it was. -/
def accept (t : Token) : Read Bool := do
  if (← peek) = t then
    drop
    pure true
  else pure false

/-- Refuse the order of the tokens. -/
def refuse {α : Type} : Read α := throw .grammar

/-- The node of nothing. -/
def empty : Node := .scalar Kind.null.tag ""

/-- The anchor at the cursor. -/
def anchor? : Read (Option String) := do
  match ← peek with
  | .anchor name => drop; pure (some name)
  | _ => pure none

/-- The handle and the suffix of the tag at the cursor. -/
def tag? : Read (Option (Option String × String)) := do
  match ← peek with
  | .tag handle suffix => drop; pure (some (handle, suffix))
  | _ => pure none

/-- The anchor and the tag before a node, in either order. -/
def properties : Read (Option String × Option (Option String × String)) := do
  match ← anchor? with
  | some name => pure (some name, ← tag?)
  | none =>
    match ← tag? with
    | some parts => pure (← anchor?, some parts)
    | none => pure (none, none)

/-- The tag that a handle and a suffix stand for. -/
def expandTag : Option (Option String × String) → Read (Option String)
  | none => pure none
  | some (none, suffix) => pure (some suffix)
  | some (some handle, suffix) => do
    match (← get).handles.find? (·.1 == handle) with
    | some (_, expansion) => pure (some (expansion ++ suffix))
    | none => refuse

/-- Announce an anchor, with the node without parts that it stands for until its
node is read. A name may be anchored once. -/
def announce (name : Option String) (unread : Node) : Read Unit := do
  match name with
  | none => pure ()
  | some name =>
    if (← get).anchors.any (·.1 == name) then throw .reference
    modify fun d => { d with anchors := (name, unread) :: d.anchors }

/-- Anchor a node that was announced. -/
def anchored (name : Option String) (n : Node) : Read Node := do
  match name with
  | none => pure n
  | some name =>
    modify fun d => { d with anchors := (name, n) :: d.anchors }
    pure n

/-- The node that an alias stands for. -/
def aliased (name : String) : Read Node := do
  match (← get).anchors.find? (·.1 == name) with
  | some (_, n) => pure n
  | none => throw .reference

/-- The most collections that may be nested. -/
def mostNested : Nat := 485

/-- Read what is inside of one more collection. -/
def inside {α : Type} (parts : Read α) : Read α := do
  let depth := (← get).depth
  if mostNested ≤ depth then throw .depth
  modify fun d => { d with depth := depth + 1 }
  let a ← parts
  modify fun d => { d with depth }
  pure a

/-- The tag of a node: the given one, or one by its kind. -/
def orDefault (given : Option String) (k : Kind) : String :=
  match given with
  | none | some "!" => k.tag
  | some tag => tag

/-- The kind of a scalar without a tag of its own. -/
def scalarKind (given : Option String) (text : String) (isPlain : Bool) : Kind :=
  if isPlain || given.isSome then Kind.ofText text else .text

/-- The directives before a document: the handles of its tags. -/
def directives (version : Bool) (handles : List (String × String)) :
    Nat → Read (List (String × String))
  | 0 => pure handles
  | fuel + 1 => do
    match ← peek with
    | .directive (.version major _) =>
      drop
      if version || major ≠ 1 then refuse
      directives true handles fuel
    | .directive (.handle name expansion) =>
      drop
      if handles.any (·.1 == name) then refuse
      directives version ((name, expansion) :: handles) fuel
    | .directive .other =>
      drop
      directives version handles fuel
    | _ => pure handles

/-- The handles that need no directive. -/
def commonHandles : List (String × String) := [("!", "!"), ("!!", Kind.tagStart)]

mutual

/-- A node. Outside of brackets it may be a block collection; where `indentless`
holds it may be a sequence that is not indented. -/
def node (block indentless : Bool) : Nat → Read Node
  | 0 => refuse
  | fuel + 1 => do
    match ← peek with
    | .alias name => drop; aliased name
    | _ =>
      let (name, parts) ← properties
      let tag ← expandTag parts
      let scalar (k : Kind) (text : String) : Read Node := do
        let n := .scalar (orDefault tag k) text
        announce name n
        pure n
      let sequence (items : Read (List Node)) : Read Node := do
        let make := Node.sequence (orDefault tag .sequence)
        announce name (make [])
        anchored name (make (← inside items))
      let mapping (entries : Read (List (Node × Node))) : Read Node := do
        let make := Node.ofEntries (orDefault tag .mapping)
        announce name (make [])
        anchored name (make (← inside entries))
      match ← peek with
      | .entryMark =>
        if indentless then sequence (indentlessItems fuel)
        else if name.isSome || tag.isSome then scalar .null ""
        else refuse
      | .scalar text isPlain =>
        drop
        scalar (scalarKind tag text isPlain) text
      | .flowSequenceStart => sequence (do drop; flowItems true fuel)
      | .flowMappingStart => mapping (do drop; flowEntries true fuel)
      | t =>
        if block ∧ t = .blockSequenceStart then sequence (do drop; blockItems fuel)
        else if block ∧ t = .blockMappingStart then mapping (do drop; blockEntries fuel)
        else if name.isSome || tag.isSome then scalar .null ""
        else refuse

/-- A node, unless the next token is one of some tokens that leave it out. -/
def nodeUnless (leftOut : List Token) (block indentless : Bool) : Nat → Read Node
  | 0 => refuse
  | fuel + 1 => do
    if ← at? leftOut then pure empty else node block indentless fuel

/-- The entries of a block sequence. -/
def blockItems : Nat → Read (List Node)
  | 0 => refuse
  | fuel + 1 => do
    if ← accept .entryMark then
      let first ← nodeUnless [.entryMark, .blockEnd] true false fuel
      pure (first :: (← blockItems fuel))
    else if ← accept .blockEnd then pure []
    else refuse

/-- The entries of a sequence that is not indented. -/
def indentlessItems : Nat → Read (List Node)
  | 0 => refuse
  | fuel + 1 => do
    if ← accept .entryMark then
      let first ← nodeUnless [.entryMark, .keyMark, .valueMark, .blockEnd] true false fuel
      pure (first :: (← indentlessItems fuel))
    else pure []

/-- The entries of a block mapping. -/
def blockEntries : Nat → Read (List (Node × Node))
  | 0 => refuse
  | fuel + 1 => do
    let leftOut : List Token := [.keyMark, .valueMark, .blockEnd]
    if ← accept .keyMark then
      let key ← nodeUnless leftOut true true fuel
      let value ← if ← accept .valueMark then nodeUnless leftOut true true fuel else pure empty
      pure ((key, value) :: (← blockEntries fuel))
    else if ← accept .blockEnd then pure []
    else refuse

/-- The items of a sequence in brackets. -/
def flowItems (first : Bool) : Nat → Read (List Node)
  | 0 => refuse
  | fuel + 1 => do
    if ← accept .flowSequenceEnd then pure []
    else
      if !first then
        if !(← accept .comma) then refuse
      if ← accept .keyMark then
        let key ← nodeUnless [.valueMark, .comma, .flowSequenceEnd] false false fuel
        let value ←
          if ← accept .valueMark then nodeUnless [.comma, .flowSequenceEnd] false false fuel
          else pure empty
        pure (.ofEntries Kind.mapping.tag [(key, value)] :: (← flowItems false fuel))
      else if ← accept .flowSequenceEnd then pure []
      else
        let item ← node false false fuel
        pure (item :: (← flowItems false fuel))

/-- The entries of a mapping in braces. -/
def flowEntries (first : Bool) : Nat → Read (List (Node × Node))
  | 0 => refuse
  | fuel + 1 => do
    if ← accept .flowMappingEnd then pure []
    else
      if !first then
        if !(← accept .comma) then refuse
      if ← accept .keyMark then
        let key ← nodeUnless [.valueMark, .comma, .flowMappingEnd] false false fuel
        let value ←
          if ← accept .valueMark then nodeUnless [.comma, .flowMappingEnd] false false fuel
          else pure empty
        pure ((key, value) :: (← flowEntries false fuel))
      else if ← accept .flowMappingEnd then pure []
      else
        let key ← node false false fuel
        pure ((key, empty) :: (← flowEntries false fuel))

end

/-- Take away the markers at the end of a document. -/
def endMarkers : Nat → Read Unit
  | 0 => pure ()
  | fuel + 1 => do
    if ← accept .documentEnd then endMarkers fuel

/-- Whether a token is a directive. -/
def isDirective : Token → Bool
  | .directive _ => true
  | _ => false

/-- A document that is started by a marker, after its directives; nothing at the
end of the stream. -/
def explicitDocument? (fuel : Nat) : Read (Option Node) := do
  endMarkers fuel
  if (← peek) = .streamEnd then pure none
  else
    let handles ← directives false [] fuel
    if !(← accept .documentStart) then refuse
    modify fun d => { d with handles := handles ++ commonHandles }
    let next ← peek
    if isDirective next || [Token.documentStart, .documentEnd, .streamEnd].contains next then
      pure (some empty)
    else
      pure (some (← node true false fuel))

/-- The one document of a stream, if it has one. -/
def single? (fuel : Nat) : Read (Option Node) := do
  let next ← peek
  let document ←
    if isDirective next || [Token.documentStart, .streamEnd].contains next then
      explicitDocument? fuel
    else
      modify fun d => { d with handles := commonHandles }
      pure (some (← node true false fuel))
  match document with
  | none => pure none
  | some n =>
    discard (accept .documentEnd)
    endMarkers fuel
    if (← peek) = .streamEnd then pure (some n)
    else
      discard (directives false [] fuel)
      if (← peek) = .documentStart then throw .reference else refuse

end Read

/-- Whether `c` may occur in a document. -/
def isReadable (c : Char) : Bool :=
  let n := c.toNat
  n == 0x09 || n == 0x0a || n == 0x0d || (0x20 ≤ n && n ≤ 0x7e) || n == 0x85 ||
    (0xa0 ≤ n && n ≤ 0xd7ff) || (0xe000 ≤ n && n ≤ 0xfffd) || 0x10000 ≤ n

/-- The root of the document in a text, if it has one. Every recursive call of
the readers takes a token or enters a node, and a text has fewer than four
tokens for each of its characters, so that the fuel does not run out. -/
def Node.ofText? (cs : List Char) : Except Error (Option Node) :=
  if cs.all isReadable then
    (Read.single? (16 * cs.length + 16)).run' { stream := Stream.ofText cs }
  else .error .character

end Reckoner.Yaml
