import RoleChart.Yaml.Token.Stream

/-!
# Trees of nodes

The nodes of one document, as its tokens group them: scalars with their style and tag, sequences,
mappings and aliases. An alias refers to a slot, and each slot holds the node that took it last.
-/

namespace RoleChart.Yaml

/-- A node of a document. -/
inductive Tree where
  | void
  | scalar (tag : Option String) (style : Style) (text : String)
  | sequence (tag : Option String) (items : List Tree)
  | mapping (tag : Option String) (entries : List (Tree × Tree))
  | alias (slot : Nat)
deriving Inhabited

/-- An empty plain scalar, which stands where a node is left out. -/
def Tree.empty : Tree := .scalar none .plain ""

mutual

/-- The number of marks in a node: one for a scalar or an alias, two for a collection besides those
of its parts. -/
def Tree.size : Tree → Nat
  | .void | .scalar .. | .alias _ => 1
  | .sequence _ items => 2 + sizeItems items
  | .mapping _ entries => 2 + sizeEntries entries

/-- The number of marks in the items of a sequence. -/
def sizeItems : List Tree → Nat
  | [] => 0
  | item :: items => item.size + sizeItems items

/-- The number of marks in the entries of a mapping. -/
def sizeEntries : List (Tree × Tree) → Nat
  | [] => 0
  | (key, value) :: entries => key.size + value.size + sizeEntries entries

end

/-- A document: its root, what its aliases refer to, and its size. -/
structure Document where
  root : Tree
  slots : List (Nat × Tree)
  size : Nat := root.size
deriving Inhabited

/-! ## From tokens to trees -/

/-- What is known while the tokens of a document are read: the tokens left, the tag handles, the slot
of each anchor, the node of each slot by number, and the nodes that are complete. Newer entries
stand first. -/
structure Reading where
  tokens : List Token
  handles : List (String × String)
  anchors : List (String × Nat) := []
  slots : List (Nat × Nat) := []
  trees : List (Nat × Tree) := []
  started : Nat := 0

/-- A step of reading. -/
abbrev Read := StateT Reading (Except Problem)

namespace Read

/-- The next token. -/
def peek : Read (Option Token) := return (← get).tokens.head?

/-- Moves past a token. -/
def skip : Read Unit := modify fun r => { r with tokens := r.tokens.tail }

/-- The slot that an alias refers to. -/
def slotOf (name : String) : Read Nat := do
  match (← get).anchors.lookup name with
  | some slot => return slot
  | none => throw .unknownAnchor

/-- Gives an anchored node a slot and a number. The slots count the names in use, so a name that is
used again takes the slot after the last one. -/
def begin (anchor : Option String) : Read (Option Nat) := do
  match anchor with
  | none => return none
  | some name =>
    let r ← get
    let slot := r.anchors.length
    set { r with
      anchors := (name, slot) :: r.anchors.filter (·.1 != name)
      slots := (slot, r.started) :: r.slots
      started := r.started + 1 }
    return some r.started

/-- Keeps an anchored node that is complete. -/
def finish (number : Option Nat) (tree : Tree) : Read Tree := do
  match number with
  | none => return tree
  | some n =>
    modify fun r => { r with trees := (n, tree) :: r.trees }
    return tree

/-- The full tag of a handle and a suffix. -/
def fullTag (handle suffix : String) : Read String := do
  if handle.isEmpty then return suffix
  match (← get).handles.lookup handle with
  | some start => return start ++ suffix
  | none => throw .tag

/-- The anchor and the tag in front of a node, in either order. -/
def properties : Read (Option String × Option String) := do
  match ← peek with
  | some (.anchor name) =>
    skip
    match ← peek with
    | some (.tag handle suffix) => skip; return (some name, some (← fullTag handle suffix))
    | _ => return (some name, none)
  | some (.tag handle suffix) =>
    skip
    match ← peek with
    | some (.anchor name) => skip; return (some name, some (← fullTag handle suffix))
    | _ => return (none, some (← fullTag handle suffix))
  | _ => return (none, none)

/-- Whether the next token is one of those given. -/
def next (tokens : List Token) : Read Bool := return (← peek).any tokens.contains

/-- Moves past the next token if it is the one given. -/
def accept (t : Token) : Read Bool := do
  if (← peek) == some t then
    skip
    return true
  return false

/-- Moves past a token that must be there. -/
def expect (t : Token) : Read Unit := do
  if !(← accept t) then throw .structural

mutual

/-- Reads a node. In a block context it may be a block collection, and behind a key also a sequence
that is not indented. -/
def node (block unindented : Bool) : Nat → Read Tree
  | 0 => throw .structural
  | fuel + 1 => do
    match ← peek with
    | some (.alias name) => skip; return .alias (← slotOf name)
    | _ =>
      let (anchor, tag) ← properties
      match ← peek with
      | some (.scalar style text) =>
        skip
        finish (← begin anchor) (.scalar (if tag = some "!" then none else tag) style text)
      | some .flowSequenceStart =>
        skip
        let number ← begin anchor
        finish number (.sequence tag (← flowItems true fuel))
      | some .flowMappingStart =>
        skip
        let number ← begin anchor
        finish number (.mapping tag (← flowEntries true fuel))
      | some .blockEntry =>
        if unindented then
          let number ← begin anchor
          finish number (.sequence tag (← unindentedItems fuel))
        else bare anchor tag
      | some .blockSequenceStart =>
        if block then
          skip
          let number ← begin anchor
          finish number (.sequence tag (← blockItems fuel))
        else bare anchor tag
      | some .blockMappingStart =>
        if block then
          skip
          let number ← begin anchor
          finish number (.mapping tag (← blockEntries fuel))
        else bare anchor tag
      | _ => bare anchor tag

/-- A node of properties alone, which is an empty scalar. -/
def bare (anchor tag : Option String) : Read Tree := do
  if anchor.isNone && tag.isNone then throw .structural
  finish (← begin anchor) (.scalar tag .plain "")

/-- A node, or an empty one in front of the tokens given. -/
def nodeUnless (stops : List Token) (block unindented : Bool) : Nat → Read Tree
  | 0 => throw .structural
  | fuel + 1 => do
    if ← next stops then return .empty
    node block unindented fuel

/-- The items of a block sequence, to its end. -/
def blockItems : Nat → Read (List Tree)
  | 0 => throw .structural
  | fuel + 1 => do
    if ← accept .blockEntry then
      let item ← nodeUnless [.blockEntry, .blockEnd] true false fuel
      return item :: (← blockItems fuel)
    expect .blockEnd
    return []

/-- The items of a sequence that is not indented. -/
def unindentedItems : Nat → Read (List Tree)
  | 0 => throw .structural
  | fuel + 1 => do
    if ← accept .blockEntry then
      let item ← nodeUnless [.blockEntry, .key, .value, .blockEnd] true false fuel
      return item :: (← unindentedItems fuel)
    return []

/-- The entries of a block mapping, to its end. -/
def blockEntries : Nat → Read (List (Tree × Tree))
  | 0 => throw .structural
  | fuel + 1 => do
    if ← accept .key then
      let key ← nodeUnless [.key, .value, .blockEnd] true true fuel
      let value ←
        if ← accept .value then nodeUnless [.key, .value, .blockEnd] true true fuel
        else pure .empty
      return (key, value) :: (← blockEntries fuel)
    expect .blockEnd
    return []

/-- The items of a sequence between brackets, to its end. A key among them begins a mapping of one
entry. A marked key that is left out takes the token behind its mark with it. -/
def flowItems (first : Bool) : Nat → Read (List Tree)
  | 0 => throw .structural
  | fuel + 1 => do
    if ← accept .flowSequenceEnd then return []
    if !first then
      expect .flowEntry
      if ← accept .flowSequenceEnd then return []
    if ← accept .key then
      let key ←
        if ← next [.value, .flowEntry, .flowSequenceEnd] then
          skip
          pure .empty
        else node false false fuel
      let value ←
        if ← accept .value then nodeUnless [.flowEntry, .flowSequenceEnd] false false fuel
        else pure .empty
      return .mapping none [(key, value)] :: (← flowItems false fuel)
    let item ← node false false fuel
    return item :: (← flowItems false fuel)

/-- The entries of a mapping between braces, to its end. -/
def flowEntries (first : Bool) : Nat → Read (List (Tree × Tree))
  | 0 => throw .structural
  | fuel + 1 => do
    if ← accept .flowMappingEnd then return []
    if !first then
      expect .flowEntry
      if ← accept .flowMappingEnd then return []
    if ← accept .key then
      let key ← nodeUnless [.value, .flowEntry, .flowMappingEnd] false false fuel
      let value ←
        if ← accept .value then nodeUnless [.flowEntry, .flowMappingEnd] false false fuel
        else pure .empty
      return (key, value) :: (← flowEntries false fuel)
    let key ← node false false fuel
    return (key, .empty) :: (← flowEntries false fuel)

end

/-- Whether a token is a directive or a mark of a document. -/
def isDocumentMark : Token → Bool
  | .documentStart | .documentEnd | .version .. | .tagHandle .. => true
  | _ => false

/-- Reads the directives of a document: at most one version, which must be known, and tag handles
that differ. -/
def directives (version : Bool) : List Token → Read Unit
  | .version major minor :: rest => do
    if version || major ≠ 1 || !(minor == 1 || minor == 2) then throw .directive
    skip
    directives true rest
  | .tagHandle handle start :: rest => do
    let r ← get
    if r.handles.any (·.1 == handle) then throw .directive
    set { r with tokens := r.tokens.tail, handles := r.handles ++ [(handle, start)] }
    directives version rest
  | _ => return ()

/-- Reads the only document. -/
def document (fuel : Nat) : Read Tree := do
  let tokens := (← get).tokens
  let root ←
    match tokens with
    | [] => pure .void
    | first :: _ =>
      if isDocumentMark first && first != .documentEnd then
        directives false tokens
        modify fun r => { r with handles := r.handles ++ [("!", "!"), ("!!", "tag:yaml.org,2002:")] }
        expect .documentStart
        match ← peek with
        | none => pure .empty
        | some t => if isDocumentMark t then pure .empty else node true false fuel
      else
        modify fun r => { r with handles := [("!", "!"), ("!!", "tag:yaml.org,2002:")] }
        node true false fuel
  if !((← get).tokens.dropWhile (· == .documentEnd)).isEmpty then throw .furtherDocument
  return root

end Read

/-- The document that tokens make up. There must be exactly one. -/
def Document.ofTokens (tokens : List Token) : Except Problem Document := do
  let (root, r) ← (Read.document (2 * tokens.length + 4)).run { tokens := tokens, handles := [] }
  let slots := r.slots.filterMap fun (slot, number) => (r.trees.lookup number).map (slot, ·)
  return { root := root, slots := slots }

/-- The document of a text. -/
def Document.ofText (s : String) : Except Problem Document := do
  Document.ofTokens (← Token.ofText s.toList)

end RoleChart.Yaml
