import RoleChart.Yaml.Token.Property

/-!
# The tokens of a text

A text is read token by token. Outside of brackets, indentation opens and closes collections. Where
a key may begin, the place is remembered; a colon on the same line, not too far away, makes it one,
and the tokens for it are put in at that place.

## Main statements

* `insertAt_last` — a key of one token gets its mark right in front of that token
-/

namespace RoleChart.Yaml

open Text

/-- A place where a key may begin. A key is required where only an entry of the current mapping can
stand. -/
structure KeyPlace where
  required : Bool
  position : Nat
  index : Nat
  line : Nat
  column : Nat
deriving Repr

/-- How far a key may reach, in characters. -/
def maxKeyLength : Nat := 1024

/-- The state of reading. The tokens stand in reverse order. The indentation is that of the
innermost block collection, below zero outside of all; the key places are those of the current
brackets and of the brackets around them. -/
structure Stream where
  cursor : Cursor
  tokens : List Token := []
  indent : Int := -1
  indents : List Int := []
  keyPlace : Option KeyPlace := none
  outerKeyPlaces : List (Option KeyPlace) := []
  keyAllowed : Bool := true
deriving Repr

namespace Stream

/-- Whether the position is inside brackets. -/
def inFlow (s : Stream) : Bool := !s.outerKeyPlaces.isEmpty

/-- The state with one more token. -/
def emit (s : Stream) (t : Token) : Stream := { s with tokens := t :: s.tokens }

/-- The state with the token and the position moved. -/
def emitAt (s : Stream) (t : Token) (c : Cursor) : Stream := { s.emit t with cursor := c }

/-- Tokens in reverse with others put in at a place counted from their beginning. -/
def insertAt (tokens : List Token) (position : Nat) (new : List Token) : List Token :=
  let behind := tokens.length - position
  tokens.take behind ++ new.reverse ++ tokens.drop behind

theorem insertAt_last (t : Token) (tokens new : List Token) :
    insertAt (t :: tokens) tokens.length new = t :: (new.reverse ++ tokens) := by
  simp [insertAt]

/-! ## Places of keys -/

/-- Gives up the current place of a key. -/
def dropKeyPlace (s : Stream) : Except Problem Stream :=
  if s.keyPlace.any (·.required) then .error .missingValue else .ok { s with keyPlace := none }

/-- Remembers the current position if a key may begin here. -/
def saveKeyPlace (s : Stream) : Except Problem Stream := do
  if !s.keyAllowed then return s
  let required := !s.inFlow && s.indent == s.cursor.column
  let s ← s.dropKeyPlace
  let c := s.cursor
  return { s with keyPlace := some ⟨required, s.tokens.length, c.index, c.line, c.column⟩ }

/-- The place if it can still begin a key: on the same line and not too far away. -/
def freshPlace (c : Cursor) (place : Option KeyPlace) : Except Problem (Option KeyPlace) :=
  match place with
  | none => .ok none
  | some k =>
    if k.line < c.line || k.index + maxKeyLength < c.index then
      if k.required then .error .missingValue else .ok none
    else .ok (some k)

/-- Forgets the places that no longer begin a key. -/
def refreshKeyPlaces (s : Stream) : Except Problem Stream := do
  let outer ← s.outerKeyPlaces.mapM (freshPlace s.cursor)
  let place ← freshPlace s.cursor s.keyPlace
  return { s with keyPlace := place, outerKeyPlaces := outer }

/-! ## Indentation -/

/-- Opens a block collection at a column that is deeper than the current one. -/
def openBlock (s : Stream) (column : Nat) (t : Token) : Stream :=
  if s.inFlow || (column : Int) ≤ s.indent then s
  else { s.emit t with indent := column, indents := s.indent :: s.indents }

/-- Closes the innermost of nested indentations while they are deeper than a column. -/
def closeOnto (column : Int) (tokens : List Token) (indent : Int) :
    List Int → List Token × Int × List Int
  | [] => (tokens, indent, [])
  | outer :: rest =>
    if column < indent then closeOnto column (.blockEnd :: tokens) outer rest
    else (tokens, indent, outer :: rest)

/-- Closes the block collections that are deeper than a column. -/
def closeBlocks (s : Stream) (column : Int) : Stream :=
  if s.inFlow then s
  else
    let (tokens, indent, indents) := closeOnto column s.tokens s.indent s.indents
    { s with tokens := tokens, indent := indent, indents := indents }

/-! ## Between tokens -/

/-- Moves past gaps, comments and line breaks. A tab counts as a gap only where no key may begin.
Outside of brackets a key may begin on each new line. -/
def skipBetween (c : Cursor) (flow keyAllowed : Bool) : Nat → Cursor × Bool
  | 0 => (c, keyAllowed)
  | fuel + 1 =>
    let c := c.skipWhile fun d => d == ' ' || ((flow || !keyAllowed) && d == '\t')
    let c := if c.rest.head? == some '#' then c.skipWhile fun d => !isBreak d else c
    if c.rest.head?.any isBreak then skipBetween c.skipLine flow (keyAllowed || !flow) fuel
    else (c, keyAllowed)

/-- Moves to the next token. A byte order mark is skipped at the very beginning. -/
def toNext (s : Stream) : Stream :=
  let c := s.cursor
  let c := if c.index = 0 ∧ c.rest.head? = some (Char.ofNat 0xFEFF) then c.skip 1 else c
  let (c, keyAllowed) := skipBetween c s.inFlow s.keyAllowed (c.rest.length + 1)
  { s with cursor := c, keyAllowed := keyAllowed }

/-! ## Single tokens -/

/-- A mark of a document or a directive: it closes all block collections. -/
def outermost (s : Stream) (token : Stream → Except Problem (Token × Cursor)) :
    Except Problem Stream := do
  let s ← (s.closeBlocks (-1)).dropKeyPlace
  let (t, c) ← token s
  return { s.emitAt t c with keyAllowed := false }

/-- An opening bracket. -/
def openFlow (s : Stream) (t : Token) : Except Problem Stream := do
  let s ← s.saveKeyPlace
  return { s.emitAt t (s.cursor.skip 1) with
    keyPlace := none, outerKeyPlaces := s.keyPlace :: s.outerKeyPlaces, keyAllowed := true }

/-- A closing bracket. -/
def closeFlow (s : Stream) (t : Token) : Except Problem Stream := do
  let s ← s.dropKeyPlace
  let s := { s.emitAt t (s.cursor.skip 1) with keyAllowed := false }
  match s.outerKeyPlaces with
  | place :: outer => return { s with keyPlace := place, outerKeyPlaces := outer }
  | [] => return s

/-- A comma between brackets. -/
def flowEntry (s : Stream) : Except Problem Stream := do
  let s ← s.dropKeyPlace
  return { s.emitAt .flowEntry (s.cursor.skip 1) with keyAllowed := true }

/-- The dash of a sequence. -/
def blockEntry (s : Stream) : Except Problem Stream := do
  if !s.inFlow && !s.keyAllowed then throw .indicator
  let s ← (s.openBlock s.cursor.column .blockSequenceStart).dropKeyPlace
  return { s.emitAt .blockEntry (s.cursor.skip 1) with keyAllowed := true }

/-- The question mark of a key. -/
def explicitKey (s : Stream) : Except Problem Stream := do
  if !s.inFlow && !s.keyAllowed then throw .indicator
  let s ← (s.openBlock s.cursor.column .blockMappingStart).dropKeyPlace
  return { s.emitAt .key (s.cursor.skip 1) with keyAllowed := !s.inFlow }

/-- The colon of a value. What began at the remembered place is its key; without one the key was
marked, or is empty. -/
def value (s : Stream) : Except Problem Stream := do
  match s.keyPlace with
  | some k =>
    let opens := !s.inFlow && s.indent < (k.column : Int)
    let new := if opens then [.blockMappingStart, .key] else [.key]
    let s := { s with tokens := insertAt s.tokens k.position new, keyPlace := none }
    let s := if opens then { s with indent := k.column, indents := s.indent :: s.indents } else s
    return { s.emitAt .value (s.cursor.skip 1) with keyAllowed := false }
  | none =>
    if !s.inFlow && !s.keyAllowed then throw .indicator
    let s := s.openBlock s.cursor.column .blockMappingStart
    return { s.emitAt .value (s.cursor.skip 1) with keyAllowed := !s.inFlow }

/-- A token that may begin a key. -/
def keyable (s : Stream) (token : Stream → Except Problem (Token × Bool × Cursor)) :
    Except Problem Stream := do
  let s ← s.saveKeyPlace
  let (t, keyAllowed, c) ← token s
  return { s.emitAt t c with keyAllowed := keyAllowed }

/-- A scalar between quotes. -/
def quoted (s : Stream) (quote : Char) : Except Problem Stream :=
  s.keyable fun s => do
    let (text, c) ← quotedScalar quote s.cursor
    return (.scalar .quoted (String.ofList text), false, c)

/-- A plain scalar. Behind a line break a key may begin. -/
def plain (s : Stream) : Except Problem Stream :=
  s.keyable fun s => do
    let (text, broken, c) ← plainScalar s.inFlow (s.indent + 1).toNat s.cursor
    return (.scalar .plain (String.ofList text), broken, c)

/-- A block scalar. -/
def block (s : Stream) (folded : Bool) : Except Problem Stream := do
  let s ← s.dropKeyPlace
  let (text, c) ← blockScalar folded s.indent s.cursor
  return { s.emitAt (.scalar (if folded then .folded else .literal) (String.ofList text)) c with
    keyAllowed := true }

/-- Whether a plain scalar may begin with the character in front of the rest. -/
def beginsPlain (flow : Bool) (c : Char) (rest : List Char) : Bool :=
  !(isGapOrBreak c || "-?:,[]\x7b\x7d#&*!|>'\"%@\x60".toList.contains c)
    || (c == '-' && !rest.head?.any isGap)
    || (!flow && (c == '?' || c == ':') && !atGap rest)

/-- The token at the current position, which is not the end. -/
def token (s : Stream) (first : Char) (rest : List Char) : Except Problem Stream :=
  let flow := s.inFlow
  let indicator := flow || atGap rest
  if s.cursor.column == 0 && first == '%' then s.outermost fun s => directiveToken s.cursor
  else if s.cursor.atDocumentMark then
    s.outermost fun s =>
      .ok (if first == '-' then .documentStart else .documentEnd, s.cursor.skip 3)
  else if first == '[' then s.openFlow .flowSequenceStart
  else if first == '\x7b' then s.openFlow .flowMappingStart
  else if first == ']' then s.closeFlow .flowSequenceEnd
  else if first == '\x7d' then s.closeFlow .flowMappingEnd
  else if first == ',' then s.flowEntry
  else if first == '-' && atGap rest then s.blockEntry
  else if first == '?' && indicator then s.explicitKey
  else if first == ':' && indicator then s.value
  else if first == '*' then
    s.keyable fun s => do let (name, c) ← anchorName s.cursor; return (.alias name, false, c)
  else if first == '&' then
    s.keyable fun s => do let (name, c) ← anchorName s.cursor; return (.anchor name, false, c)
  else if first == '!' then
    s.keyable fun s => do let (t, c) ← tagToken s.inFlow s.cursor; return (t, false, c)
  else if first == '|' && !flow then s.block false
  else if first == '>' && !flow then s.block true
  else if first == '\'' || first == '"' then s.quoted first
  else if beginsPlain flow first rest then s.plain
  else .error .indicator

/-- Reads all tokens. -/
def readAll (s : Stream) : Nat → Except Problem (List Token)
  | 0 => .error .structural
  | fuel + 1 => do
    let s ← s.toNext.refreshKeyPlaces
    let s := s.closeBlocks s.cursor.column
    match s.cursor.rest with
    | [] =>
      let s ← (s.closeBlocks (-1)).dropKeyPlace
      return s.tokens.reverse
    | first :: rest => readAll (← s.token first rest) fuel

end Stream

/-- The tokens of a text. -/
def Token.ofText (s : List Char) : Except Problem (List Token) :=
  if s.all isAllowed then Stream.readAll { cursor := { rest := s } } (s.length + 1)
  else .error .character

end RoleChart.Yaml
