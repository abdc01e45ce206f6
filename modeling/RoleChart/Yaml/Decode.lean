import RoleChart.Yaml.Resolve
import RoleChart.Yaml.Tree

/-!
# Decoding

Values and records from the nodes of a document. Collections may nest to a limited depth, and
following aliases is limited by the size of the document, so that decoding ends on every document.
-/

namespace RoleChart.Yaml

open Decimal (Binary64)

/-- How deep collections may nest. -/
def maxDepth : Nat := 128

/-- A step of decoding: it knows the document and the number of aliases that were followed. -/
abbrev Decode (α : Type) := ReaderT Document (StateT Nat (Except Problem)) α

namespace Decode

/-- The node itself, or what an alias refers to. -/
def resolve (t : Tree) : Decode Tree := do
  match t with
  | .alias slot =>
    let document ← read
    let followed := (← get) + 1
    set followed
    if document.size * 100 < followed then throw .tooManyAliases
    match document.slots.lookup slot with
    | some target => return target
    | none => throw .unknownAnchor
  | t => return t

/-! ## Values -/

/-- The tags of the scalar kinds. -/
def coreTag (name : String) : String := "tag:yaml.org,2002:" ++ name

/-- The name of a local tag, without its exclamation mark. -/
def localTag? (tag : Option String) : Option String :=
  tag.bind fun t =>
    match t.toList with
    | '!' :: name => some (String.ofList name)
    | _ => none

/-- The value of a scalar. A tag of a scalar kind asks for that kind whatever the style; any other
tag that is not local makes a text. -/
def scalarValue (tag : Option String) (style : Style) (text : String) : Except Problem Value :=
  match (if (localTag? tag).isSome then none else tag) with
  | none => if style = .plain then plainValue text else .ok (.string text)
  | some t =>
    let orWrong (v : Option Value) : Except Problem Value := v.elim (.error .wrongType) .ok
    if t = coreTag "bool" then orWrong ((bool? text).map .bool)
    else if t = coreTag "int" then
      match integerText text.toList with
      | .fits z => .ok (.int z)
      | _ => .error .wrongType
    else if t = coreTag "float" then orWrong ((float? text).map .float)
    else if t = coreTag "null" then orWrong (if isNullWord text then some .null else none)
    else .ok (.string text)

/-- The entries of a mapping. No two keys are equal. -/
def distinctEntries (decode : Tree → Decode Value) (done : List (Value × Value)) :
    List (Tree × Tree) → Decode (List (Value × Value))
  | [] => return done.reverse
  | (k, v) :: rest => do
    let key ← decode k
    if done.any fun entry => entry.1.same key then throw .duplicateKey
    let value ← decode v
    distinctEntries decode ((key, value) :: done) rest

/-- A value with its local tag. The tag has a name. -/
def tagged (tag : Option String) (v : Value) : Decode Value := do
  match localTag? tag with
  | none => return v
  | some name => if name.isEmpty then throw .tag else return .tagged ("!" ++ name) v

/-- The value of a node, up to a depth. -/
def valueWithin : Nat → Tree → Decode Value
  | depth, t => do
    match ← resolve t with
    | .void => return .null
    | .alias _ => throw .unknownAnchor
    | .scalar tag style text => tagged tag (← scalarValue tag style text)
    | .sequence tag items =>
      match depth with
      | 0 => throw .tooDeep
      | depth + 1 => tagged tag (.sequence (← items.mapM fun item => valueWithin depth item))
    | .mapping tag entries =>
      match depth with
      | 0 => throw .tooDeep
      | depth + 1 =>
        tagged tag (.mapping (← distinctEntries (fun part => valueWithin depth part) [] entries))

/-! ## Scalars of a type -/

/-- A node to be decoded, and the depth that is left for it. -/
structure Item where
  depth : Nat
  tree : Tree

/-- The value of an item. -/
def value (i : Item) : Decode Value := valueWithin i.depth i.tree

/-- The text of any scalar. -/
def text (i : Item) : Decode String := do
  match ← resolve i.tree with
  | .scalar _ _ text => return text
  | _ => throw .wrongType

/-- A scalar that is plain, or a literal block with the tag of its kind, read by its spelling. -/
def spelled {α : Type} (kind : String) (read? : String → Option α) (i : Item) : Decode α := do
  match ← resolve i.tree with
  | .scalar tag style text =>
    if style = .plain || (style = .literal && tag = some (coreTag kind)) then
      match read? text with
      | some x => return x
      | none => throw .wrongType
    else throw .wrongType
  | _ => throw .wrongType

/-- A truth value. -/
def bool : Item → Decode Bool := spelled "bool" bool?

/-- A whole number below a bound. -/
def natBelow (bound : Nat) : Item → Decode Nat :=
  spelled "int" fun s => (unsigned? (Nat.pow 2 64) s.toList).filter (· < bound)

/-- A float. -/
def float : Item → Decode Binary64 := spelled "float" float?

/-- One of several names. The name may also be the tag of an empty node. -/
def oneOf {α : Type} (names : List (String × α)) (i : Item) : Decode α := do
  let name ←
    match ← resolve i.tree with
    | .scalar tag style text =>
      match localTag? tag with
      | none => pure text
      | some name =>
        if style = .plain && (text.isEmpty || isNullWord text) then pure name else throw .wrongType
    | _ => throw .wrongType
  match names.lookup name with
  | some x => return x
  | none => throw .wrongType

/-- Nothing where the node is null or empty, otherwise what it holds. -/
def optional {α : Type} (decode : Item → Decode α) (i : Item) : Decode (Option α) := do
  let t ← resolve i.tree
  let present ←
    match t with
    | .void => pure false
    | .scalar tag .plain text =>
      match tag with
      | some tag =>
        if tag = coreTag "null" then
          if isNullWord text then pure false else throw .wrongType
        else pure true
      | none => pure (!(text.isEmpty || isNullWord text))
    | _ => pure true
  if present then return some (← decode { i with tree := t }) else return none

/-! ## Collections -/

/-- Whether a node stands for an empty collection. -/
def isLeftOut : Tree → Bool
  | .void => true
  | .scalar _ .plain text => text.isEmpty
  | _ => false

/-- The items one level deeper. -/
def deeper (i : Item) : Decode Nat :=
  match i.depth with
  | 0 => throw .tooDeep
  | depth + 1 => return depth

/-- A list. -/
def list {α : Type} (decode : Item → Decode α) (i : Item) : Decode (List α) := do
  match ← resolve i.tree with
  | .sequence _ items =>
    let depth ← deeper i
    items.mapM fun item => decode ⟨depth, item⟩
  | t => if isLeftOut t then return [] else throw .wrongType

/-- The entries of a mapping whose keys are texts. -/
def entries (i : Item) : Decode (List (String × Item)) := do
  match ← resolve i.tree with
  | .mapping _ entries =>
    let depth ← deeper i
    entries.mapM fun (key, value) => return (← text ⟨depth, key⟩, ⟨depth, value⟩)
  | t => if isLeftOut t then return [] else throw .wrongType

/-- The entry of a name put in order. A later entry of a name takes the place of an earlier one. -/
def insertSorted {α : Type} (name : String) (x : α) : List (String × α) → List (String × α)
  | [] => [(name, x)]
  | (other, y) :: rest =>
    if name < other then (name, x) :: (other, y) :: rest
    else if name = other then (name, x) :: rest
    else (other, y) :: insertSorted name x rest

/-- Entries in the order of their names. -/
def sortedMap {α : Type} (decode : Item → Decode α) (i : Item) : Decode (List (String × α)) := do
  let found ← (← entries i).mapM fun (name, item) => return (name, ← decode item)
  return found.foldl (fun acc (name, x) => insertSorted name x acc) []

/-! ## Records -/

/-- The fields of a record. Fields with other names are not looked at. -/
abbrev Fields := List (String × Item)

/-- The fields of a record, of which none is given twice. -/
def fields (names : List String) (i : Item) : Decode Fields := do
  let found := (← entries i).filter fun entry => names.contains entry.1
  if (found.map Prod.fst).eraseDups.length = found.length then return found
  else throw .duplicateKey

/-- A field that must be there. -/
def required {α : Type} (fs : Fields) (name : String) (decode : Item → Decode α) : Decode α :=
  match fs.lookup name with
  | some item => decode item
  | none => throw .wrongType

/-- A field with a default. -/
def orElse {α : Type} (fs : Fields) (name : String) (default : α) (decode : Item → Decode α) :
    Decode α :=
  match fs.lookup name with
  | some item => decode item
  | none => return default

/-- A field that may be left out or null. -/
def maybe {α : Type} (fs : Fields) (name : String) (decode : Item → Decode α) : Decode (Option α) :=
  orElse fs name none (optional decode)

/-- Decodes the document of a text. -/
def ofText {α : Type} (decode : Item → Decode α) (s : String) : Except Problem α := do
  let document ← Document.ofText s
  let (x, _) ← ((decode ⟨maxDepth, document.root⟩).run document).run 0
  return x

end Decode

/-- The value of a text. -/
def Value.ofText (s : String) : Except Problem Value := Decode.ofText Decode.value s

end RoleChart.Yaml
