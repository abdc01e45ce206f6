import RoleChart.Document.Mapping
import Std.Data.HashMap

/-!
# Indexed mappings

The entries of a mapping in order, together with an index that takes every name to its position. Look-ups
and edits ask the index alone. Whatever moves entries makes the index anew.
-/

namespace RoleChart.Document

/-- Entries in order, and the positions of their names. -/
structure Indexed (α : Type) where
  entries : List (String × α)
  index : Std.HashMap String Nat

namespace Indexed

variable {α : Type}

/-- The mapping without entries. -/
def empty : Indexed α := ⟨[], ∅⟩

/-- The positions of the names of some entries. -/
def positions (entries : List (String × α)) : Std.HashMap String Nat :=
  .ofList (entries.map Prod.fst).zipIdx

/-! ## Looking up -/

/-- The names in order. -/
def names (m : Indexed α) : List String := m.entries.map Prod.fst

/-- The number of entries. -/
def length (m : Indexed α) : Nat := m.entries.length

/-- Whether the mapping has the name. -/
def contains (m : Indexed α) (name : String) : Bool := m.index.contains name

/-- What stands at a position. -/
def at? (m : Indexed α) (pos : Nat) : Option α := (m.entries[pos]?).map Prod.snd

/-- What stands under a name. -/
def lookup? (m : Indexed α) (name : String) : Option α := (m.index[name]?).bind m.at?

/-! ## Editing -/

/-- The mapping with another value at a position. The name there stays. -/
def setAt (m : Indexed α) (pos : Nat) (x : α) : Indexed α :=
  { m with entries := m.entries.modify pos fun entry => (entry.1, x) }

/-- The mapping with an entry at its end. -/
def push (m : Indexed α) (name : String) (x : α) : Indexed α :=
  ⟨m.entries ++ [(name, x)], m.index.insert name m.entries.length⟩

/-- Adds an entry whose name must be new. -/
def add (m : Indexed α) (name : String) (x : α) : Except DocumentError (Indexed α) :=
  if m.contains name then .error (.duplicateKey name) else .ok (m.push name x)

/-- Replaces what stands under a name, or else adds an entry. -/
def replace (m : Indexed α) (name : String) (x : α) : Option α × Indexed α :=
  match m.index[name]? with
  | some pos => (m.at? pos, m.setAt pos x)
  | none => (none, m.push name x)

/-- Takes the entry of a name away. -/
def remove (m : Indexed α) (name : String) : Option α × Indexed α :=
  match m.index[name]? with
  | some pos =>
    let entries := m.entries.eraseIdx pos
    (m.at? pos, ⟨entries, positions entries⟩)
  | none => (none, m)

/-- Brings the entries in the order of their names. -/
def sort (m : Indexed α) : Indexed α :=
  let entries := m.entries.mergeSort fun a b => decide (a.1 ≤ b.1)
  ⟨entries, positions entries⟩

/-- Replaces or adds every entry of another mapping. -/
def merge (m other : Indexed α) : Indexed α :=
  other.entries.foldl (fun acc entry => (acc.replace entry.1 entry.2).2) m

end Indexed

/-- A node of a document whose mappings are indexed. -/
inductive IndexedNode where
  | scalar (notes : Notes) (text : String)
  | list (notes : Notes) (items : List IndexedNode)
  | mapping (notes : Notes) (m : Indexed IndexedNode)
deriving Inhabited

namespace IndexedNode

mutual

/-- The node without its indexes. -/
def toNode : IndexedNode → Node
  | scalar notes text => .scalar notes text
  | list notes items => .list notes (toNodes items)
  | mapping notes ⟨entries, _⟩ => .mapping notes (toEntries entries)

/-- Some nodes without their indexes. -/
def toNodes : List IndexedNode → List Node
  | [] => []
  | n :: rest => n.toNode :: toNodes rest

/-- Some entries without the indexes of their nodes. -/
def toEntries : List (String × IndexedNode) → Mapping
  | [] => []
  | (name, n) :: rest => (name, n.toNode) :: toEntries rest

end

end IndexedNode

/-! ## Paths -/

namespace IndexedNode

/-- The mapping of a node. -/
def mapping? : IndexedNode → Option (Indexed IndexedNode)
  | mapping _ m => some m
  | _ => none

/-- The node at a path. -/
def get? (n : IndexedNode) : List String → Option IndexedNode
  | [] => some n
  | name :: rest =>
    match n with
    | mapping _ m => (m.lookup? name).bind fun child => child.get? rest
    | _ => none

/-- The node at a path, and the tree with another node in its place. -/
def getMut? (n : IndexedNode) : List String → Option (IndexedNode × (IndexedNode → IndexedNode))
  | [] => some (n, id)
  | name :: rest =>
    match n with
    | mapping notes m => do
      let pos ← m.index[name]?
      let child ← m.at? pos
      let (found, put) ← child.getMut? rest
      some (found, fun x => mapping notes (m.setAt pos (put x)))
    | _ => none

end IndexedNode

namespace Indexed

/-- The node at a path. The path is not empty. -/
def get? (m : Indexed IndexedNode) : List String → Option IndexedNode
  | [] => none
  | name :: rest => (m.lookup? name).bind fun child => child.get? rest

/-- The node at a path, and the mapping with another node in its place. -/
def getMut? (m : Indexed IndexedNode) :
    List String → Option (IndexedNode × (IndexedNode → Indexed IndexedNode))
  | [] => none
  | name :: rest => do
    let pos ← m.index[name]?
    let child ← m.at? pos
    let (found, put) ← child.getMut? rest
    some (found, fun x => m.setAt pos (put x))

/-- The node at a path that must be there. -/
def require (m : Indexed IndexedNode) (path : List String) : Except DocumentError IndexedNode :=
  match m.get? path with
  | some node => .ok node
  | none => .error (.missingPath path)

/-- Replaces the last name of a path in the mapping that the names in front of it lead to. -/
def setPath (m : Indexed IndexedNode) (path : List String) (node : IndexedNode) :
    Except DocumentError (Indexed IndexedNode) :=
  match path.getLast? with
  | none => .error (.missingPath path)
  | some last =>
    if path.dropLast.isEmpty then .ok (m.replace last node).2
    else
      match m.getMut? path.dropLast with
      | some (.mapping notes inner, put) => .ok (put (.mapping notes (inner.replace last node).2))
      | _ => .error (.missingPath path)

end Indexed

/-! ## Edits -/

/-- An edit of a mapping, or a question to it. -/
inductive Edit (ν : Type) where
  | add (name : String) (node : ν)
  | replace (name : String) (node : ν)
  | remove (name : String)
  | setPath (path : List String) (node : ν)
  | sort
  | merge (other : ν)
  | names
  | contains (name : String)
  | get (path : List String)
  | require (path : List String)

/-- The answer to an edit. -/
inductive Reply (ν : Type) where
  | done
  | found (node : Option ν)
  | flag (b : Bool)
  | names (names : List String) (length : Nat)
  | failed (e : DocumentError)
  /-- Nothing stands at the place of the edit. -/
  | noTarget
  /-- What stands there, or what is merged into it, is no mapping. -/
  | notAMapping

/-- An edit that may fail, without a result. A failed edit changes nothing. -/
def Reply.ofExcept {ν μ : Type} (m : μ) : Except DocumentError μ → Reply ν × μ
  | .ok m => (.done, m)
  | .error e => (.failed e, m)

/-- The answer of a mapping, and the mapping after it. -/
def Indexed.edit (m : Indexed IndexedNode) : Edit IndexedNode → Reply IndexedNode × Indexed IndexedNode
  | .add name node => Reply.ofExcept m (m.add name node)
  | .replace name node => (.found (m.replace name node).1, (m.replace name node).2)
  | .remove name => (.found (m.remove name).1, (m.remove name).2)
  | .setPath path node => Reply.ofExcept m (m.setPath path node)
  | .sort => (.done, m.sort)
  | .merge (.mapping _ other) => (.done, m.merge other)
  | .merge _ => (.notAMapping, m)
  | .names => (.names m.names m.length, m)
  | .contains name => (.flag (m.contains name), m)
  | .get path => (.found (m.get? path), m)
  | .require path =>
    match m.require path with
    | .ok node => (.found (some node), m)
    | .error e => (.failed e, m)

/-- The answer of what stands at a place, and the tree after it. -/
def IndexedNode.edit (n : IndexedNode) (place : List String) (e : Edit IndexedNode) :
    Reply IndexedNode × IndexedNode :=
  match n.getMut? place with
  | some (.mapping notes m, put) => ((m.edit e).1, put (.mapping notes (m.edit e).2))
  | some _ => (.notAMapping, n)
  | none => (.noTarget, n)

end RoleChart.Document
