import RoleChart.Document.Node

/-!
# Mappings

Edits of a mapping by name. Each finds the position of the first entry with the name and acts there,
so an edit keeps the order of all other entries. A path is a list of names that leads through nested
mappings.

## Main statements

* `position?_eq_some_iff` — the position of a name is that of its first entry
* `names_replace` — replacing keeps the names and their order, or adds one name at the end
* `get?_cons` — a path is followed name by name
-/

namespace RoleChart.Document

/-- Why a document cannot be edited. -/
inductive DocumentError where
  | duplicateKey (name : String)
  | missingPath (path : List String)
  | notAList
deriving DecidableEq, Repr

/-- The text of the error. -/
def DocumentError.message : DocumentError → String
  | .duplicateKey name => "duplicate key in mapping: " ++ name
  | .missingPath path => "no node at path: " ++ ".".intercalate path
  | .notAList => "node is not a list"

namespace Mapping

/-! ## Looking up -/

/-- The names in order. -/
def names (m : Mapping) : List String := m.map Prod.fst

/-- The position of a name. -/
def position? (m : Mapping) (name : String) : Option Nat := m.findIdx? fun entry => entry.1 == name

/-- Whether the mapping has the name. -/
def contains (m : Mapping) (name : String) : Bool := (position? m name).isSome

/-- The node of a name. -/
def lookup? (m : Mapping) (name : String) : Option Node :=
  (position? m name).bind fun i => (m[i]?).map Prod.snd

theorem position?_eq_some_iff (m : Mapping) (name : String) (i : Nat) :
    position? m name = some i ↔
      ∃ h : i < m.length, m[i].1 = name ∧ ∀ j (hj : j < i), m[j].1 ≠ name := by
  simp [position?, List.findIdx?_eq_some_iff_getElem]

theorem position?_eq_none_iff (m : Mapping) (name : String) :
    position? m name = none ↔ name ∉ names m := by
  simp only [position?, List.findIdx?_eq_none_iff, names, List.mem_map, not_exists, not_and]
  constructor
  · intro h x hx e
    simpa [e] using h x hx
  · intro h x hx
    simpa using h x hx

/-! ## Editing -/

/-- The mapping with an entry at the end. The name must be new. -/
def add (m : Mapping) (name : String) (node : Node) : Except DocumentError Mapping :=
  if contains m name then .error (.duplicateKey name) else .ok (m ++ [(name, node)])

/-- The mapping with this node for the name, in its place or else at the end, and the node that was
there. -/
def replace (m : Mapping) (name : String) (node : Node) : Option Node × Mapping :=
  match position? m name with
  | some i => ((m[i]?).map Prod.snd, m.set i (name, node))
  | none => (none, m ++ [(name, node)])

/-- The mapping without the name, and the node that was there. -/
def remove (m : Mapping) (name : String) : Option Node × Mapping :=
  match position? m name with
  | some i => ((m[i]?).map Prod.snd, m.eraseIdx i)
  | none => (none, m)

/-- The entries in the order of their names. -/
def sort (m : Mapping) : Mapping := m.mergeSort fun a b => decide (a.1 ≤ b.1)

/-- The mapping with every entry of another. -/
def merge (m other : Mapping) : Mapping :=
  other.foldl (fun acc entry => (replace acc entry.1 entry.2).2) m

/-- A mapping of entries whose names must differ. -/
def ofEntries (list : List (String × Node)) : Except DocumentError Mapping :=
  list.foldlM (fun acc entry => add acc entry.1 entry.2) []

theorem names_replace (m : Mapping) (name : String) (node : Node) :
    names (replace m name node).2 = if name ∈ names m then names m else names m ++ [name] := by
  unfold replace
  cases h : position? m name with
  | none =>
    rw [if_neg ((position?_eq_none_iff m name).1 h)]
    simp [names]
  | some i =>
    have hn : name ∈ names m := by
      refine Decidable.byContradiction fun hc => ?_
      rw [(position?_eq_none_iff m name).2 hc] at h
      simp at h
    rw [if_pos hn]
    obtain ⟨hi, he, _⟩ := (position?_eq_some_iff m name i).1 h
    simp only [names, List.map_set]
    refine List.ext_getElem (by simp) fun j h1 h2 => ?_
    by_cases hj : i = j
    · subst hj; simp [he]
    · simp [List.getElem_set_ne hj]

end Mapping

/-! ## Paths -/

namespace Node

/-- The node at a path. -/
def get? (n : Node) : List String → Option Node
  | [] => some n
  | name :: rest =>
    match n with
    | mapping _ m => (Mapping.lookup? m name).bind fun child => child.get? rest
    | _ => none

/-- The tree with the node at a path changed. -/
def modify? (n : Node) (f : Node → Node) : List String → Option Node
  | [] => some (f n)
  | name :: rest =>
    match n with
    | mapping notes m => do
      let i ← Mapping.position? m name
      let (_, child) ← m[i]?
      let child ← child.modify? f rest
      some (mapping notes (m.set i (name, child)))
    | _ => none

/-- The list with an item at its end. -/
def addItem (n item : Node) : Except DocumentError Node :=
  match n with
  | list notes nodes => .ok (list notes (nodes ++ [item]))
  | _ => .error .notAList

/-- The last item, and the list without it. -/
def popItem (n : Node) : Option Node × Node :=
  match n with
  | list notes nodes => (nodes.getLast?, list notes nodes.dropLast)
  | other => (none, other)

theorem get?_cons (notes : Notes) (m : Mapping) (name : String) (rest : List String) :
    get? (mapping notes m) (name :: rest) = (Mapping.lookup? m name).bind fun n => n.get? rest := rfl

end Node

namespace Mapping

/-- The node at a path. The path is not empty. -/
def get? (m : Mapping) : List String → Option Node
  | [] => none
  | name :: rest => (lookup? m name).bind fun child => child.get? rest

/-- The node at a path that must be there. -/
def require (m : Mapping) (path : List String) : Except DocumentError Node :=
  match get? m path with
  | some node => .ok node
  | none => .error (.missingPath path)

/-- The mapping with this node at a path. Every mapping on the way must be there. -/
def setPath? (m : Mapping) (node : Node) : List String → Option Mapping
  | [] => none
  | [name] => some (replace m name node).2
  | name :: rest => do
    let i ← position? m name
    match ← m[i]? with
    | (_, .mapping notes inner) =>
      let inner ← setPath? inner node rest
      some (m.set i (name, .mapping notes inner))
    | _ => none

/-- As `setPath?`, with the reason if it fails. -/
def setPath (m : Mapping) (path : List String) (node : Node) : Except DocumentError Mapping :=
  match setPath? m node path with
  | some m => .ok m
  | none => .error (.missingPath path)

end Mapping

end RoleChart.Document
