import RoleChart.Document.Quoting

/-!
# Nodes

A document is a tree of scalars, lists and mappings. Every node may carry a comment, which is
written above it, and template blocks, which are written around both. A scalar holds its written
form, quotes included.

## Main statements

* `same_iff` — `Node.same` decides equality
-/

namespace RoleChart.Document

/-- What stands around a node: a comment that is never empty, and blocks with the outermost
first. -/
structure Notes where
  comment : Option String := none
  blocks : List String := []
deriving DecidableEq, Repr, Inhabited

/-- A node of a document. The names of a mapping keep their order. -/
inductive Node where
  | scalar (notes : Notes) (text : String)
  | list (notes : Notes) (items : List Node)
  | mapping (notes : Notes) (entries : List (String × Node))
deriving Inhabited

/-- Names and nodes in order. -/
abbrev Mapping := List (String × Node)

namespace Node

/-! ## Making nodes -/

/-- A scalar in its written form, for template expressions and for text that is quoted already. -/
def verbatim (text : String) : Node := scalar {} text

/-- A text that may hold template expressions. -/
def string (text : String) : Node := scalar {} (String.ofList (quote text.toList))

/-- A text that is data. -/
def literal (text : String) : Node := scalar {} (String.ofList (quoteLiteral text.toList))

/-- The null marker. -/
def null : Node := scalar {} "~"

/-- A number. -/
def number (n : Nat) : Node := scalar {} (String.ofList (Text.decimal n))

/-- A number that may be negative. -/
def integer (z : Int) : Node := scalar {} (String.ofList (Text.decimalInt z))

/-- A truth value. -/
def flag (b : Bool) : Node := scalar {} (if b then "true" else "false")

/-- A list. -/
def items (nodes : List Node) : Node := list {} nodes

/-- A mapping. -/
def entries (m : Mapping) : Node := mapping {} m

/-! ## Notes -/

/-- What stands around the node. -/
def notes : Node → Notes
  | scalar notes _ | list notes _ | mapping notes _ => notes

/-- The node with other notes. -/
def withNotes (notes : Notes) : Node → Node
  | scalar _ text => scalar notes text
  | list _ nodes => list notes nodes
  | mapping _ m => mapping notes m

/-- The comment. -/
def comment (n : Node) : Option String := n.notes.comment

/-- All blocks, the outermost first. -/
def blocks (n : Node) : List String := n.notes.blocks

/-- The outermost block. -/
def block? (n : Node) : Option String := n.blocks.head?

/-- The node with this comment alone. An empty text takes the comment away. -/
def withComment (text : String) (n : Node) : Node :=
  n.withNotes { n.notes with comment := if text.isEmpty then none else some text }

/-- The node with a further block inside the others. -/
def withBlock (block : String) (n : Node) : Node :=
  n.withNotes { n.notes with blocks := n.blocks ++ [block] }

/-- The node with this block alone. -/
def setBlock (block : String) (n : Node) : Node := n.withNotes { n.notes with blocks := [block] }

/-- The node with a further block around the others. -/
def wrapBlock (block : String) (n : Node) : Node :=
  n.withNotes { n.notes with blocks := block :: n.blocks }

/-- The node with the value of another. Its notes stay. -/
def setValue (n value : Node) : Node := value.withNotes n.notes

@[simp] theorem notes_withNotes (notes : Notes) (n : Node) : (n.withNotes notes).notes = notes := by
  cases n <;> rfl

@[simp] theorem withNotes_self (n : Node) : n.withNotes n.notes = n := by cases n <;> rfl

@[simp] theorem withNotes_withNotes (a b : Notes) (n : Node) :
    (n.withNotes a).withNotes b = n.withNotes b := by cases n <;> rfl

/-! ## Shape -/

/-- The written form of a scalar. -/
def scalar? : Node → Option String
  | scalar _ text => some text
  | _ => none

/-- The items of a list. -/
def list? : Node → Option (List Node)
  | list _ nodes => some nodes
  | _ => none

/-- The entries of a mapping. -/
def mapping? : Node → Option Mapping
  | mapping _ m => some m
  | _ => none

/-! ## Equality -/

mutual

/-- Whether two nodes are the same, notes and order included. -/
def same : Node → Node → Bool
  | scalar a s, scalar b t => a == b && s == t
  | list a xs, list b ys => a == b && sameItems xs ys
  | mapping a xs, mapping b ys => a == b && sameEntries xs ys
  | _, _ => false

/-- Whether two lists have the same items. -/
def sameItems : List Node → List Node → Bool
  | [], [] => true
  | x :: xs, y :: ys => same x y && sameItems xs ys
  | _, _ => false

/-- Whether two mappings have the same entries in the same order. -/
def sameEntries : List (String × Node) → List (String × Node) → Bool
  | [], [] => true
  | (a, x) :: xs, (b, y) :: ys => a == b && same x y && sameEntries xs ys
  | _, _ => false

end

mutual

theorem same_iff (x y : Node) : same x y = true ↔ x = y := by
  cases x <;> cases y <;> simp [same, sameItems_iff, sameEntries_iff]

theorem sameItems_iff (xs ys : List Node) : sameItems xs ys = true ↔ xs = ys := by
  cases xs with
  | nil => cases ys <;> simp [sameItems]
  | cons x xs =>
    cases ys with
    | nil => simp [sameItems]
    | cons y ys => simp [sameItems, same_iff x y, sameItems_iff xs ys]

theorem sameEntries_iff (xs ys : List (String × Node)) : sameEntries xs ys = true ↔ xs = ys := by
  cases xs with
  | nil => cases ys <;> simp [sameEntries]
  | cons x xs =>
    cases ys with
    | nil => simp [sameEntries]
    | cons y ys =>
      simp [sameEntries, same_iff x.2 y.2, sameEntries_iff xs ys, Prod.ext_iff]

end

instance : DecidableEq Node := fun x y => decidable_of_iff _ (same_iff x y)

end Node

end RoleChart.Document
