import RoleChart.Document.OfValue
import RoleChart.Proofs.Building

/-!
# Documents without double names

A mapping takes each name once. Most mappings have names from a short fixed list, some of them under
conditions; so it is enough to know the list.

## Main statements

* `Node.Distinct.entries` — a mapping with some of a list of different names takes each name once
* `Node.distinct_ofValue` — the document of a value has no double names
-/

namespace RoleChart.Document

/-- Whether no mapping of a document has a name twice. -/
inductive Node.Distinct : Node → Prop where
  | scalar {notes : Notes} {text : String} : Distinct (.scalar notes text)
  | list {notes : Notes} {nodes : List Node} (h : ∀ n ∈ nodes, Distinct n) : Distinct (.list notes nodes)
  | mapping {notes : Notes} {m : Mapping} (hnames : (Mapping.names m).Nodup)
    (h : ∀ entry ∈ m, Distinct entry.2) : Distinct (.mapping notes m)

/-- Whether a mapping has some of the allowed names, in their order, and nothing below it has double
names. -/
structure Mapping.Among (allowed : List String) (m : Mapping) : Prop where
  names : (Mapping.names m).Sublist allowed
  nodes : ∀ entry ∈ m, entry.2.Distinct

variable {allowed more : List String} {m m' : Mapping} {n : Node} {k : String}

/-! ## Entries that are put together -/

namespace Mapping.Among

/-- No entries are among any names. -/
theorem nil : Among allowed [] := ⟨List.nil_sublist _, fun _ h => absurd h List.not_mem_nil⟩

/-- An entry stands in front, under the first of the names. -/
theorem cons (hn : n.Distinct) (h : Among allowed m) : Among (k :: allowed) ((k, n) :: m) where
  names := h.names.cons_cons k
  nodes := List.forall_mem_cons.2 ⟨hn, h.nodes⟩

theorem single (hn : n.Distinct) : Among [k] [(k, n)] := cons hn nil

/-- Entries in front of others are among the names in front of the others. -/
theorem append (h : Among allowed m) (h' : Among more m') : Among (allowed ++ more) (m ++ m') where
  names := by
    rw [Mapping.names, List.map_append]
    exact h.names.append h'.names
  nodes := List.forall_mem_append.2 ⟨h.nodes, h'.nodes⟩

/-- Entries that are there under a condition. -/
theorem ite {p : Prop} [Decidable p] (h : Among allowed m) (h' : Among allowed m') :
    Among allowed (if p then m else m') := by
  split
  · exact h
  · exact h'

/-- An entry that may be there. -/
theorem optional {node? : Option Node} (h : ∀ node ∈ node?, node.Distinct) :
    Among [k] (node?.toList.map fun node => (k, node)) := by
  cases node? with
  | none => exact nil
  | some node => exact single (h node rfl)

/-- The names of the entries themselves, if they differ. -/
theorem self (h : ∀ entry ∈ m, entry.2.Distinct) : Among (Mapping.names m) m := ⟨List.Sublist.refl _, h⟩

end Mapping.Among

/-! ## Documents -/

namespace Node

/-- Scalars have no names, however they are written. -/
theorem distinct_verbatim (text : String) : (verbatim text).Distinct := .scalar

theorem distinct_string (text : String) : (string text).Distinct := .scalar

theorem distinct_literal (text : String) : (literal text).Distinct := .scalar

theorem distinct_number (k : Nat) : (number k).Distinct := .scalar

theorem distinct_flag (on : Bool) : (flag on).Distinct := .scalar

namespace Distinct

theorem items {nodes : List Node} (h : ∀ n ∈ nodes, n.Distinct) : (Node.items nodes).Distinct := .list h

theorem single (h : n.Distinct) : (Node.items [n]).Distinct :=
  items fun _ hother => List.mem_singleton.1 hother ▸ h

/-- A mapping with some of a list of different names takes each name once. -/
theorem entries (h : Mapping.Among allowed m) (hallowed : allowed.Nodup) : (Node.entries m).Distinct :=
  .mapping (hallowed.sublist h.names) h.nodes

/-- Notes are no names. -/
theorem withNotes (h : n.Distinct) (notes : Notes) : (n.withNotes notes).Distinct := by
  cases h with
  | scalar => exact .scalar
  | list h => exact .list h
  | mapping hnames h => exact .mapping hnames h

theorem withBlock (h : n.Distinct) (block : String) : (n.withBlock block).Distinct := h.withNotes _

theorem wrapBlock (h : n.Distinct) (block : String) : (n.wrapBlock block).Distinct := h.withNotes _

theorem withComment (h : n.Distinct) (comment : String) : (n.withComment comment).Distinct := h.withNotes _

theorem ite {p : Prop} [Decidable p] {other : Node} (h : n.Distinct) (h' : other.Distinct) :
    (if p then n else other).Distinct := by
  split
  · exact h
  · exact h'

end Distinct

end Node

/-! ## Data -/

/-- Replacing makes no name come twice: it sets a node under a name that is there, or adds a new one. -/
theorem Mapping.nodup_names_replace (h : (names m).Nodup) (name : String) (node : Node) :
    (names (replace m name node).2).Nodup := by
  rw [names_replace]
  split
  · exact h
  · next hnew =>
    refine List.nodup_append.2 ⟨h, by simp, ?_⟩
    rintro _ hold _ hname rfl
    exact hnew (List.mem_singleton.1 hname ▸ hold)

/-- After replacing, each node is the new one or an old one. -/
theorem Mapping.forall_mem_replace (h : ∀ entry ∈ m, entry.2.Distinct) (hn : n.Distinct) (name : String) :
    ∀ entry ∈ (replace m name n).2, entry.2.Distinct := by
  unfold replace
  split
  · intro entry hentry
    rcases List.mem_or_eq_of_mem_set hentry with hentry | rfl
    · exact h entry hentry
    · exact hn
  · exact List.forall_mem_append.2 ⟨h, by simpa using hn⟩

mutual

/-- In the document of a value, a name that two keys share is there once. -/
theorem Node.distinct_ofValue (value : Yaml.Value) : (Node.ofValue value).Distinct := by
  cases value with
  | sequence values =>
    rw [Node.ofValue]
    exact .items (distinct_itemsOfValues values)
  | mapping found =>
    rw [Node.ofValue]
    obtain ⟨hnames, hnodes⟩ := distinct_entriesOfValues found [] List.nodup_nil (by simp)
    exact .mapping hnames hnodes
  | tagged _ value =>
    rw [Node.ofValue]
    exact Node.distinct_ofValue value
  | _ =>
    rw [Node.ofValue]
    exact .scalar

theorem distinct_itemsOfValues : ∀ values : List Yaml.Value, ∀ n ∈ itemsOfValues values, n.Distinct
  | [] => by simp [itemsOfValues]
  | value :: values => by
    rw [itemsOfValues]
    exact List.forall_mem_cons.2 ⟨Node.distinct_ofValue value, distinct_itemsOfValues values⟩

/-- Entries that come from a value replace each other, so their names are different whatever the value is. -/
theorem distinct_entriesOfValues : ∀ (found : List (Yaml.Value × Yaml.Value)) (done : Mapping),
    (Mapping.names done).Nodup → (∀ entry ∈ done, entry.2.Distinct) →
      (Mapping.names (entriesOfValues done found)).Nodup ∧
        ∀ entry ∈ entriesOfValues done found, entry.2.Distinct
  | [], done, hnames, hnodes => by rw [entriesOfValues]; exact ⟨hnames, hnodes⟩
  | (key, value) :: found, done, hnames, hnodes => by
    rw [entriesOfValues]
    exact distinct_entriesOfValues found _ (Mapping.nodup_names_replace hnames _ _)
      (Mapping.forall_mem_replace hnodes (Node.distinct_ofValue value) _)

end

end RoleChart.Document
