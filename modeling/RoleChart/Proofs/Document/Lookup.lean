import RoleChart.Document.Mapping

/-!
# Looking up nodes

How the node of a name, and the node at a path, follow from the way a mapping was put together. What
stands around a node has no part in it.

## Main statements

* `Mapping.lookup?_append` — the first of two mappings that has a name decides
* `Mapping.lookup?_of_mem` — where no name comes twice, every entry is found
-/

namespace RoleChart.Document

namespace Mapping

/-! ## Names -/

theorem lookup?_eq_find? (m : Mapping) (name : String) :
    lookup? m name = (m.find? (·.1 == name)).map Prod.snd := by
  unfold lookup? position?
  induction m with
  | nil => rfl
  | cons entry rest ih =>
    rw [List.findIdx?_cons, List.find?_cons]
    cases he : entry.1 == name with
    | true => rfl
    | false =>
      rw [← ih]
      cases List.findIdx? (fun e : String × Node => e.1 == name) rest <;> rfl

@[simp] theorem lookup?_nil (name : String) : lookup? [] name = none := rfl

@[simp] theorem lookup?_cons (entry : String × Node) (rest : Mapping) (name : String) :
    lookup? (entry :: rest) name = if entry.1 = name then some entry.2 else lookup? rest name := by
  simp only [lookup?_eq_find?, List.find?_cons]
  by_cases he : entry.1 = name
  · simp [he]
  · simp [he, beq_false_of_ne he]

@[simp] theorem lookup?_append (a b : Mapping) (name : String) :
    lookup? (a ++ b) name = (lookup? a name).or (lookup? b name) := by
  simp only [lookup?_eq_find?, List.find?_append]
  cases a.find? (·.1 == name) <;> rfl

theorem lookup?_eq_none_iff (m : Mapping) (name : String) : lookup? m name = none ↔ name ∉ names m := by
  rw [lookup?_eq_find?, Option.map_eq_none_iff, List.find?_eq_none, names]
  constructor
  · intro h hn
    obtain ⟨entry, he, rfl⟩ := List.mem_map.1 hn
    exact h entry he (beq_self_eq_true _)
  · intro h entry he hn
    exact h (List.mem_map.2 ⟨entry, he, by simpa using hn⟩)

/-- What is found under a name is an entry. -/
theorem mem_of_lookup? {m : Mapping} {name : String} {node : Node} (h : lookup? m name = some node) :
    (name, node) ∈ m := by
  rw [lookup?_eq_find?, Option.map_eq_some_iff] at h
  obtain ⟨⟨key, found⟩, hfind, rfl⟩ := h
  obtain rfl : key = name := by simpa using List.find?_some hfind
  exact List.mem_of_find?_eq_some hfind

/-- A name that no entry has is not found. -/
theorem lookup?_of_forall_ne {m : Mapping} {name : String} (h : ∀ entry ∈ m, entry.1 ≠ name) :
    lookup? m name = none := by
  rw [lookup?_eq_none_iff, names, List.mem_map]
  rintro ⟨entry, he, hn⟩
  exact h entry he hn

/-- Where no name comes twice, every entry is found. -/
theorem lookup?_of_mem {m : Mapping} (hnames : (names m).Nodup) {name : String} {node : Node}
    (h : (name, node) ∈ m) : lookup? m name = some node := by
  induction m with
  | nil => exact absurd h List.not_mem_nil
  | cons entry rest ih =>
    rw [names, List.map_cons, List.nodup_cons] at hnames
    rw [lookup?_cons]
    rcases List.mem_cons.1 h with rfl | h
    · rw [if_pos rfl]
    · have hne : entry.1 ≠ name := by
        intro hc
        exact hnames.1 (hc ▸ List.mem_map_of_mem h)
      rw [if_neg hne]
      exact ih hnames.2 h

end Mapping

/-! ## Paths -/

namespace Node

@[simp] theorem get?_nil (n : Node) : n.get? [] = some n := by cases n <;> rfl

@[simp] theorem get?_entries (m : Mapping) (name : String) (rest : List String) :
    (entries m).get? (name :: rest) = (Mapping.lookup? m name).bind fun n => n.get? rest := rfl

@[simp] theorem get?_withNotes (notes : Notes) (n : Node) (name : String) (rest : List String) :
    (n.withNotes notes).get? (name :: rest) = n.get? (name :: rest) := by
  cases n <;> rfl

@[simp] theorem get?_wrapBlock (block : String) (n : Node) (name : String) (rest : List String) :
    (n.wrapBlock block).get? (name :: rest) = n.get? (name :: rest) :=
  get?_withNotes _ n name rest

@[simp] theorem get?_withBlock (block : String) (n : Node) (name : String) (rest : List String) :
    (n.withBlock block).get? (name :: rest) = n.get? (name :: rest) :=
  get?_withNotes _ n name rest

@[simp] theorem blocks_entries (m : Mapping) : (entries m).blocks = [] := rfl

@[simp] theorem blocks_withBlock (block : String) (n : Node) :
    (n.withBlock block).blocks = n.blocks ++ [block] := by
  simp [withBlock, blocks]

/-- The items of the list at a path. There are none where no list is. -/
def listAt (n : Node) (path : List String) : List Node := ((n.get? path).bind list?).getD []

@[simp] theorem list?_items (nodes : List Node) : (items nodes).list? = some nodes := rfl

@[simp] theorem listAt_wrapBlock (block : String) (n : Node) (name : String) (rest : List String) :
    (n.wrapBlock block).listAt (name :: rest) = n.listAt (name :: rest) := by
  rw [listAt, listAt, get?_wrapBlock]

end Node

end RoleChart.Document
