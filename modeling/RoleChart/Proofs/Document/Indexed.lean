import Mathlib.Data.List.InsertIdx
import RoleChart.Document.Indexed
import RoleChart.Proofs.Document.Lookup

/-!
# Indexes and plain entries

The index of a mapping repeats what its entries say. As long as no name comes twice and the index takes
exactly the names to their positions, every look-up and every edit is the one of the plain list of
entries, and leaves a mapping of which the same is true. Only what moves entries could leave the index
behind, and it makes the index anew.

## Main statements

* `Sound.replace`, `Sound.remove`, `Sound.sort`, … — each edit keeps index and entries in step
* `toMapping_replace`, `toMapping_remove`, … — each edit is that of the plain entries
* `Sound.get?_toNode`, `Sound.getMut?` — a node is found and put back as in the plain tree
* `Deep.toMapping_setPath`, `Deep.setPath` — so a path is set as in the plain entries
-/

namespace RoleChart.Document

namespace Indexed

variable {α : Type} {m m' other : Indexed α} {name : String} {x : α} {pos : Nat}

/-! ## Index and entries -/

/-- No name comes twice, and the index takes exactly the names to their positions. -/
structure Sound (m : Indexed α) : Prop where
  nodup : m.names.Nodup
  index : ∀ (name : String) (pos : Nat), m.index[name]? = some pos ↔ m.names[pos]? = some name

theorem sound_empty : (empty : Indexed α).Sound where
  nodup := List.nodup_nil
  index name pos := by simp [empty, names]

/-- The index knows no name that is not there, and each that is. -/
theorem Sound.index_eq_none_iff (h : m.Sound) : m.index[name]? = none ↔ name ∉ m.names := by
  rw [Option.eq_none_iff_forall_ne_some, List.mem_iff_getElem?, not_exists]
  exact forall_congr' fun pos => not_congr (h.index name pos)

theorem contains_eq_isSome (m : Indexed α) (name : String) :
    m.contains name = m.index[name]?.isSome := Std.HashMap.contains_eq_isSome_getElem?

/-! ## Edits that keep the positions -/

/-- A pushed entry comes last. -/
@[simp] theorem names_push (m : Indexed α) (name : String) (x : α) :
    (m.push name x).names = m.names ++ [name] := by
  simp [push, names]

/-- A node that is put in the place of another leaves all names as they are. -/
@[simp] theorem names_setAt (m : Indexed α) (pos : Nat) (x : α) : (m.setAt pos x).names = m.names := by
  refine List.ext_getElem? fun i => ?_
  simp only [names, setAt, List.getElem?_map, List.getElem?_modify]
  cases m.entries[i]? with
  | none => rfl
  | some entry => split <;> rfl

/-- A new name can come last: its position is the number of the entries before it. -/
theorem Sound.push (h : m.Sound) (hnew : name ∉ m.names) (x : α) : (m.push name x).Sound where
  nodup := by
    rw [names_push, List.nodup_append]
    refine ⟨h.nodup, by simp, ?_⟩
    rintro a ha b hb rfl
    exact hnew (List.mem_singleton.1 hb ▸ ha)
  index other pos := by
    have hlength : m.entries.length = m.names.length := (List.length_map _).symm
    have hnone : ∀ p, m.names[p]? ≠ some name := fun p hp => hnew (List.mem_of_getElem? hp)
    have hindex : (m.push name x).index[other]?
        = if name = other then some m.names.length else m.index[other]? := by
      simp [Indexed.push, Std.HashMap.getElem?_insert, hlength]
    rw [names_push, hindex]
    by_cases hother : name = other
    · subst hother
      rw [if_pos rfl, Option.some.injEq]
      constructor
      · rintro rfl
        simp
      · intro hpos
        -- the name is nowhere in front of the end, so it stands there
        rcases Nat.lt_trichotomy pos m.names.length with hlt | heq | hgt
        · rw [List.getElem?_append_left hlt] at hpos
          exact absurd hpos (hnone pos)
        · exact heq.symm
        · rw [List.getElem?_eq_none (by simp; omega)] at hpos
          cases hpos
    · rw [if_neg hother, h.index]
      rcases Nat.lt_trichotomy pos m.names.length with hlt | rfl | hgt
      · rw [List.getElem?_append_left hlt]
      · simp [hother]
      · rw [List.getElem?_eq_none (Nat.le_of_lt hgt), List.getElem?_eq_none (by simp; omega)]

/-- Only nodes change, and the index has nothing to do with them. -/
theorem Sound.setAt (h : m.Sound) (pos : Nat) (x : α) : (m.setAt pos x).Sound where
  nodup := by
    rw [names_setAt]
    exact h.nodup
  index other p := by
    rw [names_setAt]
    exact h.index other p

/-- An entry is added where the index does not know its name. -/
theorem add_eq_ok_iff : m.add name x = .ok m' ↔ m.index[name]? = none ∧ m.push name x = m' := by
  rw [Indexed.add, contains_eq_isSome]
  cases m.index[name]? with
  | none => simp
  | some pos => simp

/-- Adding takes a name only if the index does not know it, so it stays sound. -/
theorem Sound.add (h : m.Sound) (hadd : m.add name x = .ok m') : m'.Sound := by
  obtain ⟨hnew, rfl⟩ := add_eq_ok_iff.1 hadd
  exact h.push (h.index_eq_none_iff.1 hnew) x

/-- Replacing sets a node or pushes an entry, and each of both keeps the index sound. -/
theorem Sound.replace (h : m.Sound) (name : String) (x : α) : (m.replace name x).2.Sound := by
  unfold Indexed.replace
  split
  · exact h.setAt _ x
  · next hnone => exact h.push (h.index_eq_none_iff.1 hnone) x

/-- Merging is replacing one entry after the other. -/
theorem Sound.merge (h : m.Sound) (other : Indexed α) : (m.merge other).Sound := by
  unfold Indexed.merge
  induction other.entries generalizing m with
  | nil => exact h
  | cons entry rest ih => exact ih (h.replace entry.1 entry.2)

/-! ## Edits that move entries -/

/-- An index that is made anew takes the names to their positions. -/
theorem sound_positions {entries : List (String × α)} (h : (entries.map Prod.fst).Nodup) :
    Sound ⟨entries, positions entries⟩ where
  nodup := h
  index name pos := by
    have hdistinct : (entries.map Prod.fst).zipIdx.Pairwise fun a b => (a.1 == b.1) = false := by
      rw [← List.zipIdx_map_fst 0 (entries.map Prod.fst)] at h
      exact (List.pairwise_map.1 h).imp fun hne => beq_false_of_ne hne
    have hfound {p : Nat} (hp : (entries.map Prod.fst)[p]? = some name) :
        (positions entries)[name]? = some p :=
      Std.HashMap.getElem?_ofList_of_mem (beq_self_eq_true name) hdistinct
        (List.mk_mem_zipIdx_iff_getElem?.2 hp)
    refine ⟨fun hpos => ?_, hfound⟩
    by_cases hname : name ∈ entries.map Prod.fst
    · obtain ⟨p, hp⟩ := List.mem_iff_getElem?.1 hname
      obtain rfl := Option.some.inj (hpos.symm.trans (hfound hp))
      exact hp
    · have hnone : (positions entries)[name]? = none := by
        refine Std.HashMap.getElem?_ofList_of_contains_eq_false ?_
        rw [List.zipIdx_map_fst]
        simpa using hname
      exact nomatch hpos.symm.trans hnone

/-- Removing moves the entries behind, so the index is made anew. -/
theorem Sound.remove (h : m.Sound) (name : String) : (m.remove name).2.Sound := by
  unfold Indexed.remove
  split
  · refine sound_positions ?_
    exact h.nodup.sublist (List.Sublist.map _ (List.eraseIdx_sublist _ _))
  · exact h

/-- Sorting moves all entries, so the index is made anew. -/
theorem Sound.sort (h : m.Sound) : m.sort.Sound :=
  sound_positions (((List.mergeSort_perm m.entries _).map Prod.fst).nodup_iff.2 h.nodup)

end Indexed

/-! ## Plain entries -/

namespace IndexedNode

/-- The plain entries are those of the indexed ones, one by one. -/
theorem toEntries_eq_map (entries : List (String × IndexedNode)) :
    toEntries entries = entries.map fun entry => (entry.1, entry.2.toNode) := by
  induction entries with
  | nil => rfl
  | cons entry rest ih => rw [toEntries, ih, List.map_cons]

theorem toNodes_eq_map (nodes : List IndexedNode) : toNodes nodes = nodes.map toNode := by
  induction nodes with
  | nil => rfl
  | cons node rest ih => rw [toNodes, ih, List.map_cons]

end IndexedNode

namespace Indexed

variable {m m' other : Indexed IndexedNode} {name : String} {x : IndexedNode} {pos : Nat}

/-- The plain entries of a mapping. -/
def toMapping (m : Indexed IndexedNode) : Mapping :=
  m.entries.map fun entry => (entry.1, entry.2.toNode)

/-- A mapping as a plain node has the plain entries. -/
@[simp] theorem toNode_mapping (notes : Notes) (m : Indexed IndexedNode) :
    (IndexedNode.mapping notes m).toNode = .mapping notes m.toMapping := by
  rw [IndexedNode.toNode, IndexedNode.toEntries_eq_map, toMapping]

theorem names_toMapping (m : Indexed IndexedNode) : Mapping.names m.toMapping = m.names := by
  simp [Mapping.names, toMapping, names]

theorem length_toMapping (m : Indexed IndexedNode) : m.toMapping.length = m.length := List.length_map _

/-- The same node stands at each position. -/
theorem getElem?_toMapping (m : Indexed IndexedNode) (pos : Nat) :
    (m.toMapping[pos]?).map Prod.snd = (m.at? pos).map IndexedNode.toNode := by
  simp [toMapping, at?, Option.map_map, Function.comp_def]

/-- The index finds the entry that a search from the front finds. -/
theorem Sound.position?_eq (h : m.Sound) (name : String) :
    Mapping.position? m.toMapping name = m.index[name]? := by
  refine Option.ext fun pos => ?_
  have hget : ∀ i (hi : i < m.toMapping.length), m.names[i]? = some (m.toMapping[i].1) := by
    intro i hi
    rw [← names_toMapping, Mapping.names, List.getElem?_map, List.getElem?_eq_getElem hi, Option.map_some]
  rw [Mapping.position?_eq_some_iff, h.index]
  constructor
  · rintro ⟨hpos, hname, -⟩
    rw [hget pos hpos, hname]
  · intro hpos
    have hlt : pos < m.toMapping.length := by
      have := (List.getElem?_eq_some_iff.1 hpos).1
      rwa [← names_toMapping, Mapping.names, List.length_map] at this
    refine ⟨hlt, Option.some.inj ((hget pos hlt).symm.trans hpos), fun j hj hname => ?_⟩
    -- no other position has the name, least of all one in front
    have hsame : m.names[j]? = m.names[pos]? := by
      rw [hget j (Nat.lt_trans hj hlt), hname, hpos]
    have hjlt : j < m.names.length := by
      rw [← names_toMapping, Mapping.names, List.length_map]
      exact Nat.lt_trans hj hlt
    exact absurd ((List.getElem?_inj hjlt h.nodup).1 hsame) (Nat.ne_of_lt hj)

/-- The index knows just the names of the plain entries. -/
theorem Sound.contains_toMapping (h : m.Sound) (name : String) :
    Mapping.contains m.toMapping name = m.contains name := by
  rw [Mapping.contains, h.position?_eq, contains_eq_isSome]

/-- Looking a name up in the index is looking for it in the plain entries. -/
theorem Sound.lookup?_toMapping (h : m.Sound) (name : String) :
    Mapping.lookup? m.toMapping name = (m.lookup? name).map IndexedNode.toNode := by
  rw [Mapping.lookup?, h.position?_eq, lookup?]
  cases m.index[name]? with
  | none => rfl
  | some pos => exact getElem?_toMapping m pos

/-! ## Edits of plain entries -/

/-- A pushed entry is the last one of the plain entries as well. -/
theorem toMapping_push (m : Indexed IndexedNode) (name : String) (x : IndexedNode) :
    (m.push name x).toMapping = m.toMapping ++ [(name, x.toNode)] := by
  simp [push, toMapping]

/-- The entry at the position of a name keeps that name. -/
theorem Sound.toMapping_setAt (h : m.Sound) (hpos : m.index[name]? = some pos) (x : IndexedNode) :
    (m.setAt pos x).toMapping = m.toMapping.set pos (name, x.toNode) := by
  have hname := (h.index name pos).1 hpos
  refine List.ext_getElem? fun i => ?_
  by_cases hi : pos = i
  · subst hi
    obtain ⟨entry, hentry, hfst⟩ := Option.map_eq_some_iff.1 (List.getElem?_map ▸ hname)
    obtain ⟨hlt, rfl⟩ := List.getElem?_eq_some_iff.1 hentry
    simp [toMapping, Indexed.setAt, hfst, hlt]
  · simp [toMapping, Indexed.setAt, List.getElem?_modify, List.getElem?_set_ne hi, if_neg hi]

/-- Adding is that of the plain entries, and refuses the same names. -/
theorem Sound.toMapping_add (h : m.Sound) (name : String) (x : IndexedNode) :
    (m.add name x).map toMapping = Mapping.add m.toMapping name x.toNode := by
  unfold Indexed.add Mapping.add
  rw [h.contains_toMapping]
  split
  · rfl
  · exact congrArg Except.ok (toMapping_push m name x)

/-- Replacing is that of the plain entries, and gives back the same old node. -/
theorem Sound.toMapping_replace (h : m.Sound) (name : String) (x : IndexedNode) :
    Mapping.replace m.toMapping name x.toNode
      = ((m.replace name x).1.map IndexedNode.toNode, (m.replace name x).2.toMapping) := by
  unfold Indexed.replace Mapping.replace
  rw [h.position?_eq]
  cases hpos : m.index[name]? with
  | none => simp [toMapping_push]
  | some pos => simp [getElem?_toMapping, h.toMapping_setAt hpos]

/-- Removing is that of the plain entries, and gives back the same node. -/
theorem Sound.toMapping_remove (h : m.Sound) (name : String) :
    Mapping.remove m.toMapping name
      = ((m.remove name).1.map IndexedNode.toNode, (m.remove name).2.toMapping) := by
  unfold Indexed.remove Mapping.remove
  rw [h.position?_eq]
  cases m.index[name]? with
  | none => rfl
  | some pos =>
    simp only [getElem?_toMapping, Prod.mk.injEq, true_and]
    exact List.eraseIdx_map _ _ _

/-- Sorting looks at names alone, so nodes can be made plain before or behind it. -/
theorem toMapping_sort (m : Indexed IndexedNode) : m.sort.toMapping = Mapping.sort m.toMapping :=
  List.map_mergeSort fun _ _ _ _ => rfl

/-- Merging is that of the plain entries. -/
theorem Sound.toMapping_merge (h : m.Sound) (other : Indexed IndexedNode) :
    (m.merge other).toMapping = Mapping.merge m.toMapping other.toMapping := by
  unfold Indexed.merge Mapping.merge toMapping
  rw [List.foldl_map]
  induction other.entries generalizing m with
  | nil => rfl
  | cons entry rest ih =>
    rw [List.foldl_cons, List.foldl_cons, ih (h.replace entry.1 entry.2)]
    exact congrArg (List.foldl _ · rest) (congrArg Prod.snd (h.toMapping_replace entry.1 entry.2)).symm

end Indexed

/-! ## Whole trees -/

/-- In every mapping of the tree, index and entries are in step. -/
inductive IndexedNode.Sound : IndexedNode → Prop where
  | scalar {notes : Notes} {text : String} : Sound (.scalar notes text)
  | list {notes : Notes} {items : List IndexedNode} (h : ∀ n ∈ items, Sound n) : Sound (.list notes items)
  | mapping {notes : Notes} {m : Indexed IndexedNode} (h : m.Sound) (hs : ∀ entry ∈ m.entries, Sound entry.2) :
    Sound (.mapping notes m)

namespace Indexed

variable {m m' other : Indexed IndexedNode} {name : String} {x : IndexedNode} {pos : Nat}

/-- A mapping in step with its index, with nodes that are so throughout. -/
structure Deep (m : Indexed IndexedNode) : Prop where
  sound : m.Sound
  nodes : ∀ entry ∈ m.entries, entry.2.Sound

/-- A sound node that is a mapping has a sound index and only sound nodes below. -/
theorem deep_of_sound {notes : Notes} (h : (IndexedNode.mapping notes m).Sound) : m.Deep := by
  cases h with
  | mapping h hs => exact ⟨h, hs⟩

theorem Deep.mapping (h : m.Deep) (notes : Notes) : (IndexedNode.mapping notes m).Sound :=
  .mapping h.sound h.nodes

theorem deep_empty : (empty : Indexed IndexedNode).Deep := ⟨sound_empty, nofun⟩

theorem Deep.at? (h : m.Deep) (hx : m.at? pos = some x) : x.Sound := by
  obtain ⟨entry, hentry, rfl⟩ := Option.map_eq_some_iff.1 hx
  exact h.nodes entry (List.mem_of_getElem? hentry)

/-- A sound node can be put in the place of another. -/
theorem Deep.setAt (h : m.Deep) (pos : Nat) (hx : x.Sound) : (m.setAt pos x).Deep := by
  refine ⟨h.sound.setAt pos x, fun entry hentry => ?_⟩
  obtain ⟨i, hi⟩ := List.mem_iff_getElem?.1 hentry
  rw [Indexed.setAt, List.getElem?_modify] at hi
  obtain ⟨old, hold, rfl⟩ := Option.map_eq_some_iff.1 hi
  split
  · exact hx
  · exact h.nodes old (List.mem_of_getElem? hold)

/-- A sound node can be pushed under a new name. -/
theorem Deep.push (h : m.Deep) (hnew : name ∉ m.names) (hx : x.Sound) : (m.push name x).Deep := by
  refine ⟨h.sound.push hnew x, fun entry hentry => ?_⟩
  rcases List.mem_append.1 hentry with hentry | hentry
  · exact h.nodes entry hentry
  · obtain rfl := List.mem_singleton.1 hentry
    exact hx

theorem Deep.add (h : m.Deep) (hx : x.Sound) (hadd : m.add name x = .ok m') : m'.Deep := by
  obtain ⟨hnew, rfl⟩ := add_eq_ok_iff.1 hadd
  exact h.push (h.sound.index_eq_none_iff.1 hnew) hx

/-- A sound node can replace another, and the one that is given back is sound, too. -/
theorem Deep.replace (h : m.Deep) (hx : x.Sound) (name : String) :
    (m.replace name x).2.Deep ∧ ∀ old, (m.replace name x).1 = some old → old.Sound := by
  unfold Indexed.replace
  split
  · exact ⟨h.setAt _ hx, fun old hold => h.at? hold⟩
  · next hnone => exact ⟨h.push (h.sound.index_eq_none_iff.1 hnone) hx, nofun⟩

/-- Removing keeps all that is left sound, and the node that is given back is sound. -/
theorem Deep.remove (h : m.Deep) (name : String) :
    (m.remove name).2.Deep ∧ ∀ old, (m.remove name).1 = some old → old.Sound := by
  refine ⟨⟨h.sound.remove name, ?_⟩, ?_⟩
  · unfold Indexed.remove
    split
    · exact fun entry hentry => h.nodes entry (List.mem_of_mem_eraseIdx hentry)
    · exact h.nodes
  · unfold Indexed.remove
    split
    · exact fun old hold => h.at? hold
    · exact nofun

theorem Deep.sort (h : m.Deep) : m.sort.Deep :=
  ⟨h.sound.sort, fun entry hentry => h.nodes entry (List.mem_mergeSort.1 hentry)⟩

/-- Merged entries are sound, whichever of the two mappings they come from. -/
theorem Deep.merge (h : m.Deep) (hother : other.Deep) : (m.merge other).Deep := by
  have hnodes := hother.nodes
  unfold Indexed.merge
  generalize other.entries = entries at hnodes ⊢
  induction entries generalizing m with
  | nil => exact h
  | cons entry rest ih =>
    obtain ⟨hentry, hrest⟩ := List.forall_mem_cons.1 hnodes
    exact ih (h.replace hentry entry.1).1 hrest

/-! ## Paths -/

/-- What is found is sound. -/
theorem Deep.lookup? (h : m.Deep) (hx : m.lookup? name = some x) : x.Sound := by
  obtain ⟨pos, -, hat⟩ := Option.bind_eq_some_iff.1 hx
  exact h.at? hat

end Indexed

namespace IndexedNode

variable {n found : IndexedNode} {put : IndexedNode → IndexedNode} {path : List String}

/-- A path leads where it leads in the plain tree. -/
theorem Sound.get?_toNode (h : n.Sound) (path : List String) :
    n.toNode.get? path = (n.get? path).map toNode := by
  induction path generalizing n with
  | nil => rw [Node.get?_nil, get?, Option.map_some]
  | cons name rest ih =>
    cases n with
    | scalar notes text => rfl
    | list notes items => rfl
    | mapping notes m =>
      have hm := Indexed.deep_of_sound h
      rw [Indexed.toNode_mapping, Node.get?_cons, hm.sound.lookup?_toMapping, IndexedNode.get?]
      cases hx : m.lookup? name with
      | none => rfl
      | some x => exact ih (hm.lookup? hx)

/-- What a path leads to is sound. -/
theorem Sound.get? (h : n.Sound) (hget : n.get? path = some found) : found.Sound := by
  induction path generalizing n with
  | nil =>
    obtain rfl := Option.some.inj hget
    exact h
  | cons name rest ih =>
    cases n with
    | scalar notes text => exact nomatch hget
    | list notes items => exact nomatch hget
    | mapping notes m =>
      obtain ⟨x, hx, hget⟩ := Option.bind_eq_some_iff.1 hget
      exact ih ((Indexed.deep_of_sound h).lookup? hx) hget

/-- What is found to be changed is what is found. -/
theorem map_fst_getMut? (n : IndexedNode) (path : List String) :
    (n.getMut? path).map Prod.fst = n.get? path := by
  induction path generalizing n with
  | nil => rfl
  | cons name rest ih =>
    cases n with
    | scalar notes text => rfl
    | list notes items => rfl
    | mapping notes m =>
      rw [getMut?, IndexedNode.get?, Indexed.lookup?]
      cases m.index[name]? with
      | none => rfl
      | some pos =>
        simp only [Option.bind_eq_bind, Option.bind_some]
        cases m.at? pos with
        | none => rfl
        | some child =>
          rw [Option.bind_some, Option.bind_some, ← ih child]
          cases child.getMut? rest <;> rfl

/-- A found node can be put back, or another in its place, as in the plain tree. -/
structure PutBack (n : IndexedNode) (path : List String) (found : IndexedNode)
    (put : IndexedNode → IndexedNode) : Prop where
  sound : found.Sound
  kept : ∀ x : IndexedNode, x.Sound → (put x).Sound
  modify : ∀ x : IndexedNode, n.toNode.modify? (fun _ => x.toNode) path = some (put x).toNode

/-- What a path leads to can be changed in its place, and all around it stays sound. -/
theorem Sound.getMut? (h : n.Sound) (hget : n.getMut? path = some (found, put)) :
    PutBack n path found put := by
  induction path generalizing n found put with
  | nil =>
    obtain ⟨rfl, rfl⟩ := Prod.mk.inj (Option.some.inj hget)
    exact ⟨h, fun _ hx => hx, fun _ => by simp [Node.modify?]⟩
  | cons name rest ih =>
    cases n with
    | scalar notes text => exact nomatch hget
    | list notes items => exact nomatch hget
    | mapping notes m =>
      have hm := Indexed.deep_of_sound h
      obtain ⟨pos, hpos, hget⟩ := Option.bind_eq_some_iff.1 hget
      obtain ⟨child, hchild, hget⟩ := Option.bind_eq_some_iff.1 hget
      obtain ⟨⟨inner, putInner⟩, hinner, hget⟩ := Option.bind_eq_some_iff.1 hget
      obtain ⟨rfl, rfl⟩ := Prod.mk.inj (Option.some.inj hget)
      obtain ⟨hsound, hkept, hmodify⟩ := ih (hm.at? hchild) hinner
      refine ⟨hsound, fun x hx => (hm.setAt pos (hkept x hx)).mapping notes, fun x => ?_⟩
      have hentry := Indexed.getElem?_toMapping m pos
      rw [hchild, Option.map_some] at hentry
      obtain ⟨⟨key, node⟩, hkey, rfl⟩ := Option.map_eq_some_iff.1 hentry
      rw [Indexed.toNode_mapping, Node.modify?, hm.sound.position?_eq, hpos]
      simp only [Option.bind_eq_bind, Option.bind_some, hkey, hmodify x, Indexed.toNode_mapping,
        hm.sound.toMapping_setAt hpos]

end IndexedNode

/-! ## Setting paths -/

/-- Setting a path inside of a node. -/
def Node.setIn? (n node : Node) (path : List String) : Option Node :=
  match n with
  | .mapping notes m => (Mapping.setPath? m node path).map (.mapping notes)
  | _ => none

/-- A longer path is set inside of what stands under its first name. -/
theorem Mapping.setPath?_cons (m : Mapping) (node : Node) (name : String) {rest : List String}
    (h : rest ≠ []) : Mapping.setPath? m node (name :: rest)
      = (position? m name).bind fun i => (m[i]?).bind fun entry =>
          (entry.2.setIn? node rest).map fun child => m.set i (name, child) := by
  cases rest with
  | nil => exact absurd rfl h
  | cons next rest =>
    rw [setPath?]
    case x_1 => exact List.cons_ne_nil next rest
    cases position? m name with
    | none => rfl
    | some i =>
      simp only [Option.bind_eq_bind, Option.bind_some]
      cases m[i]? with
      | none => rfl
      | some entry =>
        obtain ⟨key, child⟩ := entry
        cases child with
        | scalar notes text => rfl
        | list notes items => rfl
        | mapping notes inner =>
          simp only [Option.bind_some, Node.setIn?]
          cases setPath? inner node (next :: rest) <;> rfl

namespace IndexedNode

variable {n found : IndexedNode} {put : IndexedNode → IndexedNode} {path : List String}

/-- A path is set where its beginning leads to a mapping, by a replacement there. -/
theorem Sound.setIn?_toNode (h : n.Sound) (node : IndexedNode) (parents : List String) (last : String) :
    n.toNode.setIn? node.toNode (parents ++ [last]) = (n.getMut? parents).bind fun p =>
      match p.1 with
      | .mapping notes inner => some (p.2 (.mapping notes (inner.replace last node).2)).toNode
      | _ => none := by
  induction parents generalizing n with
  | nil =>
    cases n with
    | scalar notes text => rfl
    | list notes items => rfl
    | mapping notes m =>
      have hreplace := (Indexed.deep_of_sound h).sound.toMapping_replace last node
      simp [IndexedNode.getMut?, Node.setIn?, Mapping.setPath?, hreplace]
  | cons name rest ih =>
    cases n with
    | scalar notes text => rfl
    | list notes items => rfl
    | mapping notes m =>
      have hm := Indexed.deep_of_sound h
      rw [Indexed.toNode_mapping, Node.setIn?, List.cons_append, Mapping.setPath?_cons _ _ _ (by simp),
        hm.sound.position?_eq, IndexedNode.getMut?]
      -- the index leads to the position of the entry, or there is none
      cases hpos : m.index[name]? with
      | none => rfl
      | some pos =>
        have hentry := Indexed.getElem?_toMapping m pos
        simp only [Option.bind_eq_bind, Option.bind_some]
        cases hchild : m.at? pos with
        | none =>
          rw [hchild, Option.map_none, Option.map_eq_none_iff] at hentry
          rw [hentry]
          rfl
        | some child =>
          rw [hchild, Option.map_some] at hentry
          obtain ⟨⟨key, plain⟩, hkey, rfl⟩ := Option.map_eq_some_iff.1 hentry
          simp only [hkey, Option.bind_some, ih (hm.at? hchild)]
          cases child.getMut? rest with
          | none => rfl
          | some p =>
            obtain ⟨found, put⟩ := p
            cases found with
            | scalar notes' text => rfl
            | list notes' items => rfl
            | mapping notes' inner =>
              simp [hm.sound.toMapping_setAt hpos]

end IndexedNode

namespace Indexed

variable {m m' : Indexed IndexedNode} {node : IndexedNode}

/-- A path through a mapping leads where it leads in the plain entries. -/
theorem Deep.get?_toMapping (h : m.Deep) (path : List String) :
    Mapping.get? m.toMapping path = (m.get? path).map IndexedNode.toNode := by
  cases path with
  | nil => rfl
  | cons name rest =>
    have hnode := (h.mapping {}).get?_toNode (name :: rest)
    rwa [toNode_mapping, Node.get?_cons] at hnode

theorem Deep.get? (h : m.Deep) {path : List String} (hget : m.get? path = some node) : node.Sound := by
  cases path with
  | nil => exact nomatch hget
  | cons name rest =>
    have hnode : (IndexedNode.mapping {} m).get? (name :: rest) = some node := hget
    exact (h.mapping {}).get? hnode

/-- The notes of a mapping are kept when something below is put back. -/
theorem getMut?_mapping (notes : Notes) (m : Indexed IndexedNode) (name : String) (rest : List String) :
    (IndexedNode.mapping notes m).getMut? (name :: rest)
      = (m.getMut? (name :: rest)).map fun p => (p.1, fun x => .mapping notes (p.2 x)) := by
  simp only [IndexedNode.getMut?, Indexed.getMut?, Option.map_bind, Function.comp_def,
    Option.bind_eq_bind, Option.map_some]

/-- Setting a path is replacing its last name where the names in front of it lead. -/
theorem Deep.toMapping_setPath (h : m.Deep) (path : List String) (node : IndexedNode) :
    (m.setPath path node).map toMapping = Mapping.setPath m.toMapping path node.toNode := by
  rcases List.eq_nil_or_concat path with rfl | ⟨parents, last, rfl⟩
  · rfl
  · rw [Indexed.setPath, Mapping.setPath, List.concat_eq_append, List.getLast?_concat, List.dropLast_concat]
    cases parents with
    | nil => simp [Mapping.setPath?, h.sound.toMapping_replace, Except.map]
    | cons name rest =>
      have hset := (h.mapping {}).setIn?_toNode node (name :: rest) last
      rw [getMut?_mapping, toNode_mapping, Node.setIn?] at hset
      simp only [List.isEmpty_cons, Bool.false_eq_true, if_false]
      -- where the way leads to no mapping, nothing is set in either form
      cases hget : m.getMut? (name :: rest) with
      | none =>
        rw [hget, Option.map_none, Option.bind_none, Option.map_eq_none_iff] at hset
        rw [hset]
        rfl
      | some p =>
        obtain ⟨found, put⟩ := p
        rw [hget, Option.map_some, Option.bind_some] at hset
        cases found with
        | scalar notes text =>
          rw [Option.map_eq_none_iff.1 hset]
          rfl
        | list notes items =>
          rw [Option.map_eq_none_iff.1 hset]
          rfl
        | mapping notes inner =>
          obtain ⟨result, hresult, hsame⟩ := Option.map_eq_some_iff.1 hset
          rw [toNode_mapping] at hsame
          obtain ⟨-, rfl⟩ := Node.mapping.inj hsame
          rw [hresult]
          rfl

/-- Setting a path keeps everything sound, on the way and at its end. -/
theorem Deep.setPath (h : m.Deep) {path : List String} (hnode : node.Sound)
    (hset : m.setPath path node = .ok m') : m'.Deep := by
  rcases List.eq_nil_or_concat path with rfl | ⟨parents, last, rfl⟩
  · exact nomatch hset
  · rw [Indexed.setPath, List.concat_eq_append, List.getLast?_concat, List.dropLast_concat] at hset
    cases parents with
    | nil =>
      obtain rfl := Except.ok.inj hset
      exact (h.replace hnode last).1
    | cons name rest =>
      simp only [List.isEmpty_cons, Bool.false_eq_true, if_false] at hset
      split at hset
      · next notes inner put hget =>
        obtain rfl := Except.ok.inj hset
        have hback := (h.mapping {}).getMut? (by rw [getMut?_mapping, hget]; rfl)
        have hinner := (deep_of_sound hback.sound).replace hnode last
        exact deep_of_sound (hback.kept _ (hinner.1.mapping notes))
      · exact nomatch hset

end Indexed

end RoleChart.Document
