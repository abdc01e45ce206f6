import RoleChart.Proofs.Document.Indexed

/-!
# Trees that differ at one path

Setting what stands at a path makes a tree that differs from the one before at that path alone. On the way to it both
trees have mappings with the same notes and the same entries around the one that leads on, in the same order. Paths
beside it lead to the same nodes in both trees.

## Main statements

* `Mapping.exists_setPath` — a path that leads somewhere can be set, and the trees differ there alone
* `Node.DifferAt.right_right` — two trees that differ from a third one at one path differ there from each other
* `Node.DifferAt.sameBut` — what is found in two trees that differ at one path
-/

namespace RoleChart.Document

namespace Mapping

variable {m front rest : Mapping} {name other : String} {old node : Node}

/-! ## The first entry of a name -/

theorem position?_split (h : name ∉ names front) (old : Node) (rest : Mapping) :
    position? (front ++ (name, old) :: rest) name = some front.length := by
  rw [position?_eq_some_iff]
  refine ⟨by simp, by simp, fun j hj => ?_⟩
  rw [List.getElem_append_left hj]
  rintro rfl
  exact h (List.mem_map_of_mem (List.getElem_mem hj))

theorem lookup?_split (h : name ∉ names front) (old : Node) (rest : Mapping) :
    lookup? (front ++ (name, old) :: rest) name = some old := by
  rw [lookup?, position?_split h, Option.bind_some, List.getElem?_append_right (Nat.le_refl _), Nat.sub_self]
  rfl

/-- A name that is found splits its mapping at its first entry. -/
theorem exists_split (h : lookup? m name = some old) :
    ∃ front rest, m = front ++ (name, old) :: rest ∧ name ∉ names front := by
  rw [lookup?_eq_find?] at h
  obtain ⟨⟨found, node⟩, hfind, rfl⟩ := Option.map_eq_some_iff.1 h
  obtain ⟨hname, front, rest, rfl, hfront⟩ := List.find?_eq_some_iff_append.1 hfind
  obtain rfl : found = name := by simpa using hname
  refine ⟨front, rest, rfl, fun hmem => ?_⟩
  obtain ⟨entry, hentry, hsame⟩ := List.mem_map.1 hmem
  simpa [hsame] using hfront entry hentry

/-- There is one way to split a mapping at the first entry of a name. -/
theorem split_unique {front' rest' : Mapping} {old' : Node} (h : name ∉ names front) (h' : name ∉ names front')
    (hsame : front ++ (name, old) :: rest = front' ++ (name, old') :: rest') :
    front = front' ∧ old = old' ∧ rest = rest' := by
  have hposition := position?_split h old rest
  rw [hsame, position?_split h'] at hposition
  obtain ⟨hfront, hrest⟩ := List.append_inj hsame (Option.some.inj hposition).symm
  obtain ⟨hentry, hrest⟩ := List.cons.inj hrest
  exact ⟨hfront, congrArg Prod.snd hentry, hrest⟩

theorem set_split (front : Mapping) (entry entry' : String × Node) (rest : Mapping) :
    (front ++ entry :: rest).set front.length entry' = front ++ entry' :: rest := by
  rw [List.set_append_right _ _ (Nat.le_refl _), Nat.sub_self, List.set_cons_zero]

/-- Replacing acts on the first entry of a name. -/
theorem replace_split (h : name ∉ names front) (old node : Node) (rest : Mapping) :
    (replace (front ++ (name, old) :: rest) name node).2 = front ++ (name, node) :: rest := by
  rw [replace, position?_split h]
  exact set_split _ _ _ _

/-- Other names are found where they were. -/
theorem lookup?_split_ne (h : name ≠ other) (old node : Node) (front rest : Mapping) :
    lookup? (front ++ (name, old) :: rest) other = lookup? (front ++ (name, node) :: rest) other := by
  simp only [lookup?_append, lookup?_cons, if_neg h]

theorem names_split (front : Mapping) (old node : Node) (rest : Mapping) :
    names (front ++ (name, old) :: rest) = names (front ++ (name, node) :: rest) := by
  simp only [names, List.map_append, List.map_cons]

end Mapping

namespace Node

/-! ## Differing trees -/

/-- Two trees that differ at a path alone, where the first has the node `x` and the second the node `y`. -/
inductive DifferAt (x y : Node) : List String → Node → Node → Prop where
  | here : DifferAt x y [] x y
  | under {notes : Notes} {front rest : Mapping} {name : String} {path : List String} {a b : Node}
    (hfirst : name ∉ Mapping.names front) (h : DifferAt x y path a b) :
    DifferAt x y (name :: path) (mapping notes (front ++ (name, a) :: rest))
      (mapping notes (front ++ (name, b) :: rest))

namespace DifferAt

variable {x y z a b c : Node} {path : List String}

/-- Paths through the one at which trees differ go on in the nodes that stand there. -/
theorem get?_left (h : DifferAt x y path a b) (below : List String) : a.get? (path ++ below) = x.get? below := by
  induction h with
  | here => rfl
  | under hfirst _ ih => rw [List.cons_append, get?_cons, Mapping.lookup?_split hfirst, Option.bind_some, ih]

theorem get?_right (h : DifferAt x y path a b) (below : List String) : b.get? (path ++ below) = y.get? below := by
  induction h with
  | here => rfl
  | under hfirst _ ih => rw [List.cons_append, get?_cons, Mapping.lookup?_split hfirst, Option.bind_some, ih]

/-- Paths beside the one at which trees differ lead to the same nodes. -/
theorem get?_beside (h : DifferAt x y path a b) {beside : List String} (hbelow : ¬ path <+: beside)
    (habove : ¬ beside <+: path) : b.get? beside = a.get? beside := by
  induction h generalizing beside with
  | here => exact absurd List.nil_prefix hbelow
  | @under notes front rest name path a b hfirst _ ih =>
    cases beside with
    | nil => exact absurd List.nil_prefix habove
    | cons other beside =>
      rw [get?_cons, get?_cons]
      by_cases hname : name = other
      · subst hname
        rw [Mapping.lookup?_split hfirst, Mapping.lookup?_split hfirst, Option.bind_some, Option.bind_some]
        refine ih (fun hbegins => hbelow ?_) fun hbegins => habove ?_
        · exact List.cons_prefix_cons.2 ⟨rfl, hbegins⟩
        · exact List.cons_prefix_cons.2 ⟨rfl, hbegins⟩
      · rw [Mapping.lookup?_split_ne hname b a]

/-- On the way to the path, both trees have mappings with the same notes and names. -/
theorem get?_onWay (h : DifferAt x y path a b) {front : List String} (hfront : front <+: path)
    (hne : front ≠ path) :
    ∃ notes m m', a.get? front = some (mapping notes m) ∧ b.get? front = some (mapping notes m') ∧
      Mapping.names m' = Mapping.names m := by
  induction h generalizing front with
  | here => exact absurd (List.prefix_nil.1 hfront) hne
  | @under notes before rest name path a b hfirst _ ih =>
    cases front with
    | nil => exact ⟨notes, _, _, get?_nil _, get?_nil _, Mapping.names_split before b a rest⟩
    | cons first front =>
      obtain ⟨rfl, hinner⟩ := List.cons_prefix_cons.1 hfront
      rw [get?_cons, get?_cons, Mapping.lookup?_split hfirst, Mapping.lookup?_split hfirst]
      exact ih hinner fun hsame => hne (by rw [hsame])

/-- Two trees that differ from a third one at one path differ from each other there alone. -/
theorem right_right (h : DifferAt x y path a b) (h' : DifferAt x z path a c) : DifferAt y z path b c := by
  induction h generalizing c with
  | here =>
    cases h'
    exact .here
  | @under notes front rest name path a b hfirst _ ih =>
    generalize hroot : mapping notes (front ++ (name, a) :: rest) = root at h'
    cases h' with
    | under hfirst' hinner =>
      obtain ⟨rfl, hsplit⟩ := mapping.inj hroot
      obtain ⟨rfl, rfl, rfl⟩ := Mapping.split_unique hfirst hfirst' hsplit
      exact .under hfirst (ih hinner)

end DifferAt

/-- What is found in two trees that differ at a path alone: a node of its own there in each of them, the same at every
path beside it, and on the way mappings with the same notes and the same names in the same order. -/
structure SameBut (path : List String) (x y a b : Node) : Prop where
  left : ∀ below, a.get? (path ++ below) = x.get? below
  right : ∀ below, b.get? (path ++ below) = y.get? below
  beside : ∀ other, ¬ path <+: other → ¬ other <+: path → b.get? other = a.get? other
  onWay : ∀ front, front <+: path → front ≠ path → ∃ notes m m', a.get? front = some (mapping notes m) ∧
    b.get? front = some (mapping notes m') ∧ Mapping.names m' = Mapping.names m

theorem DifferAt.sameBut {x y a b : Node} {path : List String} (h : DifferAt x y path a b) :
    SameBut path x y a b where
  left := h.get?_left
  right := h.get?_right
  beside _ := h.get?_beside
  onWay _ := h.get?_onWay

/-! ## Setting what is found -/

/-- What is found at a path can be set, and no other place of the tree changes. -/
theorem exists_setIn? {n old : Node} {path : List String} (h : n.get? path = some old) (hsome : path ≠ [])
    (node : Node) : ∃ n', n.setIn? node path = some n' ∧ DifferAt old node path n n' := by
  induction path generalizing n with
  | nil => exact absurd rfl hsome
  | cons name path ih =>
    cases n with
    | scalar notes text => cases h
    | list notes nodes => cases h
    | mapping notes m =>
      obtain ⟨child, hchild, hinner⟩ := Option.bind_eq_some_iff.1 ((get?_cons notes m name path).symm.trans h)
      obtain ⟨front, rest, rfl, hfirst⟩ := Mapping.exists_split hchild
      by_cases hlast : path = []
      · subst hlast
        obtain rfl := Option.some.inj ((get?_nil child).symm.trans hinner)
        refine ⟨_, rfl, ?_⟩
        rw [Mapping.replace_split hfirst]
        exact .under hfirst .here
      · obtain ⟨child', hset, hdiffer⟩ := ih hinner hlast
        refine ⟨mapping notes (front ++ (name, child') :: rest), ?_, .under hfirst hdiffer⟩
        rw [setIn?, Mapping.setPath?_cons _ _ _ hlast, Mapping.position?_split hfirst, Option.bind_some,
          List.getElem?_append_right (Nat.le_refl _), Nat.sub_self, List.getElem?_cons_zero, Option.bind_some, hset,
          Option.map_some, Option.map_some, Mapping.set_split]

end Node

/-- What is found at a path of a mapping can be set, and no other place changes. -/
theorem Mapping.exists_setPath {m : Mapping} {old : Node} {path : List String}
    (h : (Node.entries m).get? path = some old) (hsome : path ≠ []) (node : Node) :
    ∃ m', setPath m path node = .ok m' ∧ Node.DifferAt old node path (.entries m) (.entries m') := by
  obtain ⟨n', hset, hdiffer⟩ := Node.exists_setIn? h hsome node
  obtain ⟨m', hm', rfl⟩ := Option.map_eq_some_iff.1 hset
  exact ⟨m', by rw [setPath, hm'], hdiffer⟩

end RoleChart.Document
