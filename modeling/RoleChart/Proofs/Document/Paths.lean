import RoleChart.Proofs.Document.Indexed

/-!
# Setting paths

Setting a path replaces one entry of one mapping: the one that the names in front of the last lead to. What is
found at the path afterwards is what was set. Paths beside it lead where they led, and the mappings on the way
keep their names. A relation says what setting a path does, one name of the path at a time, and each law follows
by induction over it.

## Main statements

* `Indexed.setPath_eq_ok_iff` — setting a path is the relation
* `IndexedNode.exists_sets_iff` — a path can be set exactly where mappings lead to its last name
* `IndexedNode.Sets.get?_self`, `IndexedNode.Sets.get?_of_not_prefix` — what is found at the path, and beside it
* `IndexedNode.Sets.on_way` — the names of the mappings on the way
* `IndexedNode.Sets.again`, `IndexedNode.Sets.self` — setting twice, and setting what is there
* `Indexed.Deep.setPath_lens` — all of it, for a mapping
-/

namespace RoleChart.Document

/-! ## Replacing an entry -/

namespace Indexed

variable {α : Type} {m : Indexed α} {name other : String} {x y : α} {pos : Nat}

theorem replace_of_index (h : m.index[name]? = some pos) (x : α) : (m.replace name x).2 = m.setAt pos x := by
  rw [replace, h]

theorem replace_of_new (h : m.index[name]? = none) (x : α) : (m.replace name x).2 = m.push name x := by
  rw [replace, h]

theorem at?_setAt (m : Indexed α) (pos i : Nat) (x : α) :
    (m.setAt pos x).at? i = if pos = i then (m.at? i).map fun _ => x else m.at? i := by
  rw [at?, at?, setAt, List.getElem?_modify]
  cases m.entries[i]? with
  | none => simp
  | some entry => by_cases hi : pos = i <;> simp [hi]

/-- The index leads to an entry. -/
theorem Sound.exists_at? (h : m.Sound) (hpos : m.index[name]? = some pos) : ∃ x, m.at? pos = some x := by
  have hname := (h.index name pos).1 hpos
  rw [names, List.getElem?_map] at hname
  obtain ⟨entry, hentry, -⟩ := Option.map_eq_some_iff.1 hname
  exact ⟨entry.2, by rw [at?, hentry, Option.map_some]⟩

theorem lookup?_of_index (hpos : m.index[name]? = some pos) : m.lookup? name = m.at? pos := by
  rw [lookup?, hpos, Option.bind_some]

theorem index_push (m : Indexed α) (name : String) (x : α) (other : String) :
    (m.push name x).index[other]? = if name = other then some m.entries.length else m.index[other]? := by
  simp [Indexed.push, Std.HashMap.getElem?_insert]

theorem Sound.mem_names_of_lookup? (h : m.Sound) (hx : m.lookup? name = some x) : name ∈ m.names := by
  obtain ⟨pos, hpos, -⟩ := Option.bind_eq_some_iff.1 hx
  exact List.mem_of_getElem? ((h.index name pos).1 hpos)

/-- Only the name that is replaced is found anew. -/
theorem Sound.lookup?_replace (h : m.Sound) (name : String) (x : α) (other : String) :
    (m.replace name x).2.lookup? other = if name = other then some x else m.lookup? other := by
  cases hpos : m.index[name]? with
  | some pos =>
    obtain ⟨old, hold⟩ := h.exists_at? hpos
    rw [replace_of_index hpos]
    by_cases hother : name = other
    · subst hother
      have hset : (m.setAt pos x).index[name]? = some pos := hpos
      rw [if_pos rfl, lookup?_of_index hset, at?_setAt, if_pos rfl, hold, Option.map_some]
    · rw [if_neg hother]
      refine Option.bind_congr fun i hi => ?_
      -- two names do not stand at one position
      have hne : pos ≠ i := by
        rintro rfl
        exact hother (Option.some.inj (((h.index name pos).1 hpos).symm.trans ((h.index other pos).1 hi)))
      rw [at?_setAt, if_neg hne]
  | none =>
    rw [replace_of_new hpos, lookup?, index_push]
    by_cases hother : name = other
    · simp [hother, Indexed.push, at?]
    · rw [if_neg hother, if_neg hother, lookup?]
      refine Option.bind_congr fun i hi => ?_
      have hlt := (List.getElem?_eq_some_iff.1 ((h.index other i).1 hi)).1
      rw [names, List.length_map] at hlt
      rw [at?, at?, Indexed.push, List.getElem?_append_left hlt]

theorem Sound.names_replace (h : m.Sound) (name : String) (x : α) :
    (m.replace name x).2.names = if name ∈ m.names then m.names else m.names ++ [name] := by
  cases hpos : m.index[name]? with
  | some pos =>
    rw [replace_of_index hpos, names_setAt, if_pos (List.mem_of_getElem? ((h.index name pos).1 hpos))]
  | none => rw [replace_of_new hpos, names_push, if_neg (h.index_eq_none_iff.1 hpos)]

/-- Of two values for one name, the later one stays. -/
theorem replace_replace (m : Indexed α) (name : String) (x y : α) :
    ((m.replace name x).2.replace name y).2 = (m.replace name y).2 := by
  cases hpos : m.index[name]? with
  | some pos =>
    have hset : (m.setAt pos x).index[name]? = some pos := hpos
    rw [replace_of_index hpos, replace_of_index hpos, replace_of_index hset]
    simp only [setAt, List.modify_modify_eq, Function.comp_def]
  | none =>
    have hindex := index_push m name x name
    rw [if_pos rfl] at hindex
    rw [replace_of_new hpos, replace_of_new hpos, replace_of_index hindex]
    simp [setAt, Indexed.push, List.modify_eq_take_drop]

/-- Writing an entry over itself changes nothing. -/
theorem replace_self (hx : m.lookup? name = some x) : (m.replace name x).2 = m := by
  obtain ⟨pos, hpos, hat⟩ := Option.bind_eq_some_iff.1 hx
  obtain ⟨entry, hentry, rfl⟩ := Option.map_eq_some_iff.1 hat
  have hentries : m.entries.modify pos (fun e => (e.1, entry.2)) = m.entries := by
    refine List.ext_getElem? fun i => ?_
    rw [List.getElem?_modify]
    by_cases hi : pos = i
    · subst hi
      simp [hentry]
    · simp [hi]
  rw [replace_of_index hpos, setAt, hentries]

end Indexed

/-! ## Setting a path inside of a node -/

/-- What setting a path makes of a node: the last name of the path is replaced, and so is what stands under each
name in front of it. -/
inductive IndexedNode.Sets (node : IndexedNode) : IndexedNode → List String → IndexedNode → Prop where
  | last {notes : Notes} {m : Indexed IndexedNode} {name : String} :
    Sets node (mapping notes m) [name] (mapping notes (m.replace name node).2)
  | inner {notes : Notes} {m : Indexed IndexedNode} {name next : String} {rest : List String}
    {child child' : IndexedNode} (hchild : m.lookup? name = some child)
    (h : Sets node child (next :: rest) child') :
    Sets node (mapping notes m) (name :: next :: rest) (mapping notes (m.replace name child').2)

namespace IndexedNode

variable {n n' n'' node other : IndexedNode} {path : List String}

/-- The last name is replaced in the mapping that the names in front of it lead to. -/
theorem sets_append_iff (parents : List String) (last : String) :
    Sets node n (parents ++ [last]) n' ↔ ∃ notes inner put, n.getMut? parents = some (mapping notes inner, put) ∧
      n' = put (mapping notes (inner.replace last node).2) := by
  induction parents generalizing n n' with
  | nil =>
    constructor
    · rintro ⟨⟩
      next notes m => exact ⟨notes, m, id, rfl, rfl⟩
    · rintro ⟨notes, m, put, hget, rfl⟩
      obtain ⟨rfl, rfl⟩ := Prod.mk.inj (Option.some.inj hget)
      exact .last
  | cons name rest ih =>
    -- behind its first name the path still has one, so it is set inside of the child
    obtain ⟨next, others, hrest⟩ := List.exists_cons_of_ne_nil (List.append_ne_nil_of_right_ne_nil rest
      (List.cons_ne_nil last []))
    constructor
    · intro h
      rw [List.cons_append, hrest] at h
      cases h with
      | @inner notes m _ _ _ child child' hchild h =>
        rw [← hrest] at h
        obtain ⟨inner, found, put, hget, rfl⟩ := ih.1 h
        obtain ⟨pos, hpos, hat⟩ := Option.bind_eq_some_iff.1 hchild
        refine ⟨inner, found, fun x => mapping notes (m.setAt pos (put x)), ?_, ?_⟩
        · simp [getMut?, hpos, hat, hget]
        · rw [Indexed.replace_of_index hpos]
    · rintro ⟨inner, found, put, hget, rfl⟩
      cases n with
      | scalar notes text => cases hget
      | list notes items => cases hget
      | mapping notes m =>
        obtain ⟨pos, hpos, hget⟩ := Option.bind_eq_some_iff.1 hget
        obtain ⟨child, hat, hget⟩ := Option.bind_eq_some_iff.1 hget
        obtain ⟨⟨found', putInner⟩, hinner, hget⟩ := Option.bind_eq_some_iff.1 hget
        obtain ⟨rfl, rfl⟩ := Prod.mk.inj (Option.some.inj hget)
        have hset := ih.2 ⟨inner, found, putInner, hinner, rfl⟩
        rw [hrest] at hset
        show Sets node (mapping notes m) (name :: (rest ++ [last])) (mapping notes (m.setAt pos _))
        rw [hrest, ← Indexed.replace_of_index hpos]
        exact .inner ((Indexed.lookup?_of_index hpos).trans hat) hset

/-- A mapping stays a mapping. -/
theorem Sets.exists_mapping {notes : Notes} {m : Indexed IndexedNode} (h : Sets node (mapping notes m) path n') :
    ∃ m', n' = mapping notes m' := by
  cases h with
  | last => exact ⟨_, rfl⟩
  | inner => exact ⟨_, rfl⟩

/-! ## What is found -/

/-- At the path stands what was set. -/
theorem Sets.get?_self (h : Sets node n path n') (hn : n.Sound) : n'.get? path = some node := by
  induction h with
  | @last notes m name =>
    rw [get?, (Indexed.deep_of_sound hn).sound.lookup?_replace, if_pos rfl, Option.bind_some, get?]
  | @inner notes m name next rest child child' hchild _ ih =>
    have hm := Indexed.deep_of_sound hn
    rw [get?, hm.sound.lookup?_replace, if_pos rfl, Option.bind_some]
    exact ih (hm.lookup? hchild)

/-- Paths beside the one that is set lead where they led. -/
theorem Sets.get?_of_not_prefix (h : Sets node n path n') (hn : n.Sound) {beside : List String}
    (hbelow : ¬ path <+: beside) (habove : ¬ beside <+: path) : n'.get? beside = n.get? beside := by
  induction h generalizing beside with
  | @last notes m name =>
    cases beside with
    | nil => exact absurd List.nil_prefix habove
    | cons first rest =>
      have hne : name ≠ first := by
        rintro rfl
        exact hbelow (List.cons_prefix_cons.2 ⟨rfl, List.nil_prefix⟩)
      rw [get?, get?, (Indexed.deep_of_sound hn).sound.lookup?_replace, if_neg hne]
  | @inner notes m name next rest child child' hchild _ ih =>
    have hm := Indexed.deep_of_sound hn
    cases beside with
    | nil => exact absurd List.nil_prefix habove
    | cons first others =>
      rw [get?, get?, hm.sound.lookup?_replace]
      by_cases hname : name = first
      · subst hname
        rw [if_pos rfl, hchild, Option.bind_some, Option.bind_some]
        refine ih (hm.lookup? hchild) ?_ ?_
        · exact fun h => hbelow (List.cons_prefix_cons.2 ⟨rfl, h⟩)
        · exact fun h => habove (List.cons_prefix_cons.2 ⟨rfl, h⟩)
      · rw [if_neg hname]

/-- On the way to the last name, mappings keep their notes and their names. A new name stands at the end of the
last mapping. -/
theorem Sets.on_way (h : Sets node n path n') (hn : n.Sound) {front rest : List String} {name : String}
    (hpath : path = front ++ name :: rest) :
    ∃ notes before after, n.get? front = some (mapping notes before) ∧
      n'.get? front = some (mapping notes after) ∧
      after.names = if rest = [] ∧ name ∉ before.names then before.names ++ [name] else before.names := by
  induction h generalizing front with
  | @last notes m last =>
    cases front with
    | nil =>
      obtain ⟨rfl, rfl⟩ := List.cons.inj hpath
      refine ⟨notes, m, _, rfl, rfl, ?_⟩
      rw [(Indexed.deep_of_sound hn).sound.names_replace]
      by_cases hname : last ∈ m.names
      · simp [hname]
      · simp [hname]
    | cons first front => exact absurd (List.cons.inj hpath).2 (by simp)
  | @inner notes m outer next others child child' hchild _ ih =>
    have hm := Indexed.deep_of_sound hn
    cases front with
    | nil =>
      obtain ⟨rfl, rfl⟩ := List.cons.inj hpath
      refine ⟨notes, m, _, rfl, rfl, ?_⟩
      rw [hm.sound.names_replace, if_pos (hm.sound.mem_names_of_lookup? hchild), if_neg (by simp)]
    | cons first front =>
      obtain ⟨rfl, hrest⟩ := List.cons.inj hpath
      rw [get?, get?, hm.sound.lookup?_replace, if_pos rfl, hchild, Option.bind_some, Option.bind_some]
      exact ih (hm.lookup? hchild) hrest

/-! ## Where a path can be set -/

/-- Mappings lead to the last name of a path. -/
def Leads (n : IndexedNode) (path : List String) : Prop :=
  ∀ front, front <+: path → front ≠ path → ∃ notes m, n.get? front = some (mapping notes m)

theorem leads_cons_iff {notes : Notes} {m : Indexed IndexedNode} {name : String} {rest : List String}
    (hrest : rest ≠ []) :
    (mapping notes m).Leads (name :: rest) ↔ ∃ child, m.lookup? name = some child ∧ child.Leads rest := by
  constructor
  · intro h
    have hone : [name] ≠ name :: rest := fun heq => hrest (List.cons.inj heq).2.symm
    obtain ⟨_, _, hinner⟩ := h [name] (List.cons_prefix_cons.2 ⟨rfl, List.nil_prefix⟩) hone
    obtain ⟨child, hchild, -⟩ := Option.bind_eq_some_iff.1 hinner
    refine ⟨child, hchild, fun front hfront hne => ?_⟩
    have hback := h (name :: front) (List.cons_prefix_cons.2 ⟨rfl, hfront⟩) (by simpa using hne)
    rwa [get?, hchild, Option.bind_some] at hback
  · rintro ⟨child, hchild, h⟩ front hfront hne
    cases front with
    | nil => exact ⟨notes, m, rfl⟩
    | cons first front =>
      obtain ⟨rfl, hinner⟩ := List.cons_prefix_cons.1 hfront
      rw [get?, hchild, Option.bind_some]
      exact h front hinner fun heq => hne (by rw [heq])

/-- A path can be set exactly where mappings lead to its last name. -/
theorem exists_sets_iff : (∃ n', Sets node n path n') ↔ path ≠ [] ∧ n.Leads path := by
  constructor
  · rintro ⟨n', h⟩
    induction h with
    | @last notes m name =>
      refine ⟨List.cons_ne_nil name [], fun front hfront hne => ?_⟩
      cases front with
      | nil => exact ⟨notes, m, rfl⟩
      | cons first front =>
        obtain ⟨rfl, hinner⟩ := List.cons_prefix_cons.1 hfront
        exact absurd (by rw [List.prefix_nil.1 hinner]) hne
    | @inner notes m name next rest child child' hchild _ ih =>
      exact ⟨List.cons_ne_nil _ _, (leads_cons_iff (List.cons_ne_nil _ _)).2 ⟨child, hchild, ih.2⟩⟩
  · -- the way is gone name by name; the last one is set wherever it stands
    rintro ⟨hsome, h⟩
    induction path generalizing n with
    | nil => exact absurd rfl hsome
    | cons name rest ih =>
      obtain ⟨notes, m, hroot⟩ := h [] List.nil_prefix (List.cons_ne_nil name rest).symm
      obtain rfl := Option.some.inj ((get?.eq_1 n).symm.trans hroot)
      cases rest with
      | nil => exact ⟨_, .last⟩
      | cons next rest =>
        obtain ⟨child, hchild, hleads⟩ := (leads_cons_iff (List.cons_ne_nil next rest)).1 h
        obtain ⟨child', hset⟩ := ih (List.cons_ne_nil next rest) hleads
        exact ⟨_, .inner hchild hset⟩

/-! ## Setting again -/

/-- What is set at a path first is forgotten when the path is set again. -/
theorem Sets.again (h : Sets node n path n') (hn : n.Sound) : Sets other n' path n'' ↔ Sets other n path n'' := by
  induction h generalizing n'' with
  | @last notes m name =>
    constructor
    · rintro ⟨⟩
      rw [Indexed.replace_replace]
      exact .last
    · rintro ⟨⟩
      rw [← Indexed.replace_replace m name node other]
      exact .last
  | @inner notes m name next rest child child' hchild _ ih =>
    have hm := Indexed.deep_of_sound hn
    -- what is found under the name the second time is what was set the first time
    have hchild' : (m.replace name child').2.lookup? name = some child' := by
      rw [hm.sound.lookup?_replace, if_pos rfl]
    constructor
    · intro h
      cases h with
      | @inner _ _ _ _ _ found child'' hfound hagain =>
        obtain rfl := Option.some.inj (hchild'.symm.trans hfound)
        rw [Indexed.replace_replace]
        exact .inner hchild ((ih (hm.lookup? hchild)).1 hagain)
    · intro h
      cases h with
      | @inner _ _ _ _ _ found child'' hfound hagain =>
        obtain rfl := Option.some.inj (hchild.symm.trans hfound)
        rw [← Indexed.replace_replace m name child' child'']
        exact .inner hchild' ((ih (hm.lookup? hchild)).2 hagain)

/-- Setting what is found at a path changes nothing. -/
theorem Sets.self (hget : n.get? path = some node) (hsome : path ≠ []) : Sets node n path n := by
  induction path generalizing n with
  | nil => exact absurd rfl hsome
  | cons name rest ih =>
    cases n with
    | scalar notes text => cases hget
    | list notes items => cases hget
    | mapping notes m =>
      obtain ⟨child, hchild, hget⟩ := Option.bind_eq_some_iff.1 hget
      have hself := Indexed.replace_self hchild
      cases rest with
      | nil =>
        obtain rfl := Option.some.inj ((get?.eq_1 child).symm.trans hget)
        have hset : Sets child (mapping notes m) [name] _ := .last
        rwa [hself] at hset
      | cons next rest =>
        have hset : Sets node (mapping notes m) (name :: next :: rest) _ :=
          .inner hchild (ih hget (List.cons_ne_nil next rest))
        rwa [hself] at hset

end IndexedNode

/-! ## Setting a path of a mapping -/

namespace Indexed

open IndexedNode (Sets)

variable {m m' : Indexed IndexedNode} {node : IndexedNode} {path : List String}

/-- Setting a path is what the relation says. -/
theorem setPath_eq_ok_iff (notes : Notes) :
    m.setPath path node = .ok m' ↔ Sets node (.mapping notes m) path (.mapping notes m') := by
  rcases List.eq_nil_or_concat path with rfl | ⟨parents, last, rfl⟩
  · exact ⟨nofun, nofun⟩
  · rw [List.concat_eq_append, IndexedNode.sets_append_iff, Indexed.setPath, List.getLast?_concat,
      List.dropLast_concat]
    -- a path of one name sets an entry of the mapping itself, a longer one goes through a child
    cases parents with
    | nil =>
      constructor
      · intro h
        obtain rfl := Except.ok.inj h
        exact ⟨notes, m, id, rfl, rfl⟩
      · rintro ⟨notes', inner, put, hget, hput⟩
        obtain ⟨hroot, rfl⟩ := Prod.mk.inj (Option.some.inj hget)
        obtain ⟨rfl, rfl⟩ := IndexedNode.mapping.inj hroot
        obtain ⟨-, rfl⟩ := IndexedNode.mapping.inj hput
        rfl
    | cons name rest =>
      rw [getMut?_mapping]
      simp only [List.isEmpty_cons, Bool.false_eq_true, if_false]
      constructor
      · intro h
        split at h
        · next notes' inner put hget =>
          obtain rfl := Except.ok.inj h
          exact ⟨notes', inner, fun x => .mapping notes (put x), by rw [hget]; rfl, rfl⟩
        · cases h
      · rintro ⟨notes', inner, put, hget, hput⟩
        obtain ⟨⟨found, put'⟩, hfound, hsame⟩ := Option.map_eq_some_iff.1 hget
        obtain ⟨rfl, rfl⟩ := Prod.mk.inj hsame
        obtain ⟨-, rfl⟩ := IndexedNode.mapping.inj hput
        rw [hfound]

/-- A path of a mapping is a path of its node. -/
theorem get?_mapping (notes : Notes) (m : Indexed IndexedNode) (h : path ≠ []) :
    (IndexedNode.mapping notes m).get? path = m.get? path := by
  cases path with
  | nil => exact absurd rfl h
  | cons name rest => rfl

/-- The mapping that some names lead to. No names lead to the mapping itself. -/
def within? (m : Indexed IndexedNode) (front : List String) : Option (Indexed IndexedNode) :=
  ((IndexedNode.mapping {} m).get? front).bind IndexedNode.mapping?

/-- Mappings lead to the last name of a path where each of its beginnings leads to one. -/
theorem leads_mapping_iff (notes : Notes) (m : Indexed IndexedNode) (path : List String) :
    (IndexedNode.mapping notes m).Leads path ↔
      ∀ front, front ≠ [] → front <+: path → front ≠ path →
        ∃ notes inner, m.get? front = some (.mapping notes inner) := by
  constructor
  · intro h front hsome hbegin hne
    rw [← get?_mapping notes m hsome]
    exact h front hbegin hne
  · intro h front hbegin hne
    by_cases hsome : front = []
    · subst hsome
      exact ⟨notes, m, rfl⟩
    · rw [get?_mapping notes m hsome]
      exact h front hsome hbegin hne

theorem exists_setPath_iff (m : Indexed IndexedNode) (path : List String) (node : IndexedNode) :
    (∃ m', m.setPath path node = .ok m') ↔ path ≠ [] ∧ (IndexedNode.mapping {} m).Leads path := by
  constructor
  · rintro ⟨m', hset⟩
    exact IndexedNode.exists_sets_iff.1 ⟨_, (setPath_eq_ok_iff {}).1 hset⟩
  · intro h
    obtain ⟨n', hset⟩ : ∃ n', Sets node (.mapping {} m) path n' := IndexedNode.exists_sets_iff.2 h
    obtain ⟨m', rfl⟩ := hset.exists_mapping
    exact ⟨m', (setPath_eq_ok_iff {}).2 hset⟩

/-- Setting a path fails in one way, and a failed attempt leaves the mapping. -/
theorem setPath_eq_error {e : DocumentError} (h : m.setPath path node = .error e) :
    e = .missingPath path ∧ m.edit (.setPath path node) = (.failed e, m) := by
  refine ⟨?_, by rw [edit, h, Reply.ofExcept]⟩
  unfold setPath at h
  split at h
  · exact (Except.error.inj h).symm
  · split at h
    · exact nomatch h
    · split at h
      · exact nomatch h
      · exact (Except.error.inj h).symm

theorem Deep.setPath_again (h : m.Deep) (hset : m.setPath path node = .ok m') (other : IndexedNode) :
    m'.setPath path other = m.setPath path other := by
  have hsame : ∀ m'', m'.setPath path other = .ok m'' ↔ m.setPath path other = .ok m'' := fun m'' => by
    rw [setPath_eq_ok_iff {}, setPath_eq_ok_iff {}, ((setPath_eq_ok_iff {}).1 hset).again (h.mapping {})]
  cases hfirst : m.setPath path other with
  | ok m'' => exact (hsame m'').2 hfirst
  | error e =>
    cases hagain : m'.setPath path other with
    | ok m'' => exact nomatch hfirst.symm.trans ((hsame m'').1 hagain)
    | error e' => rw [(setPath_eq_error hfirst).1, (setPath_eq_error hagain).1]

/-- A mapping takes a node at a path exactly where mappings lead to its last name. Then the path leads to what was
set, no path beside it leads elsewhere, and no mapping on the way has other names, except for a new one at the end
of the last. Setting again forgets what was set before, and setting what is there changes nothing. Where it fails,
the error has the path, and the mapping stays. -/
theorem Deep.setPath_lens (h : m.Deep) (path : List String) (node : IndexedNode) :
    ((∃ m', m.setPath path node = .ok m') ↔ path ≠ [] ∧
      ∀ front, front ≠ [] → front <+: path → front ≠ path →
        ∃ notes inner, m.get? front = some (.mapping notes inner)) ∧
    (∀ m', m.setPath path node = .ok m' →
      m'.get? path = some node ∧
      (∀ beside, ¬ path <+: beside → ¬ beside <+: path → m'.get? beside = m.get? beside) ∧
      (∀ front name rest, path = front ++ name :: rest →
        ∃ before after, m.within? front = some before ∧ m'.within? front = some after ∧
          after.names = if rest = [] ∧ name ∉ before.names then before.names ++ [name] else before.names) ∧
      ∀ other, m'.setPath path other = m.setPath path other) ∧
    (m.get? path = some node → m.setPath path node = .ok m) ∧
    ∀ e, m.setPath path node = .error e →
      e = .missingPath path ∧ e.message = "no node at path: " ++ ".".intercalate path ∧
      m.edit (.setPath path node) = (.failed e, m) := by
  have hroot := h.mapping {}
  refine ⟨by rw [exists_setPath_iff, leads_mapping_iff], ?_, ?_, ?_⟩
  · intro m' hset
    have hsome := ((exists_setPath_iff m path node).1 ⟨m', hset⟩).1
    have hsets := (setPath_eq_ok_iff {}).1 hset
    refine ⟨?_, ?_, ?_, h.setPath_again hset⟩
    · rw [← get?_mapping {} m' hsome]
      exact hsets.get?_self hroot
    · intro beside hbelow habove
      have hbeside : beside ≠ [] := by
        rintro rfl
        exact habove List.nil_prefix
      rw [← get?_mapping {} m' hbeside, ← get?_mapping {} m hbeside]
      exact hsets.get?_of_not_prefix hroot hbelow habove
    · intro front name rest hpath
      obtain ⟨notes, before, after, hbefore, hafter, hnames⟩ := hsets.on_way hroot hpath
      exact ⟨before, after, by rw [within?, hbefore]; rfl, by rw [within?, hafter]; rfl, hnames⟩
  · intro hget
    have hsome : path ≠ [] := by
      rintro rfl
      exact nomatch hget
    exact (setPath_eq_ok_iff {}).2 (.self ((get?_mapping {} m hsome).trans hget) hsome)
  · intro e he
    obtain ⟨rfl, hkept⟩ := setPath_eq_error he
    exact ⟨rfl, rfl, hkept⟩

/-- A name inside of another is set and leads to what was set. What nothing leads to is not. -/
theorem setPath_lens_inner :
    let m : Indexed IndexedNode :=
      (empty.replace "a" (.mapping {} (empty.replace "inner" (.scalar {} "some")).2)).2
    let node : IndexedNode := .scalar {} "other"
    (∃ m', m.setPath ["a", "inner"] node = .ok m' ∧ m'.get? ["a", "inner"] = some node ∧ m'.names = ["a"]) ∧
    ∀ m', m.setPath ["x", "y"] node ≠ .ok m' := by
  intro m node
  have hinner : (empty.replace "inner" (IndexedNode.scalar {} "some")).2.Deep := (deep_empty.replace .scalar _).1
  have h : m.Deep := (deep_empty.replace (hinner.mapping {}) _).1
  have hnone (other : String) : (empty : Indexed IndexedNode).lookup? other = none := by simp [lookup?, empty]
  have hat : m.lookup? "a" = some (.mapping {} _) :=
    (sound_empty.lookup?_replace "a" _ "a").trans (if_pos rfl)
  have hx : m.lookup? "x" = none :=
    (sound_empty.lookup?_replace "a" _ "x").trans ((if_neg (by decide)).trans (hnone "x"))
  obtain ⟨hwhere, hthen, -, -⟩ := h.setPath_lens ["a", "inner"] node
  obtain ⟨hnowhere, -, -, -⟩ := h.setPath_lens ["x", "y"] node
  have hfront : ∀ front, front ≠ [] → front <+: ["a", "inner"] → front ≠ ["a", "inner"] →
      ∃ notes inner, m.get? front = some (.mapping notes inner) := by
    intro front hsome hbegin hne
    obtain ⟨inner, rfl, hinner⟩ := (List.prefix_cons_iff.1 hbegin).resolve_left hsome
    obtain ⟨behind, rfl, hbehind⟩ | rfl := (List.prefix_cons_iff.1 hinner).symm
    · exact absurd (by rw [List.prefix_nil.1 hbehind]) hne
    · exact ⟨{}, _, by rw [get?, hat, Option.bind_some, IndexedNode.get?]⟩
  constructor
  · obtain ⟨m', hset⟩ := hwhere.2 ⟨by decide, hfront⟩
    obtain ⟨hget, -, hnames, -⟩ := hthen m' hset
    refine ⟨m', hset, hget, ?_⟩
    obtain ⟨before, after, hbefore, hafter, hkept⟩ := hnames [] "a" ["inner"] rfl
    obtain rfl : m = before := Option.some.inj hbefore
    obtain rfl : m' = after := Option.some.inj hafter
    rw [hkept, if_neg (by decide), sound_empty.names_replace]
    rfl
  · intro m' hset
    obtain ⟨-, hleads⟩ := hnowhere.1 ⟨m', hset⟩
    obtain ⟨notes, inner, hget⟩ := hleads ["x"] (by decide) (by decide) (by decide)
    rw [get?, hx] at hget
    cases hget

end Indexed

end RoleChart.Document
