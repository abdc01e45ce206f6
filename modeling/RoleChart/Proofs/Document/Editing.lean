import RoleChart.Proofs.Document.Indexed

/-!
# Programs of edits

A program makes scalars, lists and empty mappings, and edits the mappings that it made, nested ones
included. What it made and what its edits returned stands in numbered slots, so that it can be used again.
The program runs on indexed trees and on plain ones. Both runs give the same answers and leave the same
trees, however long the program is.

## Main statements

* `Indexed.Deep.edit` — one edit of an indexed mapping is that of its plain entries
* `Session.Refines.step` — one step does the same on indexed trees as on plain ones
* `Session.run_agrees` — so does a whole program
-/

namespace RoleChart.Document

variable {ν μ : Type}

/-! ## Edits and answers -/

namespace Edit

/-- The edit with other nodes. -/
def map (f : ν → μ) : Edit ν → Edit μ
  | add name node => add name (f node)
  | replace name node => replace name (f node)
  | remove name => remove name
  | setPath path node => setPath path (f node)
  | sort => sort
  | merge other => merge (f other)
  | names => names
  | contains name => contains name
  | get path => get path
  | require path => require path

/-- The nodes that an edit puts into a mapping. -/
def nodes : Edit ν → List ν
  | add _ node | replace _ node | setPath _ node | merge node => [node]
  | remove _ | sort | names | contains _ | get _ | require _ => []

/-- The edit with the nodes that stand in its slots. -/
def fill (store : List ν) : Edit Nat → Option (Edit ν)
  | add name slot => store[slot]?.map (add name)
  | replace name slot => store[slot]?.map (replace name)
  | remove name => some (remove name)
  | setPath path slot => store[slot]?.map (setPath path)
  | sort => some sort
  | merge slot => store[slot]?.map merge
  | names => some names
  | contains name => some (contains name)
  | get path => some (get path)
  | require path => some (require path)

/-- Slots are filled alike from the trees and from their plain forms. -/
theorem fill_map (f : ν → μ) (store : List ν) (e : Edit Nat) :
    e.fill (store.map f) = (e.fill store).map (Edit.map f) := by
  cases e <;> simp [fill, Edit.map, Option.map_map, Function.comp_def]

/-- What an edit is given stands in the store. -/
theorem mem_of_fill {store : List ν} {e : Edit Nat} {filled : Edit ν} (h : e.fill store = some filled) :
    ∀ x ∈ filled.nodes, x ∈ store := by
  have hslot {slot : Nat} {make : ν → Edit ν} (hmake : ∀ x, (make x).nodes = [x])
      (h : store[slot]?.map make = some filled) : ∀ x ∈ filled.nodes, x ∈ store := by
    obtain ⟨node, hnode, rfl⟩ := Option.map_eq_some_iff.1 h
    simpa [hmake] using List.mem_of_getElem? hnode
  cases e with
  | add name slot => exact hslot (fun _ => rfl) h
  | replace name slot => exact hslot (fun _ => rfl) h
  | setPath path slot => exact hslot (fun _ => rfl) h
  | merge slot => exact hslot (fun _ => rfl) h
  | _ =>
    obtain rfl := Option.some.inj h
    exact nofun

end Edit

namespace Reply

/-- The answer with other nodes. -/
def map (f : ν → μ) : Reply ν → Reply μ
  | done => done
  | found node => found (node.map f)
  | flag b => flag b
  | names list length => names list length
  | failed e => failed e
  | noTarget => noTarget
  | notAMapping => notAMapping

/-- The node that an answer returns. -/
def nodes : Reply ν → List ν
  | found node => node.toList
  | _ => []

theorem nodes_map (f : ν → μ) (r : Reply ν) : (r.map f).nodes = r.nodes.map f := by
  cases r with
  | found node => cases node <;> rfl
  | _ => rfl

end Reply

/-! ## Edits of plain entries -/

/-- The answer of plain entries, and the entries after it. -/
def Mapping.edit (m : Mapping) : Edit Node → Reply Node × Mapping
  | .add name node => Reply.ofExcept m (add m name node)
  | .replace name node => (.found (replace m name node).1, (replace m name node).2)
  | .remove name => (.found (remove m name).1, (remove m name).2)
  | .setPath path node => Reply.ofExcept m (setPath m path node)
  | .sort => (.done, sort m)
  | .merge (.mapping _ other) => (.done, merge m other)
  | .merge _ => (.notAMapping, m)
  | .names => (.names (names m) m.length, m)
  | .contains name => (.flag (contains m name), m)
  | .get path => (.found (get? m path), m)
  | .require path =>
    match require m path with
    | .ok node => (.found (some node), m)
    | .error e => (.failed e, m)

/-- The answer of what stands at a place of a plain tree, and the tree after it. -/
def Node.edit (n : Node) (place : List String) (e : Edit Node) : Reply Node × Node :=
  match n.get? place with
  | some (.mapping notes m) =>
    ((Mapping.edit m e).1, (n.modify? (fun _ => .mapping notes (Mapping.edit m e).2) place).getD n)
  | some _ => (.notAMapping, n)
  | none => (.noTarget, n)

/-! ## One edit -/

/-- An answer and what it leaves behind, on indexed and on plain trees. -/
structure Matches {σ τ : Type} (whole : σ → Prop) (plain : σ → τ) (indexed : Reply IndexedNode × σ)
    (expected : Reply Node × τ) : Prop where
  reply : indexed.1.map IndexedNode.toNode = expected.1
  state : plain indexed.2 = expected.2
  whole : whole indexed.2
  returned : ∀ x ∈ indexed.1.nodes, x.Sound

namespace Indexed

variable {m : Indexed IndexedNode}

/-- An edit that may fail does so in both, and changes both in the same way. -/
theorem Deep.ofExcept (h : m.Deep) {result : Except DocumentError (Indexed IndexedNode)}
    {expected : Except DocumentError Mapping} (hsame : result.map toMapping = expected)
    (hdeep : ∀ m', result = .ok m' → m'.Deep) :
    Matches Deep toMapping (Reply.ofExcept m result) (Reply.ofExcept m.toMapping expected) := by
  subst hsame
  cases result with
  | error e => exact ⟨rfl, rfl, h, nofun⟩
  | ok m' => exact ⟨rfl, rfl, hdeep m' rfl, nofun⟩

/-- Every edit of a sound mapping answers as the one of its plain entries, leaves the same entries and keeps the
mapping sound, with everything inside. -/
theorem Deep.edit (h : m.Deep) {e : Edit IndexedNode} (he : ∀ x ∈ e.nodes, x.Sound) :
    Matches Deep toMapping (m.edit e) (Mapping.edit m.toMapping (e.map IndexedNode.toNode)) := by
  -- each operation has its own law; what it returns is in the mapping, so it is sound
  cases e with
  | add name node =>
    have hnode := he node List.mem_cons_self
    exact h.ofExcept (h.sound.toMapping_add name node) fun m' hadd => h.add hnode hadd
  | replace name node =>
    have hnode := he node List.mem_cons_self
    obtain ⟨hdeep, hold⟩ := h.replace hnode name
    rw [Edit.map, Mapping.edit, h.sound.toMapping_replace]
    exact ⟨rfl, rfl, hdeep, fun x hx => hold x (Option.mem_toList.1 hx)⟩
  | remove name =>
    obtain ⟨hdeep, hold⟩ := h.remove name
    rw [Edit.map, Mapping.edit, h.sound.toMapping_remove]
    exact ⟨rfl, rfl, hdeep, fun x hx => hold x (Option.mem_toList.1 hx)⟩
  | setPath path node =>
    have hnode := he node List.mem_cons_self
    exact h.ofExcept (h.toMapping_setPath path node) fun m' hset => h.setPath hnode hset
  | sort => exact ⟨rfl, toMapping_sort m, h.sort, nofun⟩
  | merge other =>
    have hother := he other List.mem_cons_self
    cases other with
    | scalar notes text => exact ⟨rfl, rfl, h, nofun⟩
    | list notes items => exact ⟨rfl, rfl, h, nofun⟩
    | mapping notes other =>
      rw [Edit.map, toNode_mapping]
      exact ⟨rfl, h.sound.toMapping_merge other, h.merge (deep_of_sound hother), nofun⟩
  | names =>
    refine ⟨?_, rfl, h, nofun⟩
    rw [Edit.map, Mapping.edit, names_toMapping, length_toMapping]
    rfl
  | contains name =>
    refine ⟨?_, rfl, h, nofun⟩
    rw [Edit.map, Mapping.edit, h.sound.contains_toMapping]
    rfl
  | get path =>
    refine ⟨?_, rfl, h, fun x hx => h.get? (Option.mem_toList.1 hx)⟩
    rw [Edit.map, Mapping.edit, h.get?_toMapping]
    rfl
  | require path =>
    rw [Edit.map, Mapping.edit, Mapping.require, h.get?_toMapping, Indexed.edit, Indexed.require]
    cases hget : m.get? path with
    | none => exact ⟨rfl, rfl, h, nofun⟩
    | some node =>
      refine ⟨rfl, rfl, h, fun x hx => ?_⟩
      obtain rfl := List.mem_singleton.1 hx
      exact h.get? hget

end Indexed

namespace IndexedNode

variable {n : IndexedNode}

/-- So does an edit at a place in a tree: the mapping is taken out, edited and put back. -/
theorem Sound.edit (h : n.Sound) (place : List String) {e : Edit IndexedNode} (he : ∀ x ∈ e.nodes, x.Sound) :
    Matches Sound toNode (n.edit place e) (n.toNode.edit place (e.map toNode)) := by
  unfold IndexedNode.edit Node.edit
  rw [h.get?_toNode, ← map_fst_getMut?]
  cases hget : n.getMut? place with
  | none => exact ⟨rfl, rfl, h, nofun⟩
  | some p =>
    obtain ⟨found, put⟩ := p
    have hback := h.getMut? hget
    cases found with
    | scalar notes text => exact ⟨rfl, rfl, h, nofun⟩
    | list notes items => exact ⟨rfl, rfl, h, nofun⟩
    | mapping notes m =>
      obtain ⟨hreply, hstate, hdeep, hreturned⟩ := (Indexed.deep_of_sound hback.sound).edit he
      have hput := hback.modify (.mapping notes (m.edit e).2)
      rw [Indexed.toNode_mapping, hstate] at hput
      simp only [Option.map_some, Indexed.toNode_mapping]
      rw [hput]
      exact ⟨hreply, rfl, hback.kept _ (hdeep.mapping notes), hreturned⟩

end IndexedNode

/-! ## Programs -/

/-- A step of a program. Numbers stand for what is in the slots. -/
inductive Command where
  | scalar (notes : Notes) (text : String)
  | list (notes : Notes) (slots : List Nat)
  /-- Makes a mapping without entries. -/
  | mapping (notes : Notes)
  /-- Edits the mapping that a path leads to in the tree of a slot. -/
  | edit (slot : Nat) (place : List String) (e : Edit Nat)

/-- How trees of some kind are made and edited. -/
structure Editor (ν : Type) where
  scalar : Notes → String → ν
  list : Notes → List ν → ν
  mapping : Notes → ν
  edit : ν → List String → Edit ν → Reply ν × ν

/-- Trees whose mappings are indexed. -/
def indexedEditor : Editor IndexedNode where
  scalar := .scalar
  list := .list
  mapping notes := .mapping notes .empty
  edit := IndexedNode.edit

/-- Trees of plain entries. -/
def plainEditor : Editor Node where
  scalar := .scalar
  list := .list
  mapping notes := .mapping notes []
  edit := Node.edit

/-- The slots of a program, and its answers so far. -/
structure Session (ν : Type) where
  store : List ν := []
  replies : List (Reply ν) := []

namespace Session

/-- One step. What it makes, and what an edit returns, goes into new slots. -/
def step (E : Editor ν) (s : Session ν) : Command → Session ν
  | .scalar notes text => ⟨s.store ++ [E.scalar notes text], s.replies ++ [.done]⟩
  | .list notes slots =>
    match slots.mapM (s.store[·]?) with
    | some items => ⟨s.store ++ [E.list notes items], s.replies ++ [.done]⟩
    | none => ⟨s.store, s.replies ++ [.noTarget]⟩
  | .mapping notes => ⟨s.store ++ [E.mapping notes], s.replies ++ [.done]⟩
  | .edit slot place e =>
    match s.store[slot]?, e.fill s.store with
    | some n, some e =>
      let (reply, n) := E.edit n place e
      ⟨s.store.set slot n ++ reply.nodes, s.replies ++ [reply]⟩
    | _, _ => ⟨s.store, s.replies ++ [.noTarget]⟩

/-- A program from the beginning. -/
def run (E : Editor ν) (program : List Command) : Session ν := program.foldl (step E) {}

/-- A session on indexed trees and one on plain trees, with the same trees and the same answers. -/
structure Refines (s : Session IndexedNode) (plain : Session Node) : Prop where
  store : s.store.map IndexedNode.toNode = plain.store
  replies : s.replies.map (Reply.map IndexedNode.toNode) = plain.replies
  sound : ∀ n ∈ s.store, n.Sound

theorem mapM_slots (f : ν → μ) (store : List ν) (slots : List Nat) :
    slots.mapM ((store.map f)[·]?) = (slots.mapM (store[·]?)).map (List.map f) := by
  induction slots with
  | nil => rfl
  | cons slot slots ih =>
    rw [List.mapM_cons, List.mapM_cons, ih, List.getElem?_map]
    cases store[slot]? with
    | none => rfl
    | some n => cases slots.mapM (store[·]?) <;> rfl

theorem mem_of_mapM_slots {store items : List ν} {slots : List Nat}
    (h : slots.mapM (store[·]?) = some items) : ∀ n ∈ items, n ∈ store := by
  induction slots generalizing items with
  | nil =>
    obtain rfl := Option.some.inj h
    exact nofun
  | cons slot slots ih =>
    rw [List.mapM_cons] at h
    obtain ⟨n, hn, h⟩ := Option.bind_eq_some_iff.1 h
    obtain ⟨rest, hrest, h⟩ := Option.bind_eq_some_iff.1 h
    obtain rfl := Option.some.inj h
    exact List.forall_mem_cons.2 ⟨List.mem_of_getElem? hn, ih hrest⟩

/-- Sound trees in new slots leave all trees sound. -/
theorem sound_append {store : List IndexedNode} {made : List IndexedNode} (h : ∀ n ∈ store, n.Sound)
    (hmade : ∀ n ∈ made, n.Sound) : ∀ n ∈ store ++ made, n.Sound :=
  List.forall_mem_append.2 ⟨h, hmade⟩

/-- A step does the same on indexed and on plain trees. -/
theorem Refines.step {s : Session IndexedNode} {plain : Session Node} (h : Refines s plain)
    (command : Command) : Refines (s.step indexedEditor command) (plain.step plainEditor command) := by
  obtain ⟨store, replies⟩ := plain
  obtain ⟨rfl, rfl, hsound⟩ := h
  cases command with
  | scalar notes text =>
    refine ⟨?_, ?_, sound_append hsound ?_⟩
    · simp [indexedEditor, plainEditor, IndexedNode.toNode, Session.step]
    · simp [Session.step, Reply.map]
    · exact List.forall_mem_singleton.2 .scalar
  | mapping notes =>
    refine ⟨?_, ?_, sound_append hsound ?_⟩
    · simp [indexedEditor, plainEditor, Session.step, Indexed.toMapping, Indexed.empty]
    · simp [Session.step, Reply.map]
    · exact List.forall_mem_singleton.2 (Indexed.deep_empty.mapping notes)
  | list notes slots =>
    simp only [Session.step, mapM_slots]
    cases hitems : slots.mapM (s.store[·]?) with
    | none => exact ⟨rfl, by simp [Reply.map], hsound⟩
    | some items =>
      have hlist : (IndexedNode.list notes items).Sound :=
        .list fun n hn => hsound n (mem_of_mapM_slots hitems n hn)
      refine ⟨?_, ?_, sound_append hsound (List.forall_mem_singleton.2 hlist)⟩
      · simp [indexedEditor, plainEditor, IndexedNode.toNode, IndexedNode.toNodes_eq_map]
      · simp [Reply.map]
  | edit slot place e =>
    simp only [Session.step, List.getElem?_map, Edit.fill_map]
    -- a slot that holds no tree holds none in either session
    cases hn : s.store[slot]? with
    | none => exact ⟨rfl, by simp [Reply.map], hsound⟩
    | some n =>
      cases hfilled : e.fill s.store with
      | none => exact ⟨rfl, by simp [Reply.map], hsound⟩
      | some filled =>
        have hargs : ∀ x ∈ filled.nodes, x.Sound := fun x hx => hsound x (Edit.mem_of_fill hfilled x hx)
        obtain ⟨hreply, hstate, hwhole, hreturned⟩ :=
          (hsound n (List.mem_of_getElem? hn)).edit place hargs
        refine ⟨?_, ?_, sound_append ?_ hreturned⟩
        · simp [indexedEditor, plainEditor, ← hreply, ← hstate, Reply.nodes_map, List.map_set]
        · simp [indexedEditor, plainEditor, ← hreply]
        · intro other hother
          rcases List.mem_or_eq_of_mem_set hother with hother | rfl
          · exact hsound other hother
          · exact hwhole

/-- By induction on the program: two sessions that begin empty stay in step. -/
theorem Refines.run (program : List Command) :
    Refines (Session.run indexedEditor program) (Session.run plainEditor program) := by
  have hfold {s : Session IndexedNode} {plain : Session Node} (h : Refines s plain) :
      Refines (program.foldl (Session.step indexedEditor) s)
        (program.foldl (Session.step plainEditor) plain) := by
    induction program generalizing s plain with
    | nil => exact h
    | cons command rest ih => exact ih (h.step command)
  exact hfold ⟨rfl, rfl, nofun⟩

end Session

/-! ## What trees answer -/

/-- Index and entries of a mapping are in step, and it answers as its plain entries do. -/
structure Indexed.Agrees (m : Indexed IndexedNode) : Prop where
  nodup : m.names.Nodup
  index : ∀ (name : String) (pos : Nat), m.index[name]? = some pos ↔ m.names[pos]? = some name
  names : m.names = Mapping.names m.toMapping
  length : m.length = m.toMapping.length
  contains : ∀ name, m.contains name = Mapping.contains m.toMapping name

/-- A tree answers as the plain tree does at every path, and a node can be written there as in the plain
tree. -/
structure IndexedNode.Agrees (n : IndexedNode) : Prop where
  mappings : ∀ path notes m, n.get? path = some (.mapping notes m) → m.Agrees
  get : ∀ path, (n.get? path).map toNode = n.toNode.get? path
  getMut : ∀ path, (n.getMut? path).map (fun p => p.1.toNode) = n.toNode.get? path
  put : ∀ path found put, n.getMut? path = some (found, put) →
    ∀ x : IndexedNode, n.toNode.modify? (fun _ => x.toNode) path = some (put x).toNode

/-- A sound mapping answers as its plain entries do. -/
theorem Indexed.Sound.agrees {m : Indexed IndexedNode} (h : m.Sound) : m.Agrees where
  nodup := h.nodup
  index := h.index
  names := (names_toMapping m).symm
  length := (length_toMapping m).symm
  contains name := (h.contains_toMapping name).symm

/-- A sound tree answers as the plain tree does at every path. -/
theorem IndexedNode.Sound.agrees {n : IndexedNode} (h : n.Sound) : n.Agrees where
  mappings path notes m hget := (Indexed.deep_of_sound (h.get? hget)).sound.agrees
  get path := (h.get?_toNode path).symm
  getMut path := by
    rw [h.get?_toNode, ← map_fst_getMut?, Option.map_map]
    rfl
  put path found put hget := (h.getMut? hget).modify

/-- A program gives the same answers and makes the same trees with indexes and without. In every mapping
that it made, however deep, no name comes twice, and the index takes exactly the names to their positions.
The beginning of a program is a program, so this is true after each of its steps. -/
theorem Session.run_agrees (program : List Command) :
    (run indexedEditor program).replies.map (Reply.map IndexedNode.toNode)
        = (run plainEditor program).replies ∧
      (run indexedEditor program).store.map IndexedNode.toNode = (run plainEditor program).store ∧
      ∀ n ∈ (run indexedEditor program).store, n.Sound ∧ n.Agrees := by
  obtain ⟨hstore, hreplies, hsound⟩ := Refines.run program
  exact ⟨hreplies, hstore, fun n hn => ⟨hsound n hn, (hsound n hn).agrees⟩⟩

end RoleChart.Document
