import RoleChart.Proofs.Yaml.Outline

/-!
# From the tokens of an outline to its tree

The tokens of a node are read up to whatever follows them. The fuel that is needed is twice the
number of tokens.

## Main statements

* `ofTokens_tokens` — the tree of a whole document
-/

namespace RoleChart.Yaml

namespace Outline

/-- A step reads these tokens from the front and gives a result; nothing else changes. -/
def Groups {α : Type} (m : Read α) (tokens : List Token) (a : α) (rest : List Token) : Prop :=
  ∀ r : Reading, r.tokens = tokens ++ rest → m.run r = .ok (a, { r with tokens := rest })

theorem groups_pure {α : Type} (a : α) (rest : List Token) : Groups (pure a) [] a rest := by
  intro r hr
  obtain ⟨tokens, handles, anchors, slots, trees, started⟩ := r
  simp only [List.nil_append] at hr
  subst hr
  rfl

/-- One step after another reads the tokens of both. -/
theorem Groups.bind {α β : Type} {m : Read α} {f : α → Read β} {a : α} {b : β}
    {s t rest : List Token} (hm : Groups m s a (t ++ rest)) (hf : Groups (f a) t b rest) :
    Groups (m >>= f) (s ++ t) b rest := by
  intro r hr
  have h1 := hm r (by simpa using hr)
  have h2 := hf { r with tokens := t ++ rest } rfl
  simp only [StateT.run_bind, h1]
  exact h2

/-- A step that reads nothing goes first. -/
theorem Groups.pure_bind {α β : Type} {m : Read α} {f : α → Read β} {a : α} {b : β}
    {tokens rest : List Token} (hm : Groups m [] a (tokens ++ rest)) (hf : Groups (f a) tokens b rest) :
    Groups (m >>= f) tokens b rest :=
  hm.bind (s := []) hf

/-- What is made of a result reads no further tokens. -/
theorem Groups.bind_pure {α β : Type} {m : Read α} {f : α → β} {a : α} {tokens rest : List Token}
    (hm : Groups m tokens a rest) : Groups (do return f (← m)) tokens (f a) rest := by
  have hm' : Groups m tokens a ([] ++ rest) := hm
  have h : Groups (m >>= fun x => pure (f x)) (tokens ++ []) (f a) rest :=
    hm'.bind (groups_pure (f a) rest)
  rwa [List.append_nil] at h

theorem groups_peek {rest : List Token} : Groups Read.peek [] rest.head? rest := by
  intro r hr
  simp only [List.nil_append] at hr
  subst hr
  rfl

theorem groups_skip {t : Token} {rest : List Token} : Groups Read.skip [t] () rest := by
  intro r hr
  obtain ⟨tokens, handles, anchors, slots, trees, started⟩ := r
  simp only at hr
  subst hr
  rfl

/-- A node without an anchor and without a tag in front of it. -/
theorem groups_properties {t : Token} {rest : List Token} (ha : ∀ name, t ≠ .anchor name)
    (hg : ∀ handle suffix, t ≠ .tag handle suffix) :
    Groups Read.properties [] (none, none) (t :: rest) := by
  refine Groups.pure_bind groups_peek ?_
  cases t with
  | anchor name => exact absurd rfl (ha name)
  | tag handle suffix => exact absurd rfl (hg handle suffix)
  | _ => exact groups_pure _ _

theorem groups_begin {rest : List Token} : Groups (Read.begin none) [] none rest := groups_pure _ _

theorem groups_finish {t : Tree} {rest : List Token} : Groups (Read.finish none t) [] t rest :=
  groups_pure _ _

theorem groups_accept {t : Token} {rest : List Token} : Groups (Read.accept t) [t] true rest := by
  refine Groups.pure_bind groups_peek ?_
  simp only [List.cons_append, List.head?_cons, beq_self_eq_true, if_true]
  exact groups_skip.bind (t := []) (groups_pure _ _)

/-- Another token than the accepted one stays where it is. -/
theorem groups_accept_ne {t u : Token} {rest : List Token} (h : u ≠ t) :
    Groups (Read.accept t) [] false (u :: rest) := by
  refine Groups.pure_bind groups_peek ?_
  simp only [List.nil_append, List.head?_cons, Option.some_beq_some, beq_iff_eq, h, if_false]
  exact groups_pure _ _

theorem groups_expect {t : Token} {rest : List Token} : Groups (Read.expect t) [t] () rest :=
  groups_accept.bind (t := []) (groups_pure _ _)

theorem groups_next {tokens rest : List Token} :
    Groups (Read.next tokens) [] (rest.head?.any tokens.contains) rest :=
  Groups.pure_bind groups_peek (groups_pure _ _)

/-! ## Nodes -/

section Node

variable {unindented : Bool} {fuel : Nat} {rest tokens stops : List Token} {t : Tree}

/-- A collection is put together from its parts behind the token that opens it. -/
theorem groups_collection {α : Type} {parts : Read α} {a : α} (opening : Token) (build : α → Tree)
    (h : Groups parts tokens a rest) :
    Groups (do Read.skip; let number ← Read.begin none; Read.finish number (build (← parts)))
      (opening :: tokens) (build a) rest :=
  groups_skip.bind (t := tokens) (Groups.pure_bind groups_begin h.bind_pure)

/-- A scalar is one token and becomes a leaf. -/
theorem groups_scalar (s : Spelling) :
    Groups (Read.node true unindented (fuel + 1)) [s.token] s.tree rest := by
  rw [Read.node]
  refine Groups.pure_bind groups_peek ?_
  cases s <;>
  · refine Groups.pure_bind (groups_properties (by simp [Spelling.token]) (by simp [Spelling.token])) ?_
    refine Groups.pure_bind groups_peek ?_
    refine groups_skip.bind (t := []) ?_
    exact Groups.pure_bind groups_begin groups_finish

/-- The brackets of an empty sequence. -/
theorem groups_noItems :
    Groups (Read.node true unindented (fuel + 2)) [.flowSequenceStart, .flowSequenceEnd]
      (.sequence none []) rest := by
  have items : Groups (Read.flowItems true (fuel + 1)) [.flowSequenceEnd] [] rest := by
    rw [Read.flowItems]
    exact groups_accept.bind (t := []) (groups_pure _ _)
  rw [Read.node]
  refine Groups.pure_bind groups_peek ?_
  refine Groups.pure_bind (groups_properties (by simp) (by simp)) ?_
  refine Groups.pure_bind groups_peek ?_
  exact groups_collection .flowSequenceStart (.sequence none) items

/-- The braces of an empty mapping. -/
theorem groups_noEntries :
    Groups (Read.node true unindented (fuel + 2)) [.flowMappingStart, .flowMappingEnd]
      (.mapping none []) rest := by
  have entries : Groups (Read.flowEntries true (fuel + 1)) [.flowMappingEnd] [] rest := by
    rw [Read.flowEntries]
    exact groups_accept.bind (t := []) (groups_pure _ _)
  rw [Read.node]
  refine Groups.pure_bind groups_peek ?_
  refine Groups.pure_bind (groups_properties (by simp) (by simp)) ?_
  refine Groups.pure_bind groups_peek ?_
  exact groups_collection .flowMappingStart (.mapping none) entries

/-- A sequence is read from the token that opens it and from its items. -/
theorem groups_sequence {items : List Tree}
    (h : Groups (Read.blockItems fuel) tokens items rest) :
    Groups (Read.node true unindented (fuel + 1)) (.blockSequenceStart :: tokens)
      (.sequence none items) rest := by
  rw [Read.node]
  refine Groups.pure_bind groups_peek ?_
  refine Groups.pure_bind (groups_properties (by simp) (by simp)) ?_
  refine Groups.pure_bind groups_peek ?_
  exact groups_collection .blockSequenceStart (.sequence none) h

/-- A mapping is read from the token that opens it and from its entries. -/
theorem groups_mapping {entries : List (Tree × Tree)}
    (h : Groups (Read.blockEntries fuel) tokens entries rest) :
    Groups (Read.node true unindented (fuel + 1)) (.blockMappingStart :: tokens)
      (.mapping none entries) rest := by
  rw [Read.node]
  refine Groups.pure_bind groups_peek ?_
  refine Groups.pure_bind (groups_properties (by simp) (by simp)) ?_
  refine Groups.pure_bind groups_peek ?_
  exact groups_collection .blockMappingStart (.mapping none) h

/-- A node is left out in front of a token that stops it. -/
theorem groups_nodeUnless_empty (hstop : rest.head?.any stops.contains = true) :
    Groups (Read.nodeUnless stops true unindented (fuel + 1)) [] .empty rest := by
  rw [Read.nodeUnless]
  refine Groups.pure_bind groups_next ?_
  simp only [List.nil_append, hstop, if_true]
  exact groups_pure _ _

/-- A node that begins with no stopping token is read as it would be elsewhere. -/
theorem groups_nodeUnless {tokens : List Token} (hgo : (tokens ++ rest).head?.any stops.contains = false)
    (h : Groups (Read.node true unindented fuel) tokens t rest) :
    Groups (Read.nodeUnless stops true unindented (fuel + 1)) tokens t rest := by
  rw [Read.nodeUnless]
  refine Groups.pure_bind groups_next ?_
  simp only [hgo, Bool.false_eq_true, if_false]
  exact h

/-- An item is read behind its mark, then the others. -/
theorem groups_item {item : Tree} {items : List Tree} {more : List Token}
    (h : Groups (Read.nodeUnless [.blockEntry, .blockEnd] true false fuel) tokens item (more ++ rest))
    (hs : Groups (Read.blockItems fuel) more items rest) :
    Groups (Read.blockItems (fuel + 1)) (.blockEntry :: (tokens ++ more)) (item :: items) rest := by
  rw [Read.blockItems]
  refine groups_accept.bind (t := tokens ++ more) ?_
  exact h.bind hs.bind_pure

theorem groups_items_end : Groups (Read.blockItems (fuel + 1)) [.blockEnd] [] rest := by
  rw [Read.blockItems]
  refine Groups.pure_bind (groups_accept_ne (by decide)) ?_
  exact groups_expect.bind (t := []) (groups_pure _ _)

/-- An entry is read behind the marks of its name and of its value, then the others. -/
theorem groups_entry {key value : Tree} {entries : List (Tree × Tree)} {spelled more : List Token}
    (hk : Groups (Read.nodeUnless [.key, .value, .blockEnd] true true fuel) spelled key
      (.value :: (tokens ++ more) ++ rest))
    (hv : Groups (Read.nodeUnless [.key, .value, .blockEnd] true true fuel) tokens value
      (more ++ rest))
    (hs : Groups (Read.blockEntries fuel) more entries rest) :
    Groups (Read.blockEntries (fuel + 1)) (.key :: (spelled ++ .value :: (tokens ++ more)))
      ((key, value) :: entries) rest := by
  rw [Read.blockEntries]
  refine groups_accept.bind (t := spelled ++ .value :: (tokens ++ more)) ?_
  refine hk.bind ?_
  refine groups_accept.bind (t := tokens ++ more) ?_
  exact hv.bind hs.bind_pure

theorem groups_entries_end : Groups (Read.blockEntries (fuel + 1)) [.blockEnd] [] rest := by
  rw [Read.blockEntries]
  refine Groups.pure_bind (groups_accept_ne (by decide)) ?_
  exact groups_expect.bind (t := []) (groups_pure _ _)

end Node

/-! ## Outlines -/

/-- The tokens that stop a node which is left out. -/
def isStop (t : Token) : Bool := t == .blockEntry || t == .key || t == .value || t == .blockEnd

/-- A node that is not left out begins with a token of its own. -/
theorem exists_first {o : Outline} (h : o.tokens ≠ []) :
    ∃ first more, o.tokens = first :: more ∧ isStop first = false ∧
      Read.isDocumentMark first = false := by
  cases o with
  | scalar s => cases s <;> exact ⟨_, _, rfl, rfl, rfl⟩
  | noItems => exact ⟨_, _, rfl, rfl, rfl⟩
  | noEntries => exact ⟨_, _, rfl, rfl, rfl⟩
  | sequence items =>
    cases items with
    | nil => exact absurd (by rw [tokens]) h
    | cons item items => exact ⟨_, _, by rw [tokens]; rfl, rfl, rfl⟩
  | mapping inline entries =>
    cases entries with
    | nil => exact absurd (by rw [tokens]) h
    | cons entry entries => exact ⟨_, _, by rw [tokens]; rfl, rfl, rfl⟩

/-- A node without tokens is left out. -/
theorem tree_of_tokens_nil {o : Outline} (h : o.tokens = []) : o.tree = .empty := by
  cases o with
  | scalar s => simp [tokens] at h
  | noItems => simp [tokens] at h
  | noEntries => simp [tokens] at h
  | sequence items =>
    cases items with
    | nil => rw [tree]
    | cons item items => simp [tokens] at h
  | mapping inline entries =>
    cases entries with
    | nil => rw [tree]
    | cons entry entries => simp [tokens] at h

/-- A part of a collection is read, or is left out in front of what stops it. -/
theorem groups_part {o : Outline} {unindented : Bool} {fuel : Nat} {stops rest : List Token}
    (hstops : ∀ t ∈ stops, isStop t = true) (hrest : rest.head?.any stops.contains = true)
    (h : o.tokens ≠ [] → Groups (Read.node true unindented fuel) o.tokens o.tree rest) :
    Groups (Read.nodeUnless stops true unindented (fuel + 1)) o.tokens o.tree rest := by
  by_cases hne : o.tokens = []
  · rw [hne, tree_of_tokens_nil hne]
    exact groups_nodeUnless_empty hrest
  · refine groups_nodeUnless ?_ (h hne)
    obtain ⟨first, more, he, hf, -⟩ := exists_first hne
    rw [he]
    simp only [List.cons_append, List.head?_cons, Option.any_some, List.contains_eq_mem,
      decide_eq_false_iff_not]
    intro hm
    rw [hstops first hm] at hf
    exact absurd hf (by decide)

/-- Behind an item stands the next one or the end of the sequence. -/
theorem itemsTokens_head (items : List (List (List Char) × Outline)) (rest : List Token) :
    (itemsTokens items ++ .blockEnd :: rest).head?.any [.blockEntry, .blockEnd].contains = true := by
  cases items <;> simp [itemsTokens]

/-- Behind an entry stands the next one or the end of the mapping. -/
theorem entriesTokens_head (entries : List (List (List Char) × Spelling × Outline))
    (rest : List Token) :
    (entriesTokens entries ++ .blockEnd :: rest).head?.any [.key, .value, .blockEnd].contains
      = true := by
  cases entries <;> simp [entriesTokens]

mutual

/-- A node is read from its tokens. Two rounds for each token are fuel enough. -/
theorem groups_outline : ∀ (o : Outline) (unindented : Bool) (fuel : Nat) (rest : List Token),
    o.tokens ≠ [] → 2 * o.tokens.length ≤ fuel →
    Groups (Read.node true unindented fuel) o.tokens o.tree rest
  | .scalar s, unindented, fuel, rest, _, hfuel => by
    obtain ⟨fuel, rfl⟩ : ∃ m, fuel = m + 1 := ⟨fuel - 1, by simp [tokens] at hfuel; omega⟩
    rw [tokens, tree]
    exact groups_scalar s
  | .noItems, unindented, fuel, rest, _, hfuel => by
    obtain ⟨fuel, rfl⟩ : ∃ m, fuel = m + 2 := ⟨fuel - 2, by simp [tokens] at hfuel; omega⟩
    rw [tokens, tree]
    exact groups_noItems
  | .noEntries, unindented, fuel, rest, _, hfuel => by
    obtain ⟨fuel, rfl⟩ : ∃ m, fuel = m + 2 := ⟨fuel - 2, by simp [tokens] at hfuel; omega⟩
    rw [tokens, tree]
    exact groups_noEntries
  | .sequence [], _, _, _, hne, _ => absurd (by rw [tokens]) hne
  | .sequence (item :: items), unindented, fuel, rest, _, hfuel => by
    rw [tokens, List.length_append, List.length_cons] at hfuel
    obtain ⟨fuel, rfl⟩ : ∃ m, fuel = m + 1 := ⟨fuel - 1, by omega⟩
    rw [tokens, tree]
    exact groups_sequence (groups_outlineItems (item :: items) fuel rest (by omega))
  | .mapping _ [], _, _, _, hne, _ => absurd (by rw [tokens]) hne
  | .mapping _ (entry :: entries), unindented, fuel, rest, _, hfuel => by
    rw [tokens, List.length_append, List.length_cons] at hfuel
    obtain ⟨fuel, rfl⟩ : ∃ m, fuel = m + 1 := ⟨fuel - 1, by omega⟩
    rw [tokens, tree]
    exact groups_mapping (groups_outlineEntries (entry :: entries) fuel rest (by omega))

/-- The items are read one after another, up to the token that closes the sequence. -/
theorem groups_outlineItems : ∀ (items : List (List (List Char) × Outline)) (fuel : Nat)
    (rest : List Token), 2 * (itemsTokens items).length + 1 ≤ fuel →
    Groups (Read.blockItems fuel) (itemsTokens items ++ [.blockEnd]) (itemsTrees items) rest
  | [], fuel, rest, hfuel => by
    obtain ⟨fuel, rfl⟩ : ∃ m, fuel = m + 1 := ⟨fuel - 1, by omega⟩
    rw [itemsTokens, itemsTrees]
    exact groups_items_end
  | (remarks, o) :: items, fuel, rest, hfuel => by
    rw [itemsTokens, List.length_append, List.length_cons] at hfuel
    obtain ⟨fuel, rfl⟩ : ∃ m, fuel = m + 2 := ⟨fuel - 2, by omega⟩
    have ho : Groups (Read.nodeUnless [.blockEntry, .blockEnd] true false (fuel + 1)) o.tokens o.tree
        (itemsTokens items ++ [.blockEnd] ++ rest) := by
      refine groups_part (by simp [isStop]) (by simpa using itemsTokens_head items rest) fun hne => ?_
      exact groups_outline o false fuel _ hne (by omega)
    rw [itemsTokens, itemsTrees]
    simpa using groups_item ho (groups_outlineItems items (fuel + 1) rest (by omega))

/-- The entries are read one after another, up to the token that closes the mapping. -/
theorem groups_outlineEntries : ∀ (entries : List (List (List Char) × Spelling × Outline))
    (fuel : Nat) (rest : List Token), 2 * (entriesTokens entries).length + 1 ≤ fuel →
    Groups (Read.blockEntries fuel) (entriesTokens entries ++ [.blockEnd]) (entriesTrees entries) rest
  | [], fuel, rest, hfuel => by
    obtain ⟨fuel, rfl⟩ : ∃ m, fuel = m + 1 := ⟨fuel - 1, by omega⟩
    rw [entriesTokens, entriesTrees]
    exact groups_entries_end
  | (remarks, key, o) :: entries, fuel, rest, hfuel => by
    rw [entriesTokens, List.length_append, List.length_cons, List.length_cons, List.length_cons]
      at hfuel
    obtain ⟨fuel, rfl⟩ : ∃ m, fuel = m + 3 := ⟨fuel - 3, by omega⟩
    have hk : Groups (Read.nodeUnless [.key, .value, .blockEnd] true true (fuel + 2)) [key.token]
        key.tree (.value :: (o.tokens ++ (entriesTokens entries ++ [.blockEnd])) ++ rest) := by
      refine groups_nodeUnless ?_ (groups_scalar key)
      cases key <;> simp [Spelling.token]
    have ho : Groups (Read.nodeUnless [.key, .value, .blockEnd] true true (fuel + 2)) o.tokens o.tree
        (entriesTokens entries ++ [.blockEnd] ++ rest) := by
      refine groups_part (by simp [isStop]) (by simpa using entriesTokens_head entries rest)
        fun hne => ?_
      exact groups_outline o true (fuel + 1) _ hne (by omega)
    rw [entriesTokens, entriesTrees]
    simpa using groups_entry hk ho (groups_outlineEntries entries (fuel + 2) rest (by omega))

end

/-! ## Documents -/

theorem run_bind_ok {α β : Type} {m : Read α} {f : α → Read β} {a : α} {b : β} {r s t : Reading}
    (hm : m.run r = .ok (a, s)) (hf : (f a).run s = .ok (b, t)) : (m >>= f).run r = .ok (b, t) := by
  rw [StateT.run_bind, hm]
  exact hf

/-- The tokens of an outline behind an opening mark are one document, its tree. -/
theorem ofTokens_tokens (o : Outline) :
    Document.ofTokens (.documentStart :: o.tokens) = .ok { root := o.tree, slots := [] } := by
  by_cases hne : o.tokens = []
  · rw [hne, tree_of_tokens_nil hne]
    rfl
  obtain ⟨first, more, he, -, hm⟩ := exists_first hne
  have hnode := groups_outline o false (2 * (Token.documentStart :: o.tokens).length + 4) [] hne
    (by simp only [List.length_cons]; omega)
  rw [Document.ofTokens]
  -- the fuel is any number from here on, or unfolding would compute with it
  generalize 2 * (Token.documentStart :: o.tokens).length + 4 = fuel at hnode ⊢
  let handles := [("!", "!"), ("!!", "tag:yaml.org,2002:")]
  have hrun : (Read.document fuel).run { tokens := .documentStart :: o.tokens, handles := [] }
      = .ok (o.tree, { tokens := [], handles := handles }) := by
    unfold Read.document
    refine run_bind_ok (s := { tokens := .documentStart :: o.tokens, handles := [] }) rfl ?_
    refine run_bind_ok (s := { tokens := .documentStart :: o.tokens, handles := [] }) (a := ()) rfl ?_
    refine run_bind_ok (s := { tokens := .documentStart :: o.tokens, handles := handles }) (a := ())
      rfl ?_
    refine run_bind_ok (s := { tokens := o.tokens, handles := handles }) rfl ?_
    refine run_bind_ok (s := { tokens := o.tokens, handles := handles }) rfl ?_
    rw [he]
    simp only [List.head?_cons, hm, Bool.false_eq_true, if_false]
    refine run_bind_ok (hnode _ (by simp [he])) ?_
    rfl
  rw [hrun]
  rfl

end Outline

end RoleChart.Yaml
