import RoleChart.Proofs.Building
import RoleChart.Proofs.Yaml.Decoding
import RoleChart.Proofs.Yaml.Grouping
import RoleChart.Proofs.Yaml.Steps

/-!
# What was read stays

A reader puts tokens in behind others, in front of a token that turns out to be a key. The tokens at the
front stay where they are as long as no place that is still remembered for a key lies among them. So the
first entry of a mapping is settled once its value is read, whatever is read after it.

## Main statements

* `Keeps.token` — reading a token keeps the front
* `prefix_readAll` — what is read to the end begins with the front
* `head_of_ofText` — the first entry of a value is the one that was read first
-/

namespace RoleChart.Yaml

open Built

namespace Stream

/-- The tokens that a reader has read begin with a front, here in reverse order, and no remembered place
of a key lies in it. -/
structure Keeps (front : List Token) (s : Stream) : Prop where
  tokens : front <:+ s.tokens
  place : ∀ k, s.keyPlace = some k → front.length ≤ k.position
  outer : ∀ k, some k ∈ s.outerKeyPlaces → front.length ≤ k.position

section Keeps

variable {front : List Token} {s s' : Stream}

/-! ## Places of keys -/

theorem Keeps.dropKeyPlace (h : Keeps front s) (hs : s.dropKeyPlace = .ok s') : Keeps front s' := by
  rw [Stream.dropKeyPlace] at hs
  split at hs
  · exact absurd hs (by simp)
  · obtain rfl := Except.ok.inj hs
    exact ⟨h.tokens, by simp, h.outer⟩

/-- A new place lies behind all tokens. -/
theorem Keeps.saveKeyPlace (h : Keeps front s) (hs : s.saveKeyPlace = .ok s') : Keeps front s' := by
  rw [Stream.saveKeyPlace] at hs
  split at hs
  · obtain rfl := Except.ok.inj hs
    exact h
  · obtain ⟨s₁, hdrop, hs⟩ := bind_eq_ok_iff.1 hs
    obtain rfl := Except.ok.inj hs
    have h₁ := h.dropKeyPlace hdrop
    refine ⟨h₁.tokens, ?_, h₁.outer⟩
    intro k hk
    obtain rfl := Option.some.inj hk
    exact h₁.tokens.length_le

theorem freshPlace_eq {c : Cursor} {place place' : Option KeyPlace} (h : freshPlace c place = .ok place') :
    place' = place ∨ place' = none := by
  unfold freshPlace at h
  split at h
  · exact Or.inr (Except.ok.inj h).symm
  · split at h
    · split at h
      · exact absurd h (by simp)
      · exact Or.inr (Except.ok.inj h).symm
    · exact Or.inl (Except.ok.inj h).symm

theorem Keeps.refreshKeyPlaces (h : Keeps front s) (hs : s.refreshKeyPlaces = .ok s') : Keeps front s' := by
  obtain ⟨outer, houter, hs⟩ := bind_eq_ok_iff.1 hs
  obtain ⟨place, hplace, hs⟩ := bind_eq_ok_iff.1 hs
  obtain rfl := Except.ok.inj hs
  refine ⟨h.tokens, ?_, ?_⟩
  · intro k hk
    rcases freshPlace_eq hplace with rfl | rfl
    · exact h.place k hk
    · exact absurd hk (by simp)
  · intro k hk
    obtain ⟨old, hold, hf⟩ := exists_of_mem_mapM houter hk
    rcases freshPlace_eq hf with rfl | hnone
    · exact h.outer k hold
    · exact absurd hnone (by simp)

/-! ## Indentation -/

theorem suffix_closeOnto (column : Int) : ∀ (indents : List Int) (tokens : List Token) (indent : Int),
    tokens <:+ (closeOnto column tokens indent indents).1 := by
  intro indents
  induction indents with
  | nil => intro tokens indent; exact List.suffix_rfl
  | cons i indents ih =>
    intro tokens indent
    rw [closeOnto]
    split
    · exact (List.suffix_cons _ _).trans (ih _ _)
    · exact List.suffix_rfl

theorem Keeps.closeBlocks (h : Keeps front s) (column : Int) : Keeps front (s.closeBlocks column) := by
  rw [Stream.closeBlocks]
  split
  · exact h
  · exact ⟨h.tokens.trans (suffix_closeOnto column _ _ _), h.place, h.outer⟩

theorem Keeps.emit (h : Keeps front s) (t : Token) : Keeps front (s.emit t) :=
  ⟨h.tokens.trans (List.suffix_cons t _), h.place, h.outer⟩

theorem Keeps.openBlock (h : Keeps front s) (column : Nat) (t : Token) :
    Keeps front (s.openBlock column t) := by
  rw [Stream.openBlock]
  split
  · exact h
  · exact ⟨(h.emit t).tokens, h.place, h.outer⟩

theorem Keeps.toNext (h : Keeps front s) : Keeps front s.toNext := ⟨h.tokens, h.place, h.outer⟩

/-! ## Tokens -/

/-- Tokens that are put in behind the front leave it where it is. -/
theorem suffix_insertAt {tokens : List Token} (h : front <:+ tokens) {position : Nat}
    (hp : front.length ≤ position) (new : List Token) : front <:+ insertAt tokens position new := by
  obtain ⟨later, rfl⟩ := h
  have hdrop : (later ++ front).drop ((later ++ front).length - position)
      = later.drop ((later ++ front).length - position) ++ front :=
    List.drop_append_of_le_length (by rw [List.length_append]; omega)
  rw [insertAt, hdrop, ← List.append_assoc]
  exact List.suffix_append _ _

theorem Keeps.outermost {token : Stream → Except Problem (Token × Cursor)} (h : Keeps front s)
    (hs : s.outermost token = .ok s') : Keeps front s' := by
  obtain ⟨s₁, hdrop, hs⟩ := bind_eq_ok_iff.1 hs
  obtain ⟨⟨t, c⟩, -, hs⟩ := bind_eq_ok_iff.1 hs
  obtain rfl := Except.ok.inj hs
  have h₁ := ((h.closeBlocks (-1)).dropKeyPlace hdrop).emit t
  exact ⟨h₁.tokens, h₁.place, h₁.outer⟩

theorem Keeps.openFlow {t : Token} (h : Keeps front s) (hs : s.openFlow t = .ok s') : Keeps front s' := by
  obtain ⟨s₁, hsave, hs⟩ := bind_eq_ok_iff.1 hs
  obtain rfl := Except.ok.inj hs
  have h₁ := (h.saveKeyPlace hsave).emit t
  refine ⟨h₁.tokens, by simp, ?_⟩
  intro k hk
  rcases List.mem_cons.1 hk with hk | hk
  · exact h₁.place k hk.symm
  · exact h₁.outer k hk

theorem Keeps.closeFlow {t : Token} (h : Keeps front s) (hs : s.closeFlow t = .ok s') : Keeps front s' := by
  obtain ⟨s₁, hdrop, hs⟩ := bind_eq_ok_iff.1 hs
  have h₁ := (h.dropKeyPlace hdrop).emit t
  dsimp only at hs
  split at hs
  · next place outer houter =>
    obtain rfl := Except.ok.inj hs
    have houter' : s₁.outerKeyPlaces = place :: outer := houter
    refine ⟨h₁.tokens, fun k hk => h₁.outer k ?_, fun k hk => h₁.outer k ?_⟩
    · exact houter' ▸ List.mem_cons.2 (Or.inl hk.symm)
    · exact houter' ▸ List.mem_cons_of_mem place hk
  · obtain rfl := Except.ok.inj hs
    exact ⟨h₁.tokens, h₁.place, h₁.outer⟩

theorem Keeps.flowEntry (h : Keeps front s) (hs : s.flowEntry = .ok s') : Keeps front s' := by
  obtain ⟨s₁, hdrop, hs⟩ := bind_eq_ok_iff.1 hs
  obtain rfl := Except.ok.inj hs
  have h₁ := (h.dropKeyPlace hdrop).emit .flowEntry
  exact ⟨h₁.tokens, h₁.place, h₁.outer⟩

theorem Keeps.blockEntry (h : Keeps front s) (hs : s.blockEntry = .ok s') : Keeps front s' := by
  rw [Stream.blockEntry] at hs
  split at hs
  · exact absurd hs (by simp [bind, Except.bind, throw, throwThe, MonadExceptOf.throw])
  obtain ⟨s₁, hdrop, hs⟩ := bind_eq_ok_iff.1 hs
  obtain rfl := Except.ok.inj hs
  have h₁ := ((h.openBlock _ _).dropKeyPlace hdrop).emit .blockEntry
  exact ⟨h₁.tokens, h₁.place, h₁.outer⟩

theorem Keeps.explicitKey (h : Keeps front s) (hs : s.explicitKey = .ok s') : Keeps front s' := by
  rw [Stream.explicitKey] at hs
  split at hs
  · exact absurd hs (by simp [bind, Except.bind, throw, throwThe, MonadExceptOf.throw])
  obtain ⟨s₁, hdrop, hs⟩ := bind_eq_ok_iff.1 hs
  obtain rfl := Except.ok.inj hs
  have h₁ := ((h.openBlock _ _).dropKeyPlace hdrop).emit .key
  exact ⟨h₁.tokens, h₁.place, h₁.outer⟩

theorem Keeps.value (h : Keeps front s) (hs : s.value = .ok s') : Keeps front s' := by
  rw [Stream.value] at hs
  split at hs
  · next k hk =>
    obtain rfl := Except.ok.inj hs
    generalize (if (!s.inFlow && decide (s.indent < (k.column : Int))) = true then
      [Token.blockMappingStart, Token.key] else [Token.key]) = new
    have hnew := (suffix_insertAt h.tokens (h.place k hk) new).trans (List.suffix_cons .value _)
    split
    · exact ⟨hnew, by simp [emitAt, Stream.emit], h.outer⟩
    · exact ⟨hnew, by simp [emitAt, Stream.emit], h.outer⟩
  · split at hs
    · exact absurd hs (by simp [bind, Except.bind, throw, throwThe, MonadExceptOf.throw])
    obtain rfl := Except.ok.inj hs
    have h₁ := (h.openBlock s.cursor.column .blockMappingStart).emit .value
    exact ⟨h₁.tokens, h₁.place, h₁.outer⟩

theorem Keeps.keyable {token : Stream → Except Problem (Token × Bool × Cursor)} (h : Keeps front s)
    (hs : s.keyable token = .ok s') : Keeps front s' := by
  obtain ⟨s₁, hsave, hs⟩ := bind_eq_ok_iff.1 hs
  obtain ⟨⟨t, keyAllowed, c⟩, -, hs⟩ := bind_eq_ok_iff.1 hs
  obtain rfl := Except.ok.inj hs
  have h₁ := (h.saveKeyPlace hsave).emit t
  exact ⟨h₁.tokens, h₁.place, h₁.outer⟩

theorem Keeps.block {folded : Bool} (h : Keeps front s) (hs : s.block folded = .ok s') :
    Keeps front s' := by
  obtain ⟨s₁, hdrop, hs⟩ := bind_eq_ok_iff.1 hs
  obtain ⟨⟨text, c⟩, -, hs⟩ := bind_eq_ok_iff.1 hs
  obtain rfl := Except.ok.inj hs
  have h₁ := (h.dropKeyPlace hdrop).emit (.scalar (if folded then .folded else .literal) (String.ofList text))
  exact ⟨h₁.tokens, h₁.place, h₁.outer⟩

/-- What holds of both branches' results holds of the result of a choice. -/
theorem of_ite {p : Prop} [Decidable p] {a b : Except Problem Stream}
    (ha : a = .ok s' → Keeps front s') (hb : b = .ok s' → Keeps front s')
    (h : (if p then a else b) = .ok s') : Keeps front s' := by
  split at h
  · exact ha h
  · exact hb h

/-- Reading a token keeps the front. -/
theorem Keeps.token {first : Char} {rest : List Char} (h : Keeps front s)
    (hs : s.token first rest = .ok s') : Keeps front s' := by
  have error {p : Problem} : (.error p : Except Problem Stream) = .ok s' → Keeps front s' := nofun
  -- in the order of the tests on the first character
  refine of_ite h.outermost (of_ite h.outermost (of_ite h.openFlow (of_ite h.openFlow (of_ite h.closeFlow
    (of_ite h.closeFlow (of_ite h.flowEntry (of_ite h.blockEntry (of_ite h.explicitKey (of_ite h.value
    (of_ite h.keyable (of_ite h.keyable (of_ite h.keyable (of_ite h.block (of_ite h.block
    (of_ite h.keyable (of_ite h.keyable error)))))))))))))))) hs

/-- What is read to the end begins with the front. -/
theorem prefix_readAll : ∀ (fuel : Nat) {s : Stream} {tokens : List Token}, Keeps front s →
    s.readAll fuel = .ok tokens → front.reverse <+: tokens := by
  intro fuel
  induction fuel with
  | zero => intro s tokens _ hs; exact absurd hs (by simp [readAll])
  | succ fuel ih =>
    intro s tokens h hs
    rw [readAll] at hs
    obtain ⟨s₁, hfresh, hs⟩ := bind_eq_ok_iff.1 hs
    have h₁ := (h.toNext.refreshKeyPlaces hfresh).closeBlocks s₁.cursor.column
    generalize s₁.closeBlocks s₁.cursor.column = s₂ at h₁ hs
    dsimp only at hs
    split at hs
    · obtain ⟨s₃, hdrop, hs⟩ := bind_eq_ok_iff.1 hs
      obtain rfl := Except.ok.inj hs
      exact List.reverse_prefix.2 ((h₁.closeBlocks (-1)).dropKeyPlace hdrop).tokens
    · next first rest _ =>
      obtain ⟨s₃, htoken, hs⟩ := bind_eq_ok_iff.1 hs
      exact ih (h₁.token htoken) hs

end Keeps

end Stream

/-! ## The first entry of a mapping -/

namespace Outline

section Run

variable {α β : Type} {fuel : Nat} {rest : List Token} {r r' : Reading} {k s : Spelling}

/-- What a step reads from the front is settled for the steps behind it. -/
theorem Groups.run_bind {m : Read α} {f : α → Read β} {a : α} {tokens : List Token}
    (hm : Groups m tokens a rest) (hr : r.tokens = tokens ++ rest) :
    (m >>= f).run r = (f a).run { r with tokens := rest } := by
  rw [StateT.run_bind, hm r hr]
  rfl

theorem groups_value (s : Spelling) (rest : List Token) :
    Groups (Read.nodeUnless [.key, .value, .blockEnd] true true (fuel + 2)) [s.token] s.tree rest := by
  refine groups_nodeUnless ?_ (groups_scalar s)
  cases s <;> simp [Spelling.token]

/-- The entries of a block mapping begin with the one that is read first. -/
theorem head_of_blockEntries {entries : List (Tree × Tree)}
    (hr : r.tokens = .key :: k.token :: .value :: s.token :: rest)
    (h : (Read.blockEntries (fuel + 3)).run r = .ok (entries, r')) :
    ∃ more, entries = (k.tree, s.tree) :: more := by
  rw [Read.blockEntries, groups_accept.run_bind hr, if_pos rfl, (groups_value k _).run_bind (by rfl),
    groups_accept.run_bind (by rfl), if_pos rfl, (groups_value s _).run_bind (by rfl),
    StateT.run_bind] at h
  obtain ⟨⟨more, r₁⟩, -, h⟩ := bind_eq_ok_iff.1 h
  obtain ⟨rfl, -⟩ := Prod.mk.inj (Except.ok.inj h)
  exact ⟨more, rfl⟩

/-- A block mapping holds the entries that are read behind its mark. -/
theorem run_mapping {unindented : Bool} (hr : r.tokens = .blockMappingStart :: rest) :
    (Read.node true unindented (fuel + 1)).run r
      = (do return .mapping none (← Read.blockEntries fuel) : Read Tree).run { r with tokens := rest } := by
  have hr' : r.tokens = [] ++ .blockMappingStart :: rest := hr
  rw [Read.node, groups_peek.run_bind hr', List.head?_cons]
  have hproperties : Groups Read.properties [] (none, none) (.blockMappingStart :: rest) :=
    groups_properties (by simp) (by simp)
  rw [hproperties.run_bind (by rfl), groups_peek.run_bind (by rfl), List.head?_cons]
  simp only [if_true]
  rw [groups_skip.run_bind (by rfl), groups_begin.run_bind (by rfl)]
  rfl

/-- Behind its opening mark a document is its root, and nothing but marks of its end may follow. -/
theorem run_document (fuel : Nat) (rest : List Token) :
    (Read.document fuel).run { tokens := .documentStart :: .blockMappingStart :: rest, handles := [] }
      = (do
          let root ← Read.node true false fuel
          if !((← get).tokens.dropWhile (· == .documentEnd)).isEmpty then throw .furtherDocument
          return root : Read Tree).run
        { tokens := .blockMappingStart :: rest, handles := [("!", "!"), ("!!", "tag:yaml.org,2002:")] } :=
  rfl

/-- A document of a block mapping has the entry at its front that is read first. -/
theorem root_of_ofTokens {document : Document}
    (h : Document.ofTokens
      (.documentStart :: .blockMappingStart :: .key :: k.token :: .value :: s.token :: rest) = .ok document) :
    ∃ more, document.root = .mapping none ((k.tree, s.tree) :: more) := by
  rw [Document.ofTokens] at h
  obtain ⟨⟨root, r₁⟩, hrun, h⟩ := bind_eq_ok_iff.1 h
  obtain rfl := Except.ok.inj h
  obtain ⟨fuel, hfuel⟩ : ∃ fuel, 2 * (Token.documentStart :: .blockMappingStart :: .key :: k.token :: .value ::
      s.token :: rest).length + 4 = fuel + 4 := ⟨_, rfl⟩
  rw [hfuel, run_document, StateT.run_bind] at hrun
  obtain ⟨⟨tree, r₂⟩, hnode, hrun⟩ := bind_eq_ok_iff.1 hrun
  rw [run_mapping (by rfl), StateT.run_bind] at hnode
  obtain ⟨⟨entries, r₃⟩, hentries, hnode⟩ := bind_eq_ok_iff.1 hnode
  obtain ⟨more, rfl⟩ := head_of_blockEntries (by rfl) hentries
  obtain ⟨rfl, -⟩ := Prod.mk.inj (Except.ok.inj hnode)
  refine ⟨more, ?_⟩
  dsimp only at hrun
  rw [StateT.run_bind] at hrun
  obtain ⟨⟨r₄, r₅⟩, -, hrun⟩ := bind_eq_ok_iff.1 hrun
  dsimp only at hrun
  split at hrun
  · cases hrun
  · exact (Prod.mk.inj (Except.ok.inj hrun)).1.symm

end Run

end Outline

/-! ## The value of the first entry -/

section Decoding

variable {document : Document} {followed followed' : Nat}

/-- Entries are added behind those that were read before. -/
theorem prefix_distinctEntries {decode : Tree → Decode Value} : ∀ {entries : List (Tree × Tree)}
    {done result : List (Value × Value)} {followed followed' : Nat},
    ((Decode.distinctEntries decode done entries).run document).run followed = .ok (result, followed') →
    done.reverse <+: result := by
  intro entries
  induction entries with
  | nil =>
    intro done result followed followed' h
    obtain ⟨rfl, -⟩ := Prod.mk.inj (Except.ok.inj h)
    exact List.prefix_rfl
  | cons entry entries ih =>
    intro done result followed followed' h
    rw [Decode.distinctEntries, ReaderT.run_bind, StateT.run_bind] at h
    obtain ⟨⟨key, followed₁⟩, -, h⟩ := bind_eq_ok_iff.1 h
    dsimp only at h
    split at h
    · cases h
    rw [ReaderT.run_bind, StateT.run_bind] at h
    obtain ⟨⟨value, followed₂⟩, -, h⟩ := bind_eq_ok_iff.1 h
    have hprefix := ih h
    rw [List.reverse_cons] at hprefix
    exact (List.prefix_append _ _).trans hprefix

/-- A scalar has a value if its spelling has. -/
theorem value_of_run {depth : Nat} {s : Spelling} {v : Value}
    (h : ((Decode.valueWithin depth s.tree).run document).run followed = .ok (v, followed')) :
    s.value = .ok v := by
  cases hs : s.value with
  | ok w =>
    rw [decodes_scalar hs depth document followed] at h
    obtain ⟨rfl, -⟩ := Prod.mk.inj (Except.ok.inj h)
    rfl
  | error p =>
    cases s with
    | quoted text => cases hs
    | plain text =>
      have hscalar : Decode.scalarValue none .plain (String.ofList text) = .error p := hs
      rw [Decode.valueWithin, Spelling.tree, ReaderT.run_bind, StateT.run_bind] at h
      obtain ⟨⟨t, followed₁⟩, ht, h⟩ := bind_eq_ok_iff.1 h
      obtain ⟨rfl, -⟩ := Prod.mk.inj (Except.ok.inj ht)
      simp only [hscalar] at h
      cases h

/-- The first entry of a value is the one that was read first. -/
theorem head_of_ofText {text : String} {k s : Spelling} {rest : List Token} {v : Value}
    (ht : Token.ofText text.toList
      = .ok (.documentStart :: .blockMappingStart :: .key :: k.token :: .value :: s.token :: rest))
    (h : Value.ofText text = .ok v) :
    ∃ key value more, k.value = .ok key ∧ s.value = .ok value ∧ v = .mapping ((key, value) :: more) := by
  rw [Value.ofText, Decode.ofText] at h
  obtain ⟨document, hdocument, h⟩ := bind_eq_ok_iff.1 h
  obtain ⟨⟨w, followed⟩, hvalue, h⟩ := bind_eq_ok_iff.1 h
  obtain rfl := Except.ok.inj h
  rw [Document.ofText, ht] at hdocument
  obtain ⟨more, hroot⟩ := Outline.root_of_ofTokens hdocument
  rw [Decode.value, hroot, show maxDepth = 127 + 1 from rfl, Decode.valueWithin, ReaderT.run_bind,
    StateT.run_bind] at hvalue
  obtain ⟨⟨tree, followed₁⟩, htree, hvalue⟩ := bind_eq_ok_iff.1 hvalue
  obtain ⟨rfl, rfl⟩ := Prod.mk.inj (Except.ok.inj htree)
  dsimp only at hvalue
  rw [ReaderT.run_bind, StateT.run_bind] at hvalue
  obtain ⟨⟨entries, followed₂⟩, hentries, hvalue⟩ := bind_eq_ok_iff.1 hvalue
  obtain ⟨rfl, -⟩ := Prod.mk.inj (Except.ok.inj hvalue)
  -- the first entry is decoded before the others, and these are added behind it
  rw [Decode.distinctEntries, ReaderT.run_bind, StateT.run_bind] at hentries
  obtain ⟨⟨key, followed₃⟩, hkey, hentries⟩ := bind_eq_ok_iff.1 hentries
  dsimp only at hentries
  rw [List.any_nil, if_neg (by simp), ReaderT.run_bind, StateT.run_bind] at hentries
  obtain ⟨⟨value, followed₄⟩, hfirst, hentries⟩ := bind_eq_ok_iff.1 hentries
  obtain ⟨others, rfl⟩ := prefix_distinctEntries hentries
  exact ⟨key, value, others, value_of_run hkey, value_of_run hfirst, rfl⟩

end Decoding

end RoleChart.Yaml
