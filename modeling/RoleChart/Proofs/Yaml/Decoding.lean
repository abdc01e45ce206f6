import RoleChart.Proofs.Yaml.Outline
import RoleChart.Yaml.Decode

/-!
# From trees to values

The value of a tree without aliases and tags is put together from the values of its parts.

## Main statements

* `decodes_sequence`, `decodes_mapping` — the value of a collection whose parts have values
* `ofText_of_tree` — the value of a text is that of the root of its document
-/

namespace RoleChart.Yaml

/-- A step of decoding gives this result on every document, and follows no alias. -/
def Decodes {α : Type} (m : Decode α) (a : α) : Prop :=
  ∀ document followed, (m.run document).run followed = .ok (a, followed)

theorem decodes_pure {α : Type} (a : α) : Decodes (pure a) a := fun _ _ => rfl

theorem Decodes.bind {α β : Type} {m : Decode α} {f : α → Decode β} {a : α} {b : β}
    (hm : Decodes m a) (hf : Decodes (f a) b) : Decodes (m >>= f) b := by
  intro document followed
  rw [ReaderT.run_bind, StateT.run_bind, hm document followed]
  exact hf document followed

theorem decodes_resolve {t : Tree} (h : ∀ slot, t ≠ .alias slot) : Decodes (Decode.resolve t) t := by
  unfold Decode.resolve
  split
  · next slot => exact absurd rfl (h slot)
  · exact decodes_pure _

/-! ## Scalars -/

/-- The value that a spelling stands for. -/
def Spelling.value : Spelling → Except Problem Value
  | .plain text => plainValue (String.ofList text)
  | .quoted text => .ok (.string (String.ofList text))

theorem decodes_scalar {s : Spelling} {v : Value} (h : s.value = .ok v) (depth : Nat) :
    Decodes (Decode.valueWithin depth s.tree) v := by
  rw [Decode.valueWithin]
  cases s with
  | plain text =>
    refine (decodes_resolve (by simp [Spelling.tree])).bind ?_
    have hs : Decode.scalarValue none .plain (String.ofList text) = .ok v := h
    intro document followed
    simp only [Spelling.tree, hs]
    rfl
  | quoted text =>
    obtain rfl : Value.string (String.ofList text) = v := Except.ok.inj h
    exact (decodes_resolve (by simp [Spelling.tree])).bind fun _ _ => rfl

/-- A node that is left out is null. -/
theorem decodes_empty (depth : Nat) : Decodes (Decode.valueWithin depth .empty) .null :=
  decodes_scalar (s := .plain []) rfl depth

/-! ## Collections -/

section Collections

variable {depth : Nat} {items : List Tree} {entries : List (Tree × Tree)}

theorem decodes_items_cons {item : Tree} {v : Value} {vs : List Value}
    (h : Decodes (Decode.valueWithin depth item) v)
    (hs : Decodes (items.mapM fun item => Decode.valueWithin depth item) vs) :
    Decodes ((item :: items).mapM fun item => Decode.valueWithin depth item) (v :: vs) := by
  rw [List.mapM_cons]
  exact h.bind (hs.bind (decodes_pure _))

theorem decodes_sequence {vs : List Value}
    (h : Decodes (items.mapM fun item => Decode.valueWithin depth item) vs) :
    Decodes (Decode.valueWithin (depth + 1) (.sequence none items)) (.sequence vs) := by
  rw [Decode.valueWithin]
  refine (decodes_resolve (by simp)).bind ?_
  exact h.bind (decodes_pure _)

/-- The keys that were read before are texts, and none of them comes again. -/
def Fresh (done : List (Value × Value)) (names : List String) : Prop :=
  ∀ entry ∈ done, ∃ name, entry.1 = .string name ∧ name ∉ names

theorem fresh_nil (names : List String) : Fresh [] names := nofun

theorem Fresh.tail {done : List (Value × Value)} {name : String} {names : List String}
    (h : Fresh done (name :: names)) : Fresh done names := by
  intro entry he
  obtain ⟨other, e, hne⟩ := h entry he
  exact ⟨other, e, fun hm => hne (List.mem_cons_of_mem name hm)⟩

theorem Fresh.cons {done : List (Value × Value)} {name : String} {names : List String} (v : Value)
    (hnew : name ∉ names) (h : Fresh done (name :: names)) : Fresh ((.string name, v) :: done) names :=
  List.forall_mem_cons.2 ⟨⟨name, rfl, hnew⟩, h.tail⟩

/-- A key that is a text differs from the keys before it if its text is new. -/
theorem Fresh.same_eq_false {done : List (Value × Value)} {name : String} {names : List String}
    (h : Fresh done (name :: names)) : ∀ entry ∈ done, entry.1.same (.string name) = false := by
  intro entry he
  obtain ⟨other, e, hne⟩ := h entry he
  have hother : other ≠ name := by
    rintro rfl
    exact hne List.mem_cons_self
  simp [e, Value.same, hother]

/-- An entry whose name is new is read in front of the entries behind it. -/
theorem decodes_entries_cons {decode : Tree → Decode Value} {key value : Tree} {name : String}
    {names : List String} {v : Value} {done result : List (Value × Value)}
    (hk : Decodes (decode key) (.string name)) (hdone : Fresh done (name :: names))
    (hv : Decodes (decode value) v)
    (hs : Decodes (Decode.distinctEntries decode ((.string name, v) :: done) entries) result) :
    Decodes (Decode.distinctEntries decode done ((key, value) :: entries)) result := by
  have hany : (done.any fun entry => entry.1.same (.string name)) = false := by
    simpa using hdone.same_eq_false
  rw [Decode.distinctEntries]
  refine hk.bind ?_
  simp only [hany, Bool.false_eq_true, if_false]
  exact hv.bind hs

theorem decodes_mapping {result : List (Value × Value)}
    (h : Decodes (Decode.distinctEntries (fun part => Decode.valueWithin depth part) [] entries)
      result) :
    Decodes (Decode.valueWithin (depth + 1) (.mapping none entries)) (.mapping result) := by
  rw [Decode.valueWithin]
  refine (decodes_resolve (by simp)).bind ?_
  exact h.bind (decodes_pure _)

end Collections

/-! ## Documents -/

/-- The value of a text is that of the root of its document. -/
theorem ofText_of_tree {s : String} {document : Document} {v : Value}
    (hs : Document.ofText s = .ok document)
    (hv : Decodes (Decode.valueWithin maxDepth document.root) v) : Value.ofText s = .ok v := by
  rw [Value.ofText, Decode.ofText, hs]
  simp only [bind, Except.bind, Decode.value, hv document 0]
  rfl

/-- A text with a character that no document holds is not read. -/
theorem ofText_of_not_allowed {s : List Char} {c : Char} (hc : c ∈ s) (h : isAllowed c = false) :
    Value.ofText (String.ofList s) = .error .character := by
  have hall : s.all isAllowed = false := List.all_eq_false.2 ⟨c, hc, by simp [h]⟩
  rw [Value.ofText, Decode.ofText, Document.ofText, String.toList_ofList, Token.ofText, hall]
  rfl

end RoleChart.Yaml
