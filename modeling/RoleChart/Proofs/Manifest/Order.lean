import RoleChart.Manifest.Decode

/-!
# The order of a section

A manifest keeps the roles, policies and accounts of its authorization section by name. However they are
written, they are read in strict order of their names, so none of them comes twice.

## Main statements

* `Manifest.sorted_ofText` — the authorization section of every manifest that is read is sorted
-/

namespace RoleChart

/-- Whether entries are in the strict order of their names. -/
def InOrder {α : Type} (entries : List (String × α)) : Prop := (entries.map Prod.fst).Pairwise (· < ·)

/-- Whether roles, policies and accounts are each in the strict order of their names. -/
structure Authorization.Sorted (a : Authorization) : Prop where
  roles : InOrder a.roles
  clusterRoles : InOrder a.clusterRoles
  podSecurityPolicies : InOrder a.podSecurityPolicies
  accounts : InOrder a.accounts

namespace InOrder

variable {α : Type} {entries : List (String × α)}

theorem nil : InOrder ([] : List (String × α)) := List.Pairwise.nil

/-- Names in strict order are different. -/
theorem nodup (h : InOrder entries) : (entries.map Prod.fst).Nodup := h.imp Std.ne_of_lt

end InOrder

namespace Yaml.Decode

variable {α β : Type}

/-! ## Entries put in order -/

/-- Inserting brings in one name at most. -/
theorem mem_names_insertSorted {name : String} {x : α} {entries : List (String × α)} {other : String}
    (h : other ∈ (insertSorted name x entries).map Prod.fst) :
    other = name ∨ other ∈ entries.map Prod.fst := by
  fun_induction insertSorted name x entries with
  | case1 => exact .inl (by simpa using h)
  | case2 other' y rest hlt => simpa using h
  | case3 y rest hlt => simpa using h
  | case4 other' y rest hlt hne ih =>
    rcases List.mem_cons.1 h with h | h
    · exact .inr (by simp [h])
    · exact (ih h).imp_right (List.mem_cons_of_mem _)

/-- An entry is inserted before the first greater name, or takes the place of an equal one. -/
theorem inOrder_insertSorted (name : String) (x : α) {entries : List (String × α)} (h : InOrder entries) :
    InOrder (insertSorted name x entries) := by
  fun_induction insertSorted name x entries with
  | case1 => exact List.pairwise_singleton _ _
  | case2 other y rest hlt =>
    refine List.pairwise_cons.2 ⟨fun later hlater => ?_, h⟩
    rcases List.mem_cons.1 hlater with rfl | hlater
    · exact hlt
    · exact Std.lt_trans hlt ((List.pairwise_cons.1 h).1 later hlater)
  | case3 y rest hlt => exact h
  | case4 other y rest hlt hne ih =>
    obtain ⟨hfirst, hrest⟩ := List.pairwise_cons.1 h
    refine List.pairwise_cons.2 ⟨fun later hlater => ?_, ih hrest⟩
    rcases mem_names_insertSorted hlater with rfl | hlater
    · exact Std.lt_of_le_of_ne (Std.not_lt.1 hlt) (Ne.symm hne)
    · exact hfirst later hlater

/-! ## Results of decoding -/

/-- Whether every result of a step of decoding has a property. -/
def Ensures (m : Decode α) (P : α → Prop) : Prop :=
  ∀ document followed a followed', (m.run document).run followed = .ok (a, followed') → P a

theorem ensures_pure {P : α → Prop} {a : α} (h : P a) : Ensures (pure a) P := by
  intro document followed a' followed' hrun
  cases hrun
  exact h

/-- What the first step ensures can be used for the second. -/
theorem Ensures.bind {P : α → Prop} {Q : β → Prop} {m : Decode α} {f : α → Decode β} (hm : Ensures m P)
    (hf : ∀ a, P a → Ensures (f a) Q) : Ensures (m >>= f) Q := by
  intro document followed b followed' hrun
  rw [ReaderT.run_bind, StateT.run_bind] at hrun
  cases hstep : (m.run document).run followed with
  | error e => rw [hstep] at hrun; cases hrun
  | ok step =>
    rw [hstep] at hrun
    exact hf step.1 (hm document followed step.1 step.2 hstep) document step.2 b followed' hrun

/-- What holds of every result of the second step holds of the results of both. -/
theorem ensures_bind {Q : β → Prop} {m : Decode α} {f : α → Decode β} (hf : ∀ a, Ensures (f a) Q) :
    Ensures (m >>= f) Q :=
  Ensures.bind (P := fun _ => True) (fun _ _ _ _ _ => trivial) fun a _ => hf a

/-- A field that can be missing has the property if its default does. -/
theorem ensures_orElse {P : α → Prop} {fs : Fields} {name : String} {default : α} {decode : Item → Decode α}
    (hdefault : P default) (hdecode : ∀ item, Ensures (decode item) P) :
    Ensures (orElse fs name default decode) P := by
  unfold orElse
  split
  · exact hdecode _
  · exact ensures_pure hdefault

/-- A mapping that is read entry by entry is in order, whatever its text is. -/
theorem ensures_sortedMap (decode : Item → Decode α) (item : Item) :
    Ensures (sortedMap decode item) InOrder := by
  -- the order does not rest on what was found: it holds of the entries put in so far
  have hfold (found : List (String × α)) (done : List (String × α)) (h : InOrder done) :
      InOrder (found.foldl (fun acc entry => insertSorted entry.1 entry.2 acc) done) := by
    induction found generalizing done with
    | nil => exact h
    | cons entry found ih => exact ih _ (inOrder_insertSorted entry.1 entry.2 h)
  exact ensures_bind fun _ => ensures_bind fun found => ensures_pure (hfold found [] .nil)

end Yaml.Decode

open Yaml.Decode

/-- The four mappings of the section are read in order. -/
theorem Authorization.ensures_decode (item : Item) :
    Ensures (Authorization.decode item) Authorization.Sorted := by
  refine ensures_bind fun fs => ?_
  refine (ensures_orElse .nil (ensures_sortedMap _)).bind fun roles hroles => ?_
  refine (ensures_orElse .nil (ensures_sortedMap _)).bind fun clusterRoles hclusterRoles => ?_
  refine (ensures_orElse .nil (ensures_sortedMap _)).bind fun policies hpolicies => ?_
  refine (ensures_orElse .nil (ensures_sortedMap _)).bind fun accounts haccounts => ?_
  exact ensures_pure ⟨hroles, hclusterRoles, hpolicies, haccounts⟩

theorem Manifest.ensures_decode (item : Item) :
    Ensures (Manifest.decode item) fun m => m.authorization.Sorted := by
  have hnone : Authorization.Sorted {} := ⟨.nil, .nil, .nil, .nil⟩
  refine ensures_bind fun fs => ensures_bind fun groups => ensures_bind fun declarations => ?_
  refine (ensures_orElse hnone fun section_ => ?_).bind fun authorization hauthorization =>
    ensures_bind fun opinions => ensures_pure hauthorization
  exact ensures_bind fun _ => ensures_orElse hnone Authorization.ensures_decode

/-- The authorization section of a manifest that is read is sorted. -/
theorem Manifest.sorted_ofText {text : String} {m : Manifest} (h : Manifest.ofText text = .ok m) :
    m.authorization.Sorted := by
  unfold Manifest.ofText Yaml.Decode.ofText at h
  cases hdocument : Yaml.Document.ofText text with
  | error e => rw [hdocument] at h; cases h
  | ok document =>
    rw [hdocument] at h
    cases hrun : ((Manifest.decode ⟨Yaml.maxDepth, document.root⟩).run document).run 0 with
    | error e => simp only [bind, Except.bind, hrun] at h; cases h
    | ok step =>
      simp only [bind, Except.bind, hrun] at h
      cases h
      exact Manifest.ensures_decode _ _ _ _ _ hrun

end RoleChart
