import RoleChart.Chart.Values
import RoleChart.Proofs.Building
import RoleChart.Proofs.Secret

/-!
# What the values of a chart hold

Which entries the document with the values has, once it could be built. Most of its mappings are made by
adding one entry for each of some things, and no two of these may have one name.

## Main statements

* `Adds.foldlM` — a mapping to which entries were added has exactly these, each under its name
* `values_ok` — the parts of the document with the values
* `sizing_ok` — the sizing values of each group are found under its name
-/

namespace RoleChart.Chart

open RoleChart.Document RoleChart.Built

/-! ## Adding entries -/

theorem addNamed_eq_ok_iff {done result : Mapping} {name : String} {node : Node} :
    done.addNamed name node = .ok result ↔
      name ∉ Mapping.names done ∧ result = done ++ [(name, node)] := by
  rw [Mapping.addNamed, Mapping.contains]
  cases hp : Mapping.position? done name with
  | none =>
    have hnew := (Mapping.position?_eq_none_iff done name).1 hp
    simp [hnew, eq_comm]
  | some i =>
    have hold : name ∈ Mapping.names done := by
      rw [← Decidable.not_not (p := name ∈ Mapping.names done), ← Mapping.position?_eq_none_iff, hp]
      simp
    simp [hold]

/-- A mapping with one entry for each of some things: no name comes twice, and the node under the name of
a thing is one that was made for it. -/
structure Adds {α : Type} (xs : List α) (name : α → String) (made : α → Node → Prop) (m : Mapping) :
    Prop where
  names_eq : Mapping.names m = xs.map name
  nodup : (Mapping.names m).Nodup
  found : ∀ x ∈ xs, ∃ node, made x node ∧ Mapping.lookup? m (name x) = some node

namespace Adds

variable {α : Type} {xs : List α} {name : α → String} {made : α → Node → Prop} {m : Mapping}

/-- A name that is found is that of one of the things. -/
theorem exists_of_lookup? (h : Adds xs name made m) {key : String}
    (hkey : (Mapping.lookup? m key).isSome = true) : ∃ x ∈ xs, name x = key := by
  have hmem : key ∈ Mapping.names m := by
    refine Decidable.byContradiction fun hc => ?_
    rw [(Mapping.lookup?_eq_none_iff m key).2 hc] at hkey
    cases hkey
  rw [h.names_eq] at hmem
  obtain ⟨x, hx, rfl⟩ := List.mem_map.1 hmem
  exact ⟨x, hx, rfl⟩

/-- One entry after the other is added, and each finds its name unused. -/
theorem foldlM {step : Mapping → α → Built Mapping}
    (hstep : ∀ done x result, step done x = .ok result →
      ∃ node, made x node ∧ done.addNamed (name x) node = .ok result)
    (h : xs.foldlM step [] = .ok m) : Adds xs name made m := by
  -- what is there already keeps its place, so the claim is about any beginning
  have hmore : ∀ (xs : List α) (start result : Mapping), (Mapping.names start).Nodup →
      xs.foldlM step start = .ok result →
      ∃ more, result = start ++ more ∧ Mapping.names more = xs.map name ∧
        (Mapping.names result).Nodup ∧ ∀ x ∈ xs, ∃ node, made x node ∧ (name x, node) ∈ more := by
    intro xs
    induction xs with
    | nil =>
      intro start result hstart h
      obtain rfl := pure_eq_ok_iff.1 h
      exact ⟨[], by simp, rfl, hstart, by simp⟩
    | cons x xs ih =>
      intro start result hstart h
      rw [List.foldlM_cons] at h
      obtain ⟨next, hnext, h⟩ := bind_eq_ok_iff.1 h
      obtain ⟨node, hmade, hadd⟩ := hstep start x next hnext
      obtain ⟨hnew, rfl⟩ := addNamed_eq_ok_iff.1 hadd
      have hnodup : (Mapping.names (start ++ [(name x, node)])).Nodup := by
        rw [Mapping.names, List.map_append, List.map_singleton, List.nodup_append]
        refine ⟨hstart, by simp, ?_⟩
        rintro a ha b hb rfl
        obtain rfl := List.mem_singleton.1 hb
        exact hnew ha
      obtain ⟨more, rfl, hnames, hresult, hfound⟩ := ih _ _ hnodup h
      refine ⟨(name x, node) :: more, by simp, ?_, hresult, ?_⟩
      · rw [Mapping.names, List.map_cons, List.map_cons]
        exact congrArg _ hnames
      · intro y hy
        rcases List.mem_cons.1 hy with rfl | hy
        · exact ⟨node, hmade, List.mem_cons_self⟩
        · obtain ⟨other, hother, hmem⟩ := hfound y hy
          exact ⟨other, hother, List.mem_cons_of_mem _ hmem⟩
  obtain ⟨more, rfl, hnames, hnodup, hfound⟩ := hmore xs [] m List.nodup_nil h
  refine ⟨by simpa using hnames, hnodup, fun x hx => ?_⟩
  obtain ⟨node, hmade, hmem⟩ := hfound x hx
  exact ⟨node, hmade, Mapping.lookup?_of_mem hnodup (by simpa using hmem)⟩

end Adds

variable {m : Manifest} {s : Settings} {g : Group}

/-! ## Variables and policies -/

/-- The entry of a variable. -/
def DefaultOf (v : Variable) (node : Node) : Prop := ∃ comment, node = (defaultNode v).withComment comment

theorem adds_defaults {declared : List Variable} {comment : Variable → String} {result : Mapping}
    (h : defaults declared comment = .ok result) : Adds declared (·.name) DefaultOf result :=
  Adds.foldlM (fun _ v _ hadd => ⟨_, ⟨comment v, rfl⟩, hadd⟩) h

/-- The plain variables, as the values of a chart have them. -/
def plainVariables (m : Manifest) : List Variable :=
  m.sortedVariables.filter fun v => !v.secret && !v.internal && !isSizingName v.name

theorem adds_environmentValues {env : Mapping} (h : environmentValues m = .ok env) :
    Adds (plainVariables m) (·.name) DefaultOf env :=
  adds_defaults h

theorem adds_secretValues {secrets : Mapping} (h : secretValues m = .ok secrets) :
    Adds (m.sortedVariables.filter Variable.isExternalSecret) (·.name) DefaultOf secrets :=
  adds_defaults h

theorem adds_policyValues {policies : Mapping} (h : policyValues m = .ok policies) :
    Adds m.authorization.podSecurityPolicies (varName ·.1) (fun _ node => node = .null) policies :=
  Adds.foldlM (fun _ _ _ hadd => ⟨_, rfl, hadd⟩) h

/-! ## Sizing -/

theorem adds_diskSizes {disks : Mapping} (h : diskSizes g = .ok disks) :
    Adds g.claimVolumes (varName ·.tag) (fun v node => node = .number v.size) disks :=
  Adds.foldlM (fun _ _ _ hadd => ⟨_, rfl, hadd⟩) h

theorem adds_portCounts {ports : Mapping} (h : portCounts g = .ok ports) :
    ∃ definitions, g.portDefinitions = .ok definitions ∧
      Adds (definitions.filter (·.countIsConfigurable)) (varName ·.name)
        (fun d node => node = .entries [("count", .number d.count)]) ports := by
  obtain ⟨definitions, hdefinitions, h⟩ := bind_eq_ok_iff.1 h
  exact ⟨definitions, hdefinitions, Adds.foldlM (fun _ _ _ hadd => ⟨_, rfl, hadd⟩) h⟩

/-- The sizing values of a group. -/
def SizingOf (g : Group) (node : Node) : Prop :=
  ∃ sizes comment, groupSizing g = .ok sizes ∧ node = (Node.entries sizes).withComment comment

theorem lookup?_sort {m : Mapping} (hnodup : (Mapping.names m).Nodup) (name : String) :
    Mapping.lookup? (Mapping.sort m) name = Mapping.lookup? m name := by
  have hperm : (Mapping.sort m).Perm m := List.mergeSort_perm _ _
  have hnodup' : (Mapping.names (Mapping.sort m)).Nodup := (hperm.map Prod.fst).nodup_iff.2 hnodup
  cases h : Mapping.lookup? m name with
  | none =>
    rw [Mapping.lookup?_eq_none_iff] at h ⊢
    exact fun hmem => h ((hperm.map Prod.fst).mem_iff.1 hmem)
  | some node =>
    refine Mapping.lookup?_of_mem hnodup' (hperm.mem_iff.2 ?_)
    exact Mapping.mem_of_lookup? h

theorem adds_sizing {unsorted : Mapping} (h : m.groups.foldlM addSizing [] = .ok unsorted) :
    Adds m.groups (·.varName) SizingOf unsorted := by
  refine Adds.foldlM (fun done g result hadd => ?_) h
  obtain ⟨sizes, hsizes, hadd⟩ := bind_eq_ok_iff.1 hadd
  exact ⟨_, ⟨sizes, _, hsizes, rfl⟩, hadd⟩

/-- The sizing values of each group are found under its name. -/
theorem sizing_ok {sizes : Mapping} (h : sizing m = .ok sizes) :
    ∀ g ∈ m.groups, ∃ node, SizingOf g node ∧ Mapping.lookup? sizes g.varName = some node := by
  obtain ⟨unsorted, hfold, rfl⟩ := map_eq_ok_iff.1 h
  have hadds := adds_sizing hfold
  intro g hg
  obtain ⟨node, hnode, hfound⟩ := hadds.found g hg
  exact ⟨node, hnode, (lookup?_sort hadds.nodup _).trans hfound⟩

/-- What is found among the sizing values is that of a group. -/
theorem exists_of_lookup?_sizing {sizes : Mapping} (h : sizing m = .ok sizes) {name : String} {node : Node}
    (hfound : Mapping.lookup? sizes name = some node) : ∃ g ∈ m.groups, g.varName = name ∧ SizingOf g node := by
  obtain ⟨unsorted, hfold, rfl⟩ := map_eq_ok_iff.1 h
  have hadds := adds_sizing hfold
  rw [lookup?_sort hadds.nodup] at hfound
  obtain ⟨g, hg, rfl⟩ := hadds.exists_of_lookup? (Option.isSome_of_eq_some hfound)
  obtain ⟨node', hnode, hfound'⟩ := hadds.found g hg
  obtain rfl := Option.some.inj (hfound'.symm.trans hfound)
  exact ⟨g, hg, rfl, hnode⟩

/-- An entry that is left out where it would be empty is not the one of another name. -/
theorem lookup?_unless {p : Prop} [Decidable p] {other name : String} (node : Node) (h : other ≠ name) :
    Mapping.lookup? (if p then [] else [(other, node)]) name = none := by
  split
  · rfl
  · rw [Mapping.lookup?_cons, if_neg h, Mapping.lookup?_nil]

/-- Only the sizing values of services have a number of replicas. -/
theorem lookup?_count {sizes : Mapping} (h : groupSizing g = .ok sizes) :
    Mapping.lookup? sizes "count" = if g.isManaged then
      some ((Node.number g.run.scaling.min).withComment (countComment g)) else none := by
  obtain ⟨disks, -, h⟩ := bind_eq_ok_iff.1 h
  obtain ⟨ports, -, h⟩ := bind_eq_ok_iff.1 h
  rw [← pure_eq_ok_iff.1 h]
  simp only [Mapping.lookup?_append, lookup?_unless _ (by decide : "disk_sizes" ≠ "count"),
    lookup?_unless _ (by decide : "ports" ≠ "count")]
  cases g.isManaged <;> simp

/-! ## The document -/

/-- The parts of the document with the values. -/
theorem values_ok {v : Node} (h : values m s = .ok v) :
    ∃ environment cluster secrets sizes, environmentValues m = .ok environment ∧
      clusterValues m s = .ok cluster ∧ secretValues m = .ok secrets ∧ sizing m = .ok sizes ∧
      v = .entries [
        ("bosh", .entries [("instance_groups", .items [])]),
        ("config", .entries (configuration s)),
        ("env", .entries environment),
        ("kube", .entries cluster),
        ("secrets", .entries secrets),
        ("services", .entries [("loadbalanced",
          (Node.flag false).withComment "Expose public services through load balancers.")]),
        ("sizing", .entries sizes)] := by
  obtain ⟨environment, henvironment, h⟩ := bind_eq_ok_iff.1 h
  obtain ⟨cluster, hcluster, h⟩ := bind_eq_ok_iff.1 h
  obtain ⟨secrets, hsecrets, h⟩ := bind_eq_ok_iff.1 h
  obtain ⟨sizes, hsizes, h⟩ := bind_eq_ok_iff.1 h
  exact ⟨environment, cluster, secrets, sizes, henvironment, hcluster, hsecrets, hsizes,
    (pure_eq_ok_iff.1 h).symm⟩

end RoleChart.Chart
