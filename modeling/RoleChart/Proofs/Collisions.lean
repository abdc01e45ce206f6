import RoleChart.Proofs.Chart.Shape
import RoleChart.Proofs.Distinct
import RoleChart.Proofs.Listing
import RoleChart.Proofs.Service
import RoleChart.Proofs.Workload.Bare

/-!
# When names of a manifest collide

Some mappings have an entry for each of many things of the manifest. Where two of these have one name, or
different names that become one, the build ends without a result. It does so nowhere else.

## Main statements

* `Built.CollidesUnless.foldlM` — entries that are added one after another collide unless their names differ
* `outputFiles_collide_iff` — a build collides exactly if names of the manifest meet in one mapping
-/

namespace RoleChart

open RoleChart.Document RoleChart.Built

/-! ## Builds that may collide -/

namespace Built

variable {α β : Type} {p p' q : Prop} {P : α → Prop} {Q : β → Prop}

/-- A build that has a result with some property under a condition, and ends in a collision without it. -/
structure CollidesUnless (p : Prop) (P : α → Prop) (x : Built α) : Prop where
  ok : p → ∃ a, x = .ok a ∧ P a
  collision : ¬ p → ∃ name, x = .error (.collision name)

namespace CollidesUnless

/-- A result needs no condition. -/
theorem of_ok {a : α} (h : P a) : CollidesUnless True P (.ok a) :=
  ⟨fun _ => ⟨a, rfl, h⟩, fun h => absurd trivial h⟩

theorem pure (a : α) : CollidesUnless True (fun _ => True) (Pure.pure a) := of_ok trivial

/-- The condition can be said in other words. -/
theorem congr {x : Built α} (h : CollidesUnless p P x) (hp : p ↔ p') : CollidesUnless p' P x :=
  ⟨fun h' => h.ok (hp.2 h'), fun h' => h.collision (mt hp.1 h')⟩

/-- Two builds one after another have a result under both conditions; without the first the second is not
reached. -/
theorem bind {x : Built α} {f : α → Built β} (h : CollidesUnless p P x)
    (hf : p → ∀ a, P a → CollidesUnless q Q (f a)) : CollidesUnless (p ∧ q) Q (x >>= f) where
  ok := by
    rintro ⟨hp, hq⟩
    obtain ⟨a, rfl, ha⟩ := h.ok hp
    exact (hf hp a ha).ok hq
  collision hnot := by
    by_cases hp : p
    · obtain ⟨a, rfl, ha⟩ := h.ok hp
      exact (hf hp a ha).collision fun hq => hnot ⟨hp, hq⟩
    · obtain ⟨name, rfl⟩ := h.collision hp
      exact ⟨name, rfl⟩

/-- What is made of a result does not collide. -/
theorem map {x : Built α} {f : α → β} (h : CollidesUnless p P x) (hf : ∀ a, P a → Q (f a)) :
    CollidesUnless p Q (x.map f) where
  ok hp := by
    obtain ⟨a, rfl, ha⟩ := h.ok hp
    exact ⟨f a, rfl, hf a ha⟩
  collision hp := by
    obtain ⟨name, rfl⟩ := h.collision hp
    exact ⟨name, rfl⟩

/-- What collides only without the condition collides exactly without it. -/
theorem collision_iff {x : Built α} (h : CollidesUnless p P x) :
    (∃ name, x = .error (.collision name)) ↔ ¬ p := by
  refine ⟨?_, h.collision⟩
  rintro ⟨name, hname⟩ hp
  obtain ⟨a, ha, -⟩ := h.ok hp
  exact nomatch hname.symm.trans ha

/-- One entry collides with those that are there already. -/
theorem addNamed (done : Mapping) (name : String) (node : Node) :
    CollidesUnless (name ∉ Mapping.names done) (fun next => Mapping.names next = Mapping.names done ++ [name])
      (done.addNamed name node) where
  ok h := ⟨done ++ [(name, node)], Chart.addNamed_eq_ok_iff.2 ⟨h, rfl⟩, by simp [Mapping.names]⟩
  collision h := by
    refine ⟨name, ?_⟩
    have hcontains : Mapping.contains done name = true := by
      rw [Mapping.contains, Option.isSome_iff_ne_none, ne_eq, Mapping.position?_eq_none_iff]
      exact h
    rw [Mapping.addNamed, hcontains]
    rfl

/-- Entries added behind those of a mapping collide unless all names differ, the ones that were there among
them. The names so far are what the induction carries. -/
theorem foldlM_from {ι : Type} {step : Mapping → ι → Built Mapping} {made : ι → Prop} {keeps : ι → Bool}
    {name : ι → String} {xs : List ι}
    (hstep : ∀ done, ∀ x ∈ xs, CollidesUnless (made x ∧ (keeps x = true → name x ∉ Mapping.names done))
      (fun next => Mapping.names next = Mapping.names done ++ if keeps x then [name x] else [])
      (step done x))
    {start : Mapping} (hstart : (Mapping.names start).Nodup) :
    CollidesUnless ((∀ x ∈ xs, made x) ∧ (Mapping.names start ++ (xs.filter keeps).map name).Nodup)
      (fun _ => True) (xs.foldlM step start) := by
  induction xs generalizing start with
  | nil =>
    refine (of_ok trivial).congr ?_
    simpa using hstart
  | cons x xs ih =>
    rw [List.foldlM_cons]
    have hnext (next : Mapping)
        (h : Mapping.names next = Mapping.names start ++ if keeps x then [name x] else []) :
        Mapping.names next ++ (xs.filter keeps).map name
          = Mapping.names start ++ ((x :: xs).filter keeps).map name := by
      rw [h, List.filter_cons]
      split <;> simp
    refine ((hstep start x List.mem_cons_self).bind
      (q := (∀ y ∈ xs, made y) ∧ (Mapping.names start ++ ((x :: xs).filter keeps).map name).Nodup)
      fun hx next hnames => ?_).congr ?_
    · have hnodup : (Mapping.names next).Nodup := by
        rw [hnames]
        split
        · next hkept =>
          refine List.nodup_append.2 ⟨hstart, by simp, fun _ hold _ hnew heq => hx.2 hkept ?_⟩
          exact List.mem_singleton.1 hnew ▸ heq ▸ hold
        · simpa using hstart
      have hrest := ih (fun done y hy => hstep done y (List.mem_cons_of_mem x hy)) hnodup
      rwa [hnext next hnames] at hrest
    · -- a name that is there already comes twice in the whole list
      have hnew (h : (Mapping.names start ++ ((x :: xs).filter keeps).map name).Nodup) :
          keeps x = true → name x ∉ Mapping.names start := by
        intro hkept hold
        rw [List.filter_cons_of_pos hkept, List.map_cons, List.nodup_append] at h
        exact h.2.2 _ hold _ List.mem_cons_self rfl
      rw [List.forall_mem_cons]
      exact ⟨fun h => ⟨⟨h.1.1, h.2.1⟩, h.2.2⟩, fun h => ⟨⟨h.1.1, hnew h.2⟩, h.1.2, h.2⟩⟩

/-- Entries that are added one after another, some things being left out, collide unless the names of all that
are kept differ and none of their nodes collides by itself. -/
theorem foldlM {ι : Type} {step : Mapping → ι → Built Mapping} (made : ι → Prop) (keeps : ι → Bool)
    (name : ι → String) {xs : List ι}
    (hstep : ∀ done, ∀ x ∈ xs, CollidesUnless (made x ∧ (keeps x = true → name x ∉ Mapping.names done))
      (fun next => Mapping.names next = Mapping.names done ++ if keeps x then [name x] else [])
      (step done x)) :
    CollidesUnless ((∀ x ∈ xs, made x) ∧ ((xs.filter keeps).map name).Nodup) (fun _ => True)
      (xs.foldlM step []) := by
  have hstart : (Mapping.names []).Nodup := List.nodup_nil
  exact foldlM_from hstep hstart

/-- Entries for all of some things collide unless the names of the things differ. -/
theorem foldlM_addNamed {ι : Type} (xs : List ι) (name : ι → String) (node : ι → Node) :
    CollidesUnless (xs.map name).Nodup (fun _ => True)
      (xs.foldlM (fun done x => Mapping.addNamed done (name x) (node x)) []) := by
  refine (foldlM (fun _ => True) (fun _ => true) name fun done x _ => ?_).congr ?_
  · exact (addNamed done (name x) (node x)).congr (by simp)
  · simp

end CollidesUnless

end Built

/-! ## Names that meet -/

namespace Variable

/-- Whether a build writes the value of a variable into its object with secrets: it is secret and not
internal, and a chart does not leave it to the generator. -/
def isKept (v : Variable) (s : Settings) : Bool :=
  v.isExternalSecret && !(s.chart && v.isGenerated && s.secretsGenerator)

/-- A variable has nothing to write just where a chart leaves it to the generator. -/
theorem isSome_secretNode?_eq (v : Variable) (s : Settings) :
    (v.secretNode? s).isSome = !(s.chart && v.isGenerated && s.secretsGenerator) := by
  unfold secretNode?
  cases s.chart with
  | false => rfl
  | true =>
    cases hgenerated : v.isGenerated && s.secretsGenerator with
    | true => simp [hgenerated]
    | false =>
      simp only [Bool.not_true, Bool.false_eq_true, if_false, Bool.true_and, hgenerated, Bool.not_false]
      split <;> rfl

/-- Whether the values of a chart have a plain variable: it is neither secret nor internal, and does not carry
the number of replicas of a group. -/
def isPlainValue (v : Variable) : Bool := !v.secret && !v.internal && !Chart.isSizingName v.name

end Variable

/-- Whether the names that meet in one mapping of the values of a chart differ. -/
structure Manifest.ValuesApart (m : Manifest) : Prop where
  plain : ((m.declarations.filter Variable.isPlainValue).map (·.name)).Nodup
  secrets : ((m.declarations.filter Variable.isExternalSecret).map (·.name)).Nodup
  groups : (m.groups.map (varName ·.name)).Nodup
  policies : (m.authorization.podSecurityPolicies.map (varName ·.1)).Nodup
  claims : ∀ g ∈ m.groups, (g.claimVolumes.map (varName ·.tag)).Nodup
  ports : ∀ g ∈ m.groups, ((g.run.ports.filter (·.countIsConfigurable)).map (varName ·.name)).Nodup

/-- Whether the names of a manifest that meet in one mapping of a build differ: the keys of secrets, and in a
chart the names in its values. -/
structure Manifest.Apart (m : Manifest) (s : Settings) : Prop where
  keys : ((m.declarations.filter (·.isKept s)).map fun v => secretKey v.name).Nodup
  values : s.chart = true → m.ValuesApart

variable {m : Manifest} {s : Settings} {g : Group}

/-- Sorting loses no variable and doubles none, so names differ in the sorted list if they do in the
declarations. -/
theorem perm_sortedVariables (m : Manifest) : m.sortedVariables.Perm m.declarations := List.mergeSort_perm _ _

/-- The object with secrets is built unless two of its keys are one. -/
theorem collidesUnless_secret :
    CollidesUnless ((m.declarations.filter (·.isKept s)).map fun v => secretKey v.name).Nodup (fun _ => True)
      (secret m.sortedVariables s) := by
  have hdata : CollidesUnless
      (((m.sortedVariables.filter (·.isExternalSecret)).filter fun v => (v.secretNode? s).isSome).map
        fun v => secretKey v.name).Nodup (fun _ => True) (secretData m.sortedVariables s) := by
    refine (CollidesUnless.foldlM (fun _ => True) (fun v => (v.secretNode? s).isSome)
      (fun v => secretKey v.name) fun done v _ => ?_).congr (by simp)
    cases v.secretNode? s with
    | none => exact (CollidesUnless.of_ok (by simp)).congr (by simp)
    | some node => exact (CollidesUnless.addNamed done _ _).congr (by simp)
  have hkept : ((m.sortedVariables.filter (·.isExternalSecret)).filter fun v => (v.secretNode? s).isSome)
      = m.sortedVariables.filter (·.isKept s) := by
    rw [List.filter_filter]
    refine List.filter_congr fun v _ => ?_
    rw [Variable.isSome_secretNode?_eq, Variable.isKept, Bool.and_comm]
  rw [hkept] at hdata
  refine (hdata.bind (q := True) fun _ data _ => .pure _).congr ?_
  rw [and_true]
  exact (((perm_sortedVariables m).filter _).map _).nodup_iff

/-! ## Values -/

namespace Chart

theorem collidesUnless_defaults (declared : List Variable) (comment : Variable → String) :
    CollidesUnless (declared.map (·.name)).Nodup (fun _ => True) (defaults declared comment) :=
  .foldlM_addNamed declared (·.name) _

theorem collidesUnless_environmentValues :
    CollidesUnless ((m.declarations.filter Variable.isPlainValue).map (·.name)).Nodup (fun _ => True)
      (environmentValues m) :=
  (collidesUnless_defaults _ _).congr (((perm_sortedVariables m).filter _).map _).nodup_iff

theorem collidesUnless_secretValues :
    CollidesUnless ((m.declarations.filter Variable.isExternalSecret).map (·.name)).Nodup (fun _ => True)
      (secretValues m) :=
  (collidesUnless_defaults _ _).congr (((perm_sortedVariables m).filter _).map _).nodup_iff

/-- The values of a cluster collide only in its policies. -/
theorem collidesUnless_clusterValues :
    CollidesUnless (m.authorization.podSecurityPolicies.map (varName ·.1)).Nodup (fun _ => True)
      (clusterValues m s) := by
  have hpolicies : CollidesUnless (m.authorization.podSecurityPolicies.map (varName ·.1)).Nodup
      (fun _ => True) (policyValues m) := by
    unfold policyValues
    exact .foldlM_addNamed m.authorization.podSecurityPolicies (varName ·.1) fun _ => Node.null
  exact (hpolicies.bind (q := True) fun _ policies _ => .pure _).congr (by simp)

/-- The definitions of ports have the names of the ports, and can be counted where these can. -/
theorem names_portDefinitions {definitions : List Port.Definition} (h : g.portDefinitions = .ok definitions) :
    (definitions.filter (·.countIsConfigurable)).map (varName ·.name)
      = (g.run.ports.filter (·.countIsConfigurable)).map (varName ·.name) := by
  have hpairs : definitions.map (fun d => (d.countIsConfigurable, d.name))
      = g.run.ports.map fun port => (port.countIsConfigurable, port.name) := by
    refine map_eq_of_mapM h fun port d hd => ?_
    obtain ⟨-, -, hname, hcounted⟩ := Service.ofExposed_ok (s := { chart := true }) hd
    simpa [Pod.isCounted, Service.isCounted, hname] using hcounted
  have hkept := congrArg (fun pairs => (pairs.filter Prod.fst).map fun pair => varName pair.2) hpairs
  simpa [List.filter_map, Function.comp_def] using hkept

/-- The sizing values of a group collide in its claims or in its counted ports. -/
theorem collidesUnless_groupSizing (h : ∃ definitions, g.portDefinitions = .ok definitions) :
    CollidesUnless ((g.claimVolumes.map (varName ·.tag)).Nodup ∧
        ((g.run.ports.filter (·.countIsConfigurable)).map (varName ·.name)).Nodup) (fun _ => True)
      (groupSizing g) := by
  obtain ⟨definitions, hdefinitions⟩ := h
  have hdisks : CollidesUnless (g.claimVolumes.map (varName ·.tag)).Nodup (fun _ => True) (diskSizes g) := by
    unfold diskSizes
    exact .foldlM_addNamed g.claimVolumes (varName ·.tag) fun v => .number v.size
  have hports : CollidesUnless ((g.run.ports.filter (·.countIsConfigurable)).map (varName ·.name)).Nodup
      (fun _ => True) (portCounts g) := by
    rw [← names_portDefinitions hdefinitions]
    unfold portCounts
    rw [hdefinitions]
    exact .foldlM_addNamed (definitions.filter (·.countIsConfigurable)) (varName ·.name)
      fun d => .entries [("count", .number d.count)]
  refine hdisks.bind fun _ disks _ => (hports.bind (q := True) fun _ ports _ => ?_).congr (by simp)
  exact .pure _

/-- The sizing values collide inside a group or in the names of the groups. -/
theorem collidesUnless_sizing (h : ∀ g ∈ m.groups, ∃ definitions, g.portDefinitions = .ok definitions) :
    CollidesUnless ((∀ g ∈ m.groups, (g.claimVolumes.map (varName ·.tag)).Nodup ∧
        ((g.run.ports.filter (·.countIsConfigurable)).map (varName ·.name)).Nodup) ∧
        (m.groups.map (varName ·.name)).Nodup) (fun _ => True) (sizing m) := by
  refine CollidesUnless.map (P := fun _ => True) ?_ fun _ _ => trivial
  refine (CollidesUnless.foldlM (fun g => (g.claimVolumes.map (varName ·.tag)).Nodup ∧
      ((g.run.ports.filter (·.countIsConfigurable)).map (varName ·.name)).Nodup)
    (fun _ => true) (fun g => varName g.name) fun done g hg => ?_).congr (by simp)
  refine ((collidesUnless_groupSizing (h g hg)).bind (q := varName g.name ∉ Mapping.names done)
    fun _ sizes _ => ?_).congr (by simp)
  exact CollidesUnless.addNamed done g.varName _

/-- The values of a chart collide unless all names that meet in one of their mappings differ. -/
theorem collidesUnless_values (h : ∀ g ∈ m.groups, ∃ definitions, g.portDefinitions = .ok definitions) :
    CollidesUnless m.ValuesApart (fun _ => True) (values m s) := by
  refine (collidesUnless_environmentValues.bind fun _ environment _ =>
    collidesUnless_clusterValues.bind fun _ cluster _ =>
    collidesUnless_secretValues.bind fun _ secrets _ =>
    (collidesUnless_sizing h).bind (q := True) fun _ sizes _ => .pure _).congr ?_
  constructor
  · rintro ⟨hplain, hpolicies, hsecrets, ⟨hgroup, hgroups⟩, -⟩
    exact ⟨hplain, hsecrets, hgroups, hpolicies, fun g hg => (hgroup g hg).1, fun g hg => (hgroup g hg).2⟩
  · rintro ⟨hplain, hsecrets, hgroups, hpolicies, hclaims, hports⟩
    exact ⟨hplain, hpolicies, hsecrets, ⟨fun g hg => ⟨hclaims g hg, hports g hg⟩, hgroups⟩, trivial⟩

end Chart

/-! ## Whole builds -/

/-- A build that fails, if it does, with a fault that is not reported. -/
def Built.Unreported {α : Type} (x : Built α) : Prop := ∀ e, x = .error e → ¬ e.IsReported

/-- A build that could only fail with a reported fault, and has none, has a result. -/
theorem Built.Reported.exists_ok {α : Type} {x : Built α} (h : Reported x) (hx : x.Unreported) :
    ∃ a, x = .ok a := by
  cases h with
  | ok h => exact ⟨_, rfl⟩
  | error he => exact absurd he (hx _ rfl)

theorem exists_resources (h : (g.resources m s).Unreported) : ∃ found, g.resources m s = .ok found := by
  have halike := Group.alike_resources (m := m) (g := g) (s := s) rfl
  generalize g.resources m s = found at halike h ⊢
  cases halike with
  | ok _ => exact ⟨_, rfl⟩
  | error he => exact absurd he (h _ rfl)

/-- Files of groups only fail where the documents of a group do. -/
theorem exists_groupFiles (h : ∀ g ∈ m.groups, ∃ found, g.resources m s = .ok found) :
    ∃ files, groupFiles m s = .ok files := by
  have hfiles : ∀ g ∈ m.groups, ∃ file, (do
      return (← g.resources m s).map fun r => ResourceFile.mk r.workload.directory g.name r.documents)
        = Except.ok file := by
    intro g hg
    obtain ⟨r, hr⟩ := h g hg
    exact ⟨_, bind_eq_ok_iff.2 ⟨r, hr, rfl⟩⟩
  obtain ⟨found, hfound⟩ := exists_mapM hfiles
  exact ⟨found.filterMap id, bind_eq_ok_iff.2 ⟨found, hfound, rfl⟩⟩

/-- Among the files with resources only the object with secrets can collide. -/
theorem collidesUnless_resourceFiles (h : ∀ g ∈ m.groups, ∃ found, g.resources m s = .ok found) :
    CollidesUnless ((m.declarations.filter (·.isKept s)).map fun v => secretKey v.name).Nodup (fun _ => True)
      (resourceFiles m s) := by
  obtain ⟨files, hfiles⟩ := exists_groupFiles h
  unfold resourceFiles
  rw [hfiles]
  exact (collidesUnless_secret.bind (q := True) fun _ object _ => .pure _).congr (by simp)

/-- A build collides unless the names that meet are apart, if no group has a fault of its own. -/
theorem collidesUnless_outputFiles (hports : ∀ g ∈ m.groups, ∃ definitions, g.portDefinitions = .ok definitions)
    (hresources : ∀ g ∈ m.groups, ∃ found, g.resources m s = .ok found) :
    CollidesUnless (m.Apart s) (fun _ => True) (outputFiles m s) := by
  unfold outputFiles
  cases hs : s.chart with
  | false =>
    refine ((collidesUnless_resourceFiles hresources).bind (q := True) fun _ files _ => .pure _).congr ?_
    exact ⟨fun h => ⟨h.1, fun hchart => nomatch hs.symm.trans hchart⟩, fun h => ⟨h.keys, trivial⟩⟩
  | true =>
    refine ((collidesUnless_resourceFiles hresources).bind fun _ files _ =>
      (Chart.collidesUnless_values hports).bind (q := True) fun _ v _ => .pure _).congr ?_
    exact ⟨fun h => ⟨h.1, fun _ => h.2.1⟩, fun h => ⟨h.keys, h.values hs, trivial⟩⟩

/-- A manifest of bare services makes a build as soon as its names are apart. -/
theorem exists_outputFiles_of_bare (h : ∀ g ∈ m.groups, g.Bare) (hopinions : ∃ text, s.opinions.text = .ok text)
    (hapart : m.Apart s) : ∃ out, outputFiles m s = .ok out := by
  have hresources : ∀ g ∈ m.groups, ∃ found, g.resources m s = .ok found := by
    intro g hg
    obtain ⟨r, hr, -⟩ := (h g hg).exists_resources m hopinions
    exact ⟨some r, hr⟩
  obtain ⟨out, hout, -⟩ :=
    (collidesUnless_outputFiles (fun g hg => ⟨[], (h g hg).portDefinitions⟩) hresources).ok hapart
  exact ⟨out, hout⟩

/-- Where no group has a fault that is reported, a build ends in a collision exactly if names of the manifest
meet in one mapping; otherwise it makes all of its files. No other name is in a mapping twice, in any document
and in the values. -/
theorem outputFiles_collide_iff (hports : ∀ g ∈ m.groups, g.portDefinitions.Unreported)
    (hresources : ∀ g ∈ m.groups, (g.resources m s).Unreported) :
    ((∃ name, outputFiles m s = .error (.collision name)) ↔ ¬ m.Apart s) ∧
      (m.Apart s → ∃ out, outputFiles m s = .ok out ∧ out.map (·.path) = outputPaths m s) ∧
      (∀ files, resourceFiles m s = .ok files → ∀ file ∈ files, ∀ document ∈ file.documents,
        document.Distinct) ∧
      ∀ v, Chart.values m s = .ok v → v.Distinct := by
  have hcollides : CollidesUnless (m.Apart s) (fun _ => True) (outputFiles m s) :=
    collidesUnless_outputFiles
      (fun g hg => (Group.reported_portDefinitions g).exists_ok (hports g hg))
      (fun g hg => exists_resources (hresources g hg))
  refine ⟨hcollides.collision_iff, fun hapart => ?_, fun files => distinct_resourceFiles,
    fun v => Chart.distinct_values⟩
  obtain ⟨out, hout, -⟩ := hcollides.ok hapart
  exact ⟨out, hout, paths_outputFiles hout⟩

/-- Two services whose names become one in the values of a chart. -/
def dashedManifest : Manifest := { groups := [{ name := "a-b" }, { name := "a_b" }] }

/-- Both services of this manifest are bare, so nothing else can go wrong. -/
theorem bare_of_mem_dashed : ∀ g ∈ dashedManifest.groups, g.Bare := by
  rw [dashedManifest, List.forall_mem_cons, List.forall_mem_singleton]
  exact ⟨Group.bare_named _, Group.bare_named _⟩

theorem unreported_dashed (chart : Bool) : ∀ g ∈ dashedManifest.groups, g.portDefinitions.Unreported ∧
    (g.resources dashedManifest { chart := chart }).Unreported := by
  intro g hg
  have hbare := bare_of_mem_dashed g hg
  obtain ⟨r, hr, -⟩ := hbare.exists_resources (s := { chart := chart }) dashedManifest ⟨_, rfl⟩
  refine ⟨fun e he => ?_, fun e he => ?_⟩
  · exact nomatch hbare.portDefinitions.symm.trans he
  · exact nomatch hr.symm.trans he

/-- Outside of a chart their names do not meet. -/
theorem apart_dashed : dashedManifest.Apart {} := ⟨by decide, nofun⟩

/-- In a chart both names are written with an underscore. -/
theorem not_apart_dashed : ¬ dashedManifest.Apart { chart := true } :=
  fun h => absurd (h.values rfl).groups (by decide)

theorem outputFiles_collide_dashed :
    (∀ g ∈ dashedManifest.groups, g.portDefinitions.Unreported ∧
      (g.resources dashedManifest { chart := true }).Unreported) ∧
      (∃ name, outputFiles dashedManifest { chart := true } = .error (.collision name)) ∧
      ∃ out, outputFiles dashedManifest {} = .ok out ∧ out.map (·.path) = ["deployments/a-b.yaml",
        "deployments/a_b.yaml", "secrets/secret.yaml", "secrets/registry-credentials.yaml"] := by
  have hchart := outputFiles_collide_iff (fun g hg => (unreported_dashed true g hg).1)
    (fun g hg => (unreported_dashed true g hg).2)
  have hplain := outputFiles_collide_iff (fun g hg => (unreported_dashed false g hg).1)
    (fun g hg => (unreported_dashed false g hg).2)
  obtain ⟨out, hout, hpaths⟩ := hplain.2.1 apart_dashed
  exact ⟨unreported_dashed true, hchart.1.2 not_apart_dashed, out, hout, hpaths.trans (by decide)⟩

end RoleChart
