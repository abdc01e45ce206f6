import RoleChart.Pod.Template
import RoleChart.Proofs.Alike

/-!
# Pods under different settings

Settings decide what is written into the pods of a group. Whether the pods can be built at all, and
what is wrong with the group if they cannot, is up to the manifest and its opinions.

## Main statements

* `alike_container` — a container is built under both settings or fails with the same fault
* `alike_podTemplate` — so is the template of pods
-/

namespace RoleChart

open RoleChart.Document RoleChart.Built

variable {m : Manifest} {g : Group} {s s' : Settings}

/-! ## Ports -/

namespace Port.Definition

/-- A range that cannot be read is a fault of the manifest. -/
theorem reported_range (port field value : String) : Reported (range port field value) := by
  unfold range
  split
  · exact .pure _
  · exact .error nofun

/-- Ranges that cannot be read or do not fit each other are faults of the manifest. -/
theorem reported_ofExposed (p : ExposedPort) : Reported (ofExposed p) := by
  unfold ofExposed
  refine (reported_range _ _ _).bind fun inside => ?_
  cases p.external with
  | none => exact .pure _
  | some spec =>
    refine (reported_range _ _ _).bind fun outside => ?_
    by_cases hw : outside.last - outside.first ≠ inside.last - inside.first
    · rw [if_pos hw]
      exact .error nofun
    · rw [if_neg hw]
      exact .pure _

/-- Nothing of the name of the definition can stand in the name of a port. -/
def Nameless (d : Definition) : Prop := Port.sanitize? d.name.toList = none

/-- A common beginning is missing just where nothing of the name can be kept. -/
theorem decided_namePrefix (d : Definition) :
    Decided d.Nameless (.portName d.name) (fun _ => True) d.namePrefix := by
  unfold Nameless namePrefix Port.rangePrefix?
  cases Port.sanitize? d.name.toList with
  | none => exact ⟨fun _ => rfl, fun h => absurd rfl h⟩
  | some base => exact ⟨nofun, fun _ => ⟨_, rfl, trivial⟩⟩

/-- The ports of a definition inside of a container fail by the name alone, and there is at least one. -/
theorem decided_containerPorts (d : Definition) :
    Decided d.Nameless (.portName d.name) (· ≠ []) d.containerPorts := by
  unfold Nameless containerPorts Port.named? Port.rangePrefix?
  by_cases hsingle : d.internal.first = d.internal.last
  · rw [if_pos hsingle]
    cases Port.sanitize? d.name.toList with
    | none => exact ⟨fun _ => rfl, fun h => absurd rfl h⟩
    | some base => exact ⟨nofun, fun _ => ⟨_, rfl, List.cons_ne_nil _ _⟩⟩
  · rw [if_neg hsingle]
    cases Port.sanitize? d.name.toList with
    | none => exact ⟨fun _ => rfl, fun h => absurd rfl h⟩
    | some base => exact ⟨nofun, fun _ => ⟨_, rfl, by simp⟩⟩

/-- Those in front of it fail by the same name. -/
theorem decided_servicePorts (d : Definition) :
    Decided d.Nameless (.portName d.name) (· ≠ []) d.servicePorts := by
  refine d.decided_containerPorts.bind fun named hnamed => ⟨_, rfl, ?_⟩
  simpa [Range.ports, Range.count] using hnamed

end Port.Definition

theorem Group.reported_portDefinitions (g : Group) : Reported g.portDefinitions :=
  .mapM fun p _ => Port.Definition.reported_ofExposed p

namespace Pod

/-- So do their nodes, whether they are counted by the chart or not. -/
theorem decided_definitionPorts (g : Group) (s : Settings) (d : Port.Definition) :
    Decided d.Nameless (.portName d.name) (fun _ => True) (definitionPorts g s d) := by
  unfold definitionPorts
  split
  · exact d.decided_namePrefix.bind fun _ _ => ⟨_, rfl, trivial⟩
  · exact d.decided_containerPorts.bind fun _ _ => ⟨_, rfl, trivial⟩

/-- The settings have no say in which name of a port fails. -/
theorem alike_containerPorts : Alike (fun _ _ => True) (containerPorts g s) (containerPorts g s') := by
  refine g.reported_portDefinitions.bind_alike fun definitions => ?_
  have hports : ∀ d ∈ definitions, Alike (fun _ _ => True ∧ True) (definitionPorts g s d)
      (definitionPorts g s' d) := fun d _ =>
    (decided_definitionPorts g s d).alike (decided_definitionPorts g s' d) nofun
  exact (Alike.mapM hports).bind fun _ _ _ => .pure trivial

/-! ## The other parts of a container -/

/-- An image needs opinions that can be written, and only its text depends on anything else. -/
theorem alike_imageReference (hopinions : s.opinions = s'.opinions) :
    Alike (fun _ _ => True) (imageReference g s) (imageReference g s') := by
  have htag : Alike (fun _ _ => True) (imageTag g s) (imageTag g s') := by
    unfold imageTag
    rw [hopinions]
    split
    · exact .ok trivial
    · exact .error fun name h => by cases h
  exact htag.bind fun _ _ _ => .pure trivial

/-- A variable that carries the count of a group needs that group. No other can be wrong. -/
theorem alike_envEntry (v : Variable) :
    Alike (fun _ _ => True) (envEntry m s v) (envEntry m s' v) := by
  unfold envEntry
  cases sizingTarget? v.name with
  | some target =>
    dsimp only
    cases m.groupByEnvName? target with
    | none => exact .error (e := .unknownSizingGroup v.name target) nofun
    | some other => exact .pure trivial
  | none =>
    dsimp only
    cases v.secret with
    | true => exact .pure trivial
    | false => cases s.chart <;> cases s'.chart <;> exact .pure trivial

/-- Settings change the entries of an environment, and none of its faults. -/
theorem alike_environment :
    Alike (fun _ _ => True) (environment m s g) (environment m s' g) := by
  have hentries : ∀ v ∈ (m.variablesOf g).filter (!·.internal), Alike (fun _ _ => True)
      (envEntry m s v) (envEntry m s' v) := fun v _ => alike_envEntry v
  exact (Alike.mapM hentries).bind fun _ _ _ => .pure trivial

/-- A URL that cannot be read or asked is a fault of the manifest. -/
theorem reported_declaredAction? (g : Group) (kind : ProbeKind) (p : Probe) :
    Reported (declaredAction? g kind p) := by
  unfold declaredAction?
  split
  · split
    · exact .error nofun
    · exact .error nofun
    · exact .pure _
  · exact .pure _
  · exact .pure _

theorem reported_ownPort? (g : Group) (kind : ProbeKind) : Reported (ownPort? g kind) := by
  cases kind with
  | liveness => exact .pure _
  | readiness => exact g.reported_portDefinitions.bind fun _ => .pure _

/-- What a probe needs comes from the group alone. -/
theorem reported_probe? (g : Group) (kind : ProbeKind) : Reported (probe? g kind) := by
  refine (reported_declaredAction? g kind (declaredProbe g kind)).bind fun action => ?_
  cases action with
  | some action => exact .pure _
  | none =>
    cases g.isManaged with
    | true =>
      refine Reported.bind ?_ fun _ => .pure _
      exact (reported_ownPort? g kind).map fun _ _ h => congrArg _ h
    | false => exact .pure _

/-- With the same opinions a container fails alike in a chart and outside of one. -/
theorem alike_container (hopinions : s.opinions = s'.opinions) :
    Alike (fun _ _ => True) (container m s g) (container m s' g) := by
  refine (alike_imageReference hopinions).bind fun _ _ _ => ?_
  refine alike_containerPorts.bind fun _ _ _ => ?_
  refine alike_environment.bind fun _ _ _ => ?_
  have hprobe (kind : ProbeKind) : Reported (probeEntry g kind) :=
    (reported_probe? g kind).bind fun _ => .pure _
  refine (hprobe .liveness).bind_alike fun _ => ?_
  exact (hprobe .readiness).bind_alike fun _ => .pure trivial

/-! ## Templates -/

/-- A colocated group that is not declared is a fault of the manifest. -/
theorem reported_colocatedGroups (m : Manifest) (g : Group) : Reported (colocatedGroups m g) := by
  refine .mapM fun name _ => ?_
  split
  · exact .pure _
  · exact .error nofun

/-- The two kinds of affinity that cannot be declared are refused under all settings. -/
theorem alike_affinity? : Alike (fun _ _ => True) (affinity? g s) (affinity? g s') := by
  unfold affinity?
  cases hnode : (g.run.affinity.getD {}).nodeAffinity.isSome with
  | true =>
    simp only [hnode, if_true]
    exact .error (e := .nodeAffinity g.name g.varName) nofun
  | false =>
    cases hpod : (g.run.affinity.getD {}).podAffinity.isSome with
    | true =>
      simp only [hnode, hpod, if_true, Bool.false_eq_true, if_false]
      exact .error (e := .podAffinity g.name) nofun
    | false =>
      simp only [hnode, hpod, Bool.false_eq_true, if_false]
      exact .pure trivial

/-- The parts of a specification are made in one order, so the first fault is the same. -/
theorem alike_podSpec (hopinions : s.opinions = s'.opinions) :
    Alike (fun _ _ => True) (podSpec m s g) (podSpec m s' g) := by
  refine (reported_colocatedGroups m g).bind_alike fun others => ?_
  have hcontainers : ∀ other ∈ g :: others, Alike (fun _ _ => True) (container m s other)
      (container m s' other) := fun _ _ => alike_container hopinions
  refine (Alike.mapM hcontainers).bind fun _ _ _ => ?_
  exact alike_affinity?.bind fun _ _ _ => .pure trivial

/-- A template of pods: their metadata and their specification. -/
def IsTemplate (template : Mapping) : Prop :=
  ∃ metadata spec, template = [("metadata", .entries metadata), ("spec", .entries spec)]

/-- Metadata add no fault. -/
theorem alike_podTemplate (hopinions : s.opinions = s'.opinions) :
    Alike (fun a b => IsTemplate a ∧ IsTemplate b) (podTemplate m s g) (podTemplate m s' g) :=
  (alike_podSpec hopinions).bind fun _ _ _ => .pure ⟨⟨_, _, rfl⟩, ⟨_, _, rfl⟩⟩

end Pod

end RoleChart
