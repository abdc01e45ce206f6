import RoleChart.Proofs.Document.Differing
import RoleChart.Proofs.Pod.Fields
import RoleChart.Workload.Basic

/-!
# The fields of controllers

Where the pods and the claims of a group stand in its controller. A deployment, a stateful set and a job
put the same template at the same place; a job changes how its pods are started again, and no other
field of it.

## Main statements

* `Group.resources_ok` — the containers, volumes and claims of the controller of a group
-/

namespace RoleChart

open RoleChart.Document RoleChart.Built

namespace GroupResources

/-- The containers of the pods. -/
def containers (r : GroupResources) : List Node :=
  r.controller.listAt ["spec", "template", "spec", "containers"]

/-- The volumes of the pods. -/
def volumes (r : GroupResources) : List Node :=
  r.controller.listAt ["spec", "template", "spec", "volumes"]

/-- The claims that every pod gets a copy of. -/
def claims (r : GroupResources) : List Node :=
  r.controller.listAt ["spec", "volumeClaimTemplates"]

end GroupResources

namespace Group

variable {m : Manifest} {s : Settings} {g : Group} {r : GroupResources}

/-! ## The head -/

theorem head?_movedGuard (key : List String) : (movedGuard key).name.toList.head? = some '_' := by
  simp [movedGuard]

theorem head?_replicaGuard {guard : Guard} (h : guard ∈ g.replicaGuards) :
    guard.name.toList.head? = some '_' := by
  simp only [replicaGuards, List.mem_append, List.mem_singleton] at h
  rcases h with ((h | h) | rfl) | h
  · split at h
    · exact absurd h List.not_mem_nil
    · obtain rfl := List.mem_singleton.1 h
      simp
  · split at h
    · exact absurd h List.not_mem_nil
    · obtain rfl := List.mem_singleton.1 h
      simp
  · simp
  · split at h
    · obtain rfl := List.mem_singleton.1 h
      simp
    · exact absurd h List.not_mem_nil

/-- Names of guards begin with an underscore. -/
theorem head?_guard {withReplicas : Bool} {guard : Guard} (h : guard ∈ g.guards withReplicas) :
    guard.name.toList.head? = some '_' := by
  rw [guards, List.mem_append, List.mem_append] at h
  rcases h with (h | h) | h
  · split at h
    · exact head?_replicaGuard h
    · exact absurd h List.not_mem_nil
  · obtain ⟨key, -, rfl⟩ := List.mem_map.1 h
    exact head?_movedGuard key
  · unfold hostPathGuards at h
    split at h
    · exact absurd h List.not_mem_nil
    · obtain rfl := List.mem_singleton.1 h
      simp

/-- The names of guards begin with an underscore, so they hide no other field of the head. -/
theorem lookup?_controllerHead_of_head? (g : Group) (s : Settings) (apiVersion kind name : String)
    (withReplicas : Bool) {field : String} (hfield : field.toList.head? ≠ some '_') :
    Mapping.lookup? (g.controllerHead s apiVersion kind name withReplicas) field
      = Mapping.lookup? (newObject apiVersion kind (objectMetadata s name (some g.name))) field := by
  have hguards : Mapping.lookup? (if s.chart then (g.guards withReplicas).map Guard.entry else []) field
      = none := by
    refine Mapping.lookup?_of_forall_ne ?_
    intro entry h
    split at h
    · obtain ⟨guard, hguard, rfl⟩ := List.mem_map.1 h
      rintro rfl
      exact hfield (head?_guard hguard)
    · exact absurd h List.not_mem_nil
  rw [controllerHead, Mapping.lookup?_append, hguards, Option.none_or]

/-- The head leaves the specification to what stands behind it. -/
@[simp] theorem lookup?_controllerHead (g : Group) (s : Settings) (apiVersion kind name : String)
    (withReplicas : Bool) :
    Mapping.lookup? (g.controllerHead s apiVersion kind name withReplicas) "spec" = none := by
  rw [lookup?_controllerHead_of_head? g s apiVersion kind name withReplicas (by decide)]
  simp [newObject]

/-- The kind of a controller is found behind its guards. -/
@[simp] theorem lookup?_controllerHead_kind (g : Group) (s : Settings) (apiVersion kind name : String)
    (withReplicas : Bool) :
    Mapping.lookup? (g.controllerHead s apiVersion kind name withReplicas) "kind"
      = some (.string kind) := by
  rw [lookup?_controllerHead_of_head? g s apiVersion kind name withReplicas (by decide)]
  simp [newObject]

/-- The block around a controller hides none of its lists. -/
@[simp] theorem listAt_gate (g : Group) (s : Settings) (node : Node) (name : String)
    (rest : List String) : (g.gate s node).listAt (name :: rest) = node.listAt (name :: rest) := by
  unfold gate
  split
  · exact Node.listAt_wrapBlock _ _ _ _
  · rfl

/-! ## The three controllers -/

/-- A controller with the containers and the volumes of the pods of a group, and with these claims. -/
def Carries (m : Manifest) (s : Settings) (g : Group) (r : GroupResources) (claims : List Node) : Prop :=
  ∃ others containers, Pod.colocatedGroups m g = .ok others ∧
    (g :: others).mapM (Pod.container m s) = .ok containers ∧
    r.containers = containers ∧ r.volumes = Pod.podVolumes (g :: others) ∧ r.claims = claims

/-- A deployment carries the pods of its group, and has no claims. -/
theorem deployment_ok (h : g.deployment m s = .ok r) : Carries m s g r [] := by
  obtain ⟨template, ht, h⟩ := bind_eq_ok_iff.1 h
  obtain ⟨services, -, h⟩ := bind_eq_ok_iff.1 h
  obtain rfl := pure_eq_ok_iff.1 h
  obtain ⟨others, containers, hothers, hcontainers, hc, hv⟩ := Pod.podTemplate_ok ht
  refine ⟨others, containers, hothers, hcontainers, ?_, ?_, ?_⟩
  · rw [← hc, GroupResources.containers, listAt_gate]
    simp [Node.listAt]
  · rw [← hv, GroupResources.volumes, listAt_gate]
    simp [Node.listAt]
  · rw [GroupResources.claims, listAt_gate]
    simp [Node.listAt]

/-- A stateful set has the claims of its own group. Those of colocated groups are not among them. -/
theorem statefulSet_ok (h : g.statefulSet m s = .ok r) :
    Carries m s g r (g.claimVolumes.map (g.volumeClaim s)) := by
  obtain ⟨template, ht, h⟩ := bind_eq_ok_iff.1 h
  obtain ⟨services, -, h⟩ := bind_eq_ok_iff.1 h
  obtain rfl := pure_eq_ok_iff.1 h
  obtain ⟨others, containers, hothers, hcontainers, hc, hv⟩ := Pod.podTemplate_ok ht
  refine ⟨others, containers, hothers, hcontainers, ?_, ?_, ?_⟩
  · rw [← hc, GroupResources.containers, listAt_gate]
    simp [Node.listAt]
  · rw [← hv, GroupResources.volumes, listAt_gate]
    simp [Node.listAt]
  · rw [GroupResources.claims, listAt_gate]
    simp [Node.listAt]

/-- A job carries the pods of its group, with another policy, and has no claims. -/
theorem job_ok (h : g.job m s = .ok r) : Carries m s g r [] := by
  obtain ⟨policy, -, h⟩ := bind_eq_ok_iff.1 h
  obtain ⟨template, ht, h⟩ := bind_eq_ok_iff.1 h
  obtain ⟨restarting, hset, h⟩ := bind_eq_ok_iff.1 h
  obtain rfl := pure_eq_ok_iff.1 h
  obtain ⟨others, containers, hothers, hcontainers, hc, hv⟩ := Pod.podTemplate_ok ht
  obtain ⟨changed, hchanged, hdiffer⟩ := Mapping.exists_setPath (Pod.get?_restartPolicy ht)
    (List.cons_ne_nil _ _) (.string policy)
  obtain rfl := Except.ok.inj (hchanged.symm.trans (mapError_eq_ok_iff.1 hset))
  refine ⟨others, containers, hothers, hcontainers, ?_, ?_, ?_⟩
  · rw [← hc, GroupResources.containers, Node.listAt, Node.listAt,
      ← hdiffer.get?_beside (by decide) (by decide)]
    simp
  · rw [← hv, GroupResources.volumes, Node.listAt, Node.listAt,
      ← hdiffer.get?_beside (by decide) (by decide)]
    simp
  · simp [GroupResources.claims, Node.listAt]

/-- The claims of a controller are those of its own group. Pods that run to their end have none. -/
theorem resources_ok (h : g.resources m s = .ok (some r)) :
    Carries m s g r (if g.kind = .service then g.claimVolumes.map (g.volumeClaim s) else []) := by
  unfold resources workload? at h
  cases hk : g.kind with
  | colocated => simp [hk] at h
  | task =>
    simp only [hk, map_eq_ok_iff] at h
    obtain ⟨r', hr, h⟩ := h
    obtain rfl := Option.some.inj h
    simpa using job_ok hr
  | service =>
    simp only [hk] at h
    rw [if_pos rfl]
    by_cases hw : (!g.claimVolumes.isEmpty || g.hasTag clusteredTag) = true
    · simp only [hw, if_true, map_eq_ok_iff] at h
      obtain ⟨r', hr, h⟩ := h
      obtain rfl := Option.some.inj h
      exact statefulSet_ok hr
    · simp only [hw, if_false, Bool.false_eq_true, map_eq_ok_iff] at h
      obtain ⟨r', hr, h⟩ := h
      obtain rfl := Option.some.inj h
      -- a service without a stateful set claims nothing
      have hnone : g.claimVolumes = [] := by
        simp only [Bool.or_eq_true, Bool.not_eq_true', not_or, Bool.not_eq_false] at hw
        exact List.isEmpty_iff.1 hw.1
      rw [hnone]
      exact deployment_ok hr

end Group

end RoleChart
