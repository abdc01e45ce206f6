import RoleChart.Proofs.Workload.Controllers

/-!
# Mounts and their volumes

A container mounts the volumes of its group by their names. The entries behind the names come from two
places: the pods declare the volumes that need no claim, the first of each tag, and a stateful set
carries the claims of its own group.

## Main statements

* `Group.backs_mounts_iff` — what a group and its colocated groups must declare so that every mount has an
  entry of its kind
* `Group.provides_of_agree` — a service provides everything if no other group adds a claim and volumes
  of one tag agree in their kinds
-/

namespace RoleChart

open RoleChart.Document

namespace Pod

/-! ## Mounts -/

theorem mem_mountOrder (kind : VolumeKind) : kind ∈ mountOrder := by
  cases kind <;> decide

/-- A container mounts every volume of its group, and nothing else. -/
theorem mem_mounts_iff {g : Group} {node : Node} :
    node ∈ mounts g ↔ ∃ v ∈ g.run.volumes, mount v = node := by
  simp only [mounts, Group.volumesOf, List.mem_map, List.mem_flatMap, List.mem_filter, beq_iff_eq]
  constructor
  · rintro ⟨v, ⟨kind, -, hv, -⟩, h⟩
    exact ⟨v, hv, h⟩
  · rintro ⟨v, hv, h⟩
    exact ⟨v, ⟨v.kind, mem_mountOrder v.kind, hv, rfl⟩, h⟩

/-- A mount names a volume by its tag. -/
@[simp] theorem get?_name_mount (v : Volume) : (mount v).get? ["name"] = some (.string v.tag) := by
  simp [mount]

/-! ## Volumes of pods -/

/-- The volumes that the pods of these groups declare themselves. -/
def declaredVolumes (groups : List Group) : List Volume :=
  firstOfTag ((groups.flatMap (·.run.volumes)).filter (!·.kind.isClaim))

theorem podVolumes_eq_map (groups : List Group) :
    podVolumes groups = (declaredVolumes groups).map podVolume := rfl

/-- Only declared volumes are kept. -/
theorem firstOfTag_subset (vs : List Volume) : firstOfTag vs ⊆ vs := by
  induction vs with
  | nil => exact List.Subset.refl _
  | cons v rest ih =>
    rw [firstOfTag]
    exact List.cons_subset_cons v fun w hw => ih (List.filter_sublist.subset hw)

/-- Every tag keeps a volume. -/
theorem exists_firstOfTag {vs : List Volume} {v : Volume} (h : v ∈ vs) :
    ∃ w ∈ firstOfTag vs, w.tag = v.tag := by
  induction vs with
  | nil => exact absurd h List.not_mem_nil
  | cons u rest ih =>
    rw [firstOfTag]
    by_cases hu : u.tag = v.tag
    · exact ⟨u, List.mem_cons_self, hu⟩
    · rcases List.mem_cons.1 h with rfl | h
      · exact absurd rfl hu
      · obtain ⟨w, hw, ht⟩ := ih h
        refine ⟨w, List.mem_cons_of_mem u (List.mem_filter.2 ⟨hw, ?_⟩), ht⟩
        simpa [ht] using Ne.symm hu

/-- What the pods may declare themselves is every volume of a group that is no claim. -/
theorem mem_filter_claims {groups : List Group} {v : Volume} :
    v ∈ (groups.flatMap (·.run.volumes)).filter (!·.kind.isClaim) ↔
      (∃ h ∈ groups, v ∈ h.run.volumes) ∧ v.kind.isClaim = false := by
  simp [List.mem_filter, List.mem_flatMap]

@[simp] theorem get?_name_podVolume (v : Volume) :
    (podVolume v).get? ["name"] = some (.string v.tag) := by
  simp [podVolume]

/-- Only a volume on the host says where it lies. -/
theorem isSome_get?_hostPath (v : Volume) :
    ((podVolume v).get? ["hostPath"]).isSome = true ↔ v.kind = .host := by
  cases hk : v.kind <;> simp [podVolume, hk]

theorem isSome_get?_emptyDir (v : Volume) :
    ((podVolume v).get? ["emptyDir"]).isSome = true ↔ v.kind ≠ .host := by
  cases hk : v.kind <;> simp [podVolume, hk]

/-- No claim is a volume of the pods. -/
theorem not_isClaim_of_mem {groups : List Group} {v : Volume} (h : v ∈ declaredVolumes groups) :
    v.kind.isClaim = false :=
  (mem_filter_claims.1 (firstOfTag_subset _ h)).2

end Pod

/-! ## Entries behind mounts -/

namespace GroupResources

/-- Whether a mount names an entry for a volume of this kind: a claim of the controller, or a volume of
its pods that is a directory of the host or an empty one. -/
def Backs (r : GroupResources) (mount : Node) : VolumeKind → Prop
  | .persistent | .shared => ∃ claim ∈ r.claims, claim.get? ["metadata", "name"] = mount.get? ["name"]
  | .host =>
    ∃ entry ∈ r.volumes, entry.get? ["name"] = mount.get? ["name"] ∧ (entry.get? ["hostPath"]).isSome
  | .emptyDir =>
    ∃ entry ∈ r.volumes, entry.get? ["name"] = mount.get? ["name"] ∧ (entry.get? ["emptyDir"]).isSome

end GroupResources

namespace Group

/-- Whether a group, which runs the pods, and the groups that are colocated in them declare what all
their containers mount. Names are compared as they are written. -/
structure Provides (g : Group) (others : List Group) : Prop where
  /-- Claims are those of the group itself, and only a service has them. -/
  claims : ∀ h ∈ g :: others, ∀ v ∈ h.claimVolumes,
    g.kind = .service ∧ ∃ w ∈ g.claimVolumes, Node.string w.tag = .string v.tag
  /-- The first volume of a tag decides on its kind. -/
  directories : ∀ h ∈ g :: others, ∀ v ∈ h.run.volumes, v.kind.isClaim = false →
    ∃ w ∈ Pod.declaredVolumes (g :: others), Node.string w.tag = .string v.tag ∧ w.kind = v.kind

variable {m : Manifest} {s : Settings} {g : Group} {r : GroupResources} {others : List Group}

theorem get?_name_volumeClaim (g : Group) (s : Settings) (v : Volume) :
    (g.volumeClaim s v).get? ["metadata", "name"] = some (.string v.tag) := by
  simp [volumeClaim]

theorem mem_claimVolumes_iff {v : Volume} :
    v ∈ g.claimVolumes ↔ v ∈ g.run.volumes ∧ v.kind.isClaim = true := by
  rw [claimVolumes, List.mem_filter]

/-- A claim of the controller is found for a tag just when a service declares one under it. -/
theorem exists_claim_iff (v : Volume)
    (hr : r.claims = if g.kind = .service then g.claimVolumes.map (g.volumeClaim s) else []) :
    (∃ claim ∈ r.claims, claim.get? ["metadata", "name"] = (Pod.mount v).get? ["name"]) ↔
      g.kind = .service ∧ ∃ w ∈ g.claimVolumes, Node.string w.tag = .string v.tag := by
  rw [hr, Pod.get?_name_mount]
  by_cases hk : g.kind = .service
  · rw [if_pos hk]
    constructor
    · rintro ⟨claim, hclaim, hn⟩
      obtain ⟨w, hw, rfl⟩ := List.mem_map.1 hclaim
      rw [get?_name_volumeClaim] at hn
      exact ⟨hk, w, hw, Option.some.inj hn⟩
    · rintro ⟨-, w, hw, hn⟩
      exact ⟨_, List.mem_map_of_mem hw, by rw [get?_name_volumeClaim, hn]⟩
  · simp [hk]

/-- A volume of the pods is found for a tag, and of the same kind, just when one that is kept under it is of
that kind. -/
theorem exists_directory_iff {groups : List Group} {v : Volume} (hv : v.kind.isClaim = false)
    (hr : r.volumes = Pod.podVolumes groups) :
    r.Backs (Pod.mount v) v.kind ↔
      ∃ w ∈ Pod.declaredVolumes groups, Node.string w.tag = .string v.tag ∧ w.kind = v.kind := by
  -- a volume that the pods declare is no claim, so it is a directory of one of two kinds
  have hkind : ∀ w ∈ Pod.declaredVolumes groups, w.kind ≠ .host → w.kind = .emptyDir := by
    intro w hw hne
    have hc := Pod.not_isClaim_of_mem hw
    cases hk : w.kind <;> simp_all [VolumeKind.isClaim]
  cases hk : v.kind with
  | persistent => simp [hk, VolumeKind.isClaim] at hv
  | shared => simp [hk, VolumeKind.isClaim] at hv
  | host =>
    simp only [GroupResources.Backs, hr, Pod.podVolumes_eq_map, List.mem_map, Pod.get?_name_mount]
    constructor
    · rintro ⟨_, ⟨w, hw, rfl⟩, hn, hh⟩
      exact ⟨w, hw, by simpa using hn, (Pod.isSome_get?_hostPath w).1 hh⟩
    · rintro ⟨w, hw, hn, hh⟩
      exact ⟨_, ⟨w, hw, rfl⟩, by simpa using hn, (Pod.isSome_get?_hostPath w).2 hh⟩
  | emptyDir =>
    simp only [GroupResources.Backs, hr, Pod.podVolumes_eq_map, List.mem_map, Pod.get?_name_mount]
    constructor
    · rintro ⟨_, ⟨w, hw, rfl⟩, hn, hh⟩
      exact ⟨w, hw, by simpa using hn, hkind w hw ((Pod.isSome_get?_emptyDir w).1 hh)⟩
    · rintro ⟨w, hw, hn, hh⟩
      exact ⟨_, ⟨w, hw, rfl⟩, by simpa using hn, (Pod.isSome_get?_emptyDir w).2 (by simp [hh])⟩

/-- What backs a claim is one of the controller, whatever the pods declare. -/
theorem backs_claim_iff {v : Volume} (hv : v.kind.isClaim = true)
    (hr : r.claims = if g.kind = .service then g.claimVolumes.map (g.volumeClaim s) else []) :
    r.Backs (Pod.mount v) v.kind ↔
      g.kind = .service ∧ ∃ w ∈ g.claimVolumes, Node.string w.tag = .string v.tag := by
  rw [← exists_claim_iff v hr]
  cases hk : v.kind with
  | persistent => rfl
  | shared => rfl
  | host => simp [hk, VolumeKind.isClaim] at hv
  | emptyDir => simp [hk, VolumeKind.isClaim] at hv

/-! ## The condition -/

/-- The containers of a controller mount the volumes of its group and of the colocated groups. Every
mount names an entry of the kind of its volume if and only if the groups provide all of them. -/
theorem backs_mounts_iff (h : g.resources m s = .ok (some r)) :
    ∃ others, Pod.colocatedGroups m g = .ok others ∧
      r.containers.map (·.listAt ["volumeMounts"]) = (g :: others).map Pod.mounts ∧
      ((∀ h ∈ g :: others, ∀ v ∈ h.run.volumes, r.Backs (Pod.mount v) v.kind) ↔ g.Provides others) := by
  obtain ⟨others, containers, hothers, hcontainers, rfl, hvolumes, hclaims⟩ := resources_ok h
  refine ⟨others, hothers, ?_, ?_⟩
  · exact Built.map_eq_of_mapM hcontainers fun h c hc => Pod.listAt_volumeMounts hc
  · constructor
    · intro hb
      refine ⟨fun h hh v hv => ?_, fun h hh v hv hk => ?_⟩
      · obtain ⟨hv, hk⟩ := mem_claimVolumes_iff.1 hv
        exact (backs_claim_iff hk hclaims).1 (hb h hh v hv)
      · exact (exists_directory_iff hk hvolumes).1 (hb h hh v hv)
    · rintro ⟨hc, hd⟩ h hh v hv
      cases hk : v.kind.isClaim with
      | true => exact (backs_claim_iff hk hclaims).2 (hc h hh v (mem_claimVolumes_iff.2 ⟨hv, hk⟩))
      | false => exact (exists_directory_iff hk hvolumes).2 (hd h hh v hv hk)

/-- A service whose colocated groups claim nothing of their own, with one kind for each tag. -/
theorem provides_of_agree (hs : g.kind = .service)
    (hc : ∀ h ∈ others, ∀ v ∈ h.claimVolumes, ∃ w ∈ g.claimVolumes, w.tag = v.tag)
    (hd : ∀ h ∈ g :: others, ∀ v ∈ h.run.volumes, v.kind.isClaim = false →
      ∀ k ∈ g :: others, ∀ w ∈ k.run.volumes, w.kind.isClaim = false → w.tag = v.tag →
        w.kind = v.kind) : g.Provides others := by
  refine ⟨fun h hh v hv => ⟨hs, ?_⟩, fun h hh v hv hk => ?_⟩
  · rcases List.mem_cons.1 hh with rfl | hh
    · exact ⟨v, hv, rfl⟩
    · obtain ⟨w, hw, ht⟩ := hc h hh v hv
      exact ⟨w, hw, by rw [ht]⟩
  · obtain ⟨w, hw, ht⟩ := Pod.exists_firstOfTag (Pod.mem_filter_claims.2 ⟨⟨h, hh, hv⟩, hk⟩)
    obtain ⟨⟨k, hkm, hwk⟩, hwc⟩ := Pod.mem_filter_claims.1 (Pod.firstOfTag_subset _ hw)
    exact ⟨w, hw, by rw [ht], hd h hh v hv hk k hkm w hwk hwc ht⟩

/-! ## A claim that nothing provides -/

/-- A service with a claim. -/
def apiGroup : Group where
  name := "api"
  colocated := ["logger"]
  run := { volumes := [{ kind := .persistent, tag := "data", path := "/var/data", size := 10 }] }

/-- A container beside it with a claim of its own. -/
def loggerGroup : Group where
  name := "logger"
  kind := .colocated
  run := { volumes := [{ kind := .persistent, tag := "logs", path := "/var/log", size := 5 }] }

/-- A manifest with the two. -/
def loggingManifest : Manifest := { groups := [apiGroup, loggerGroup] }

theorem colocatedGroups_logging : Pod.colocatedGroups loggingManifest apiGroup = .ok [loggerGroup] := rfl

theorem resources_logging : ∃ r, apiGroup.resources loggingManifest {} = .ok (some r) := by
  have ha : ∃ c, Pod.container loggingManifest {} apiGroup = .ok c := by
    unfold Pod.container
    rw [Pod.environment_of_no_jobs _ _ rfl]
    exact ⟨_, rfl⟩
  have hl : ∃ c, Pod.container loggingManifest {} loggerGroup = .ok c := by
    unfold Pod.container
    rw [Pod.environment_of_no_jobs _ _ rfl]
    exact ⟨_, rfl⟩
  obtain ⟨a, ha⟩ := ha
  obtain ⟨l, hl⟩ := hl
  -- the images are hashes, which nothing here computes: the containers stay unknown
  have hc : [apiGroup, loggerGroup].mapM (Pod.container loggingManifest {}) = .ok [a, l] := by
    simp only [Built.mapM_cons_eq_ok_iff, Built.mapM_nil_eq_ok_iff]
    exact ⟨a, [l], ha, ⟨l, [], hl, rfl, rfl⟩, rfl⟩
  have hw : apiGroup.workload? = some .statefulSet := by decide
  unfold resources statefulSet Pod.podTemplate Pod.podSpec
  rw [hw, colocatedGroups_logging]
  simp only [bind, Except.bind, hc]
  exact ⟨_, rfl⟩

/-- The claim of the colocated group is none of the group that runs the pods. -/
theorem not_provides_logging : ¬ apiGroup.Provides [loggerGroup] := by
  rintro ⟨hc, -⟩
  obtain ⟨-, w, hw, hn⟩ := hc loggerGroup (by simp)
    { kind := .persistent, tag := "logs", path := "/var/log", size := 5 } (by decide)
  rw [mem_claimVolumes_iff] at hw
  obtain rfl : w = { kind := .persistent, tag := "data", path := "/var/data", size := 10 } :=
    List.mem_singleton.1 hw.1
  exact absurd hn (by decide)

/-- The container beside the service mounts a claim that no entry stands for. -/
theorem not_backs_mounts_logging :
    ∃ r, apiGroup.resources loggingManifest {} = .ok (some r) ∧
      r.containers.map (·.listAt ["volumeMounts"]) = [apiGroup, loggerGroup].map Pod.mounts ∧
      ¬ ∀ h ∈ [apiGroup, loggerGroup], ∀ v ∈ h.run.volumes, r.Backs (Pod.mount v) v.kind := by
  obtain ⟨r, hr⟩ := resources_logging
  obtain ⟨others, hothers, hmounts, hiff⟩ := backs_mounts_iff hr
  rw [colocatedGroups_logging] at hothers
  obtain rfl := Except.ok.inj hothers
  exact ⟨r, hr, hmounts, fun hb => not_provides_logging (hiff.1 hb)⟩

end Group

end RoleChart
