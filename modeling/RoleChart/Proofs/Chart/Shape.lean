import RoleChart.Files
import RoleChart.Proofs.Pod.Alike
import RoleChart.Proofs.Pod.Environment
import RoleChart.Proofs.Workload.Controllers

/-!
# The shape of a build

A chart and plain resources have the same shape: the same files in the same order, each with documents
of the same kinds. They are also refused for the same reason. What differs is only what stands inside of
the documents and around them.

## Main statements

* `resourceFiles_alike` — a build of plain resources and one of a chart have files of the same shape, or
  fail with the same fault
-/

namespace RoleChart

open RoleChart.Document RoleChart.Built

/-! ## Kinds -/

/-- Whether the document says that it is of this kind. -/
def HasKind (kind : String) (document : Node) : Prop := document.get? ["kind"] = some (.string kind)

/-- Two documents of the same kind. -/
def SameKind (a b : Node) : Prop := ∃ kind, HasKind kind a ∧ HasKind kind b

/-- Two files in one place, with documents of the same kinds in the same order. -/
structure SameShape (a b : ResourceFile) : Prop where
  directory : a.directory = b.directory
  name : a.name = b.name
  documents : List.Forall₂ SameKind a.documents b.documents

variable {m : Manifest} {g : Group} {s s' : Settings} {kind : String}

/-- An object says its kind at its head, whatever follows. -/
theorem hasKind_newObject (apiVersion kind : String) (metadata rest : Mapping) :
    HasKind kind (.entries (newObject apiVersion kind metadata ++ rest)) := by
  simp [HasKind, newObject]

theorem HasKind.wrapBlock {n : Node} (h : HasKind kind n) (block : String) :
    HasKind kind (n.wrapBlock block) := by
  simpa [HasKind] using h

theorem HasKind.withBlock {n : Node} (h : HasKind kind n) (block : String) :
    HasKind kind (n.withBlock block) := by
  simpa [HasKind] using h

/-- The block that leaves a group out does not change the kind of a document. -/
theorem HasKind.gate {n : Node} (h : HasKind kind n) (g : Group) (s : Settings) :
    HasKind kind (g.gate s n) := by
  unfold Group.gate
  split
  · exact h.wrapBlock _
  · exact h

theorem SameKind.gate {a b : Node} (h : SameKind a b) (g : Group) (s s' : Settings) :
    SameKind (g.gate s a) (g.gate s' b) := by
  obtain ⟨kind, ha, hb⟩ := h
  exact ⟨kind, ha.gate g s, hb.gate g s'⟩

/-! ## Services -/

namespace Service

/-- The entries for a range are refused for its name or are at least one, in a chart and outside of one. -/
theorem decided_definitionPorts (g : Group) (s : Settings) (audience : Audience) (d : Port.Definition) :
    Decided d.Nameless (.portName d.name) (· ≠ []) (definitionPorts g s audience d) := by
  unfold definitionPorts
  split
  · exact d.decided_namePrefix.bind fun _ _ => ⟨_, rfl, List.cons_ne_nil _ _⟩
  · split
    · exact d.decided_containerPorts.bind fun named hnamed => ⟨_, rfl, by simpa using hnamed⟩
    · exact d.decided_servicePorts.bind fun named hnamed => ⟨_, rfl, by simpa using hnamed⟩

/-- Each definition has some entry, so a service without entries is one without definitions. -/
theorem alike_ports (audience : Audience) :
    Alike (fun a b => a = [] ↔ b = []) (ports g s audience) (ports g s' audience) := by
  refine g.reported_portDefinitions.bind_alike fun definitions => ?_
  have hports : ∀ d ∈ definitions.filter (fun d => audience != .everyone || d.isPublic),
      Alike (fun a b => a ≠ [] ∧ b ≠ []) (definitionPorts g s audience d)
        (definitionPorts g s' audience d) := fun d _ =>
    (decided_definitionPorts g s audience d).alike (decided_definitionPorts g s' audience d) nofun
  refine (Alike.mapM hports).bind fun a b hab => .pure ?_
  cases hab with
  | nil => exact Iff.rfl
  | cons h _ => simp [h.1, h.2]

end Service

/-- A service is there in both forms or in neither. -/
theorem alike_service? (audience : Audience) :
    Alike (Option.Rel SameKind) (service? g s audience) (service? g s' audience) := by
  refine (Service.alike_ports audience).bind fun a b hempty => ?_
  cases a with
  | nil =>
    obtain rfl := hempty.1 rfl
    exact .pure .none
  | cons first rest =>
    cases b with
    | nil => exact absurd (hempty.2 rfl) (List.cons_ne_nil _ _)
    | cons first' rest' =>
      exact .pure (.some ⟨"Service", hasKind_newObject _ _ _ _, hasKind_newObject _ _ _ _⟩)

namespace Group

/-- The services of a group are the same ones in both forms. -/
theorem alike_services (audiences : List Audience) :
    Alike (List.Forall₂ SameKind) (g.services s audiences) (g.services s' audiences) := by
  refine (Alike.mapM fun audience _ => alike_service? audience).bind fun a b hab => .pure ?_
  have hfound : List.Forall₂ SameKind (a.filterMap id) (b.filterMap id) :=
    List.rel_filterMap (fun _ _ h => h) hab
  rw [List.forall₂_map_left_iff, List.forall₂_map_right_iff]
  exact hfound.imp fun _ _ h => h.gate g s s'

/-! ## Controllers -/

/-- Resources of one workload, with documents of the same kinds. -/
structure SameResources (a b : GroupResources) : Prop where
  workload : a.workload = b.workload
  documents : List.Forall₂ SameKind a.documents b.documents

/-- The kind of a controller stands in front of its guards and its number of replicas. -/
theorem hasKind_controller (apiVersion kind name : String) (withReplicas : Bool) (spec : Mapping) :
    HasKind kind (.entries (g.controllerHead s apiVersion kind name withReplicas ++ spec)) := by
  simp [HasKind]

/-- Deployments fail with the same fault, or have the same documents in both forms. -/
theorem alike_deployment (hopinions : s.opinions = s'.opinions) :
    Alike SameResources (g.deployment m s) (g.deployment m s') := by
  refine (Pod.alike_podTemplate hopinions).bind fun _ _ _ => ?_
  refine (alike_services _).bind fun a b hservices => .pure ⟨rfl, .cons ?_ hservices⟩
  exact ⟨"Deployment", (hasKind_controller _ _ _ _ _).gate g s, (hasKind_controller _ _ _ _ _).gate g s'⟩

/-- So do stateful sets; claims are no documents of their own. -/
theorem alike_statefulSet (hopinions : s.opinions = s'.opinions) :
    Alike SameResources (g.statefulSet m s) (g.statefulSet m s') := by
  refine (Pod.alike_podTemplate hopinions).bind fun _ _ _ => ?_
  refine (alike_services _).bind fun a b hservices => .pure ⟨rfl, .cons ?_ hservices⟩
  exact ⟨"StatefulSet", (hasKind_controller _ _ _ _ _).gate g s, (hasKind_controller _ _ _ _ _).gate g s'⟩

theorem reported_restartPolicy (g : Group) : Reported g.restartPolicy := by
  unfold restartPolicy
  split
  all_goals first
    | exact .pure _
    | exact .error nofun

/-- The policy of a template can always be set. -/
theorem exists_setPath_restartPolicy {template : Mapping} (h : Pod.IsTemplate template) (policy : Node) :
    ∃ result, Mapping.setPath template ["spec", "restartPolicy"] policy = .ok result := by
  obtain ⟨metadata, spec, rfl⟩ := h
  simp [Mapping.setPath, Mapping.setPath?, Mapping.position?, List.findIdx?_cons, Node.entries]

/-- So do jobs, since the policy can be set in every template. -/
theorem alike_job (hopinions : s.opinions = s'.opinions) :
    Alike SameResources (g.job m s) (g.job m s') := by
  refine g.reported_restartPolicy.bind_alike fun policy => ?_
  refine (Pod.alike_podTemplate hopinions).bind fun a b ⟨ha, hb⟩ => ?_
  obtain ⟨a', ha⟩ := exists_setPath_restartPolicy ha (.string policy)
  obtain ⟨b', hb⟩ := exists_setPath_restartPolicy hb (.string policy)
  rw [ha, hb]
  refine .pure ⟨rfl, .cons ?_ .nil⟩
  exact ⟨"Job", hasKind_controller _ _ _ _ _, hasKind_controller _ _ _ _ _⟩

/-- The workload depends on the group alone, so both forms fail alike or have documents of the same kinds. -/
theorem alike_resources (hopinions : s.opinions = s'.opinions) :
    Alike (Option.Rel SameResources) (g.resources m s) (g.resources m s') := by
  unfold resources
  split
  · exact .ok .none
  · exact (alike_deployment hopinions).map fun _ _ h => .some h
  · exact (alike_statefulSet hopinions).map fun _ _ h => .some h
  · exact (alike_job hopinions).map fun _ _ h => .some h

end Group

theorem alike_groupFiles (hopinions : s.opinions = s'.opinions) :
    Alike (List.Forall₂ SameShape) (groupFiles m s) (groupFiles m s') := by
  have hfile : ∀ g ∈ m.groups, Alike (Option.Rel SameShape)
      (do return (← g.resources m s).map fun r => ResourceFile.mk r.workload.directory g.name r.documents)
      (do return (← g.resources m s').map fun r => ResourceFile.mk r.workload.directory g.name r.documents) := by
    intro g _
    refine (Group.alike_resources hopinions).bind fun a b hab => .pure ?_
    cases hab with
    | none => exact .none
    | some h => exact .some ⟨congrArg Workload.directory h.workload, rfl, h.documents⟩
  refine (Alike.mapM hfile).bind fun a b hab => .pure ?_
  exact List.rel_filterMap (fun _ _ h => h) hab

/-! ## Authorization -/

namespace Access

/-- A block around an object of authorization leaves its kind. -/
theorem hasKind_gated (s : Settings) (apiVersion kind : String) (metadata rest : Mapping) :
    HasKind kind (gated s (newObject apiVersion kind metadata ++ rest)) := by
  unfold gated
  split
  · exact (hasKind_newObject _ _ _ _).withBlock _
  · exact hasKind_newObject _ _ _ _

theorem hasKind_podSecurityPolicy (s : Settings) (name : String) (spec : Yaml.Value) :
    HasKind "PodSecurityPolicy" (podSecurityPolicy s name spec) := by
  unfold podSecurityPolicy
  split
  · exact (hasKind_gated _ _ _ _ _).withBlock _
  · exact hasKind_gated _ _ _ _ _

theorem hasKind_serviceAccount (s : Settings) (name : String) :
    HasKind "ServiceAccount" (serviceAccount s name) := by
  rw [serviceAccount, ← List.append_nil (newObject _ _ _)]
  exact hasKind_gated _ _ _ _ _

/-- Two files of one name, with documents of the same kinds in the same order. -/
structure SameFile (a b : AuthFile) : Prop where
  name : a.name = b.name
  documents : List.Forall₂ SameKind a.documents b.documents

/-- Documents that are made of the same things, each of one kind. -/
theorem forall₂_map_sameKind {α : Type} {f f' : α → Node} (kind : String) (hf : ∀ x, HasKind kind (f x))
    (hf' : ∀ x, HasKind kind (f' x)) (xs : List α) : List.Forall₂ SameKind (xs.map f) (xs.map f') := by
  rw [List.forall₂_map_left_iff, List.forall₂_map_right_iff, List.forall₂_same]
  exact fun x _ => ⟨kind, hf x, hf' x⟩

/-- An account has the same bindings in both forms, in one order. -/
theorem sameKind_accountDocuments (s s' : Settings) (account : String) (grants : Grants) :
    List.Forall₂ SameKind (accountDocuments s account grants) (accountDocuments s' account grants) := by
  have hbindings (names : List String) : List.Forall₂ SameKind (names.map (clusterRoleBinding s account))
      (names.map (clusterRoleBinding s' account)) :=
    forall₂_map_sameKind "ClusterRoleBinding" (fun _ => hasKind_gated _ _ _ _ _)
      (fun _ => hasKind_gated _ _ _ _ _) names
  refine List.rel_append (List.rel_append (List.rel_append ?_ ?_) (hbindings _)) (hbindings _)
  · split
    · exact .nil
    · exact .cons ⟨_, hasKind_serviceAccount s account, hasKind_serviceAccount s' account⟩ .nil
  · exact forall₂_map_sameKind "RoleBinding" (fun _ => hasKind_gated _ _ _ _ _)
      (fun _ => hasKind_gated _ _ _ _ _) _

/-- The files that are not empty are the same ones. -/
theorem forall₂_filter_sameFile {xs ys : List AuthFile} (h : List.Forall₂ SameFile xs ys) :
    List.Forall₂ SameFile (xs.filter fun file => !file.documents.isEmpty)
      (ys.filter fun file => !file.documents.isEmpty) := by
  refine List.rel_filter (fun a b hab => ?_) h
  rcases a with ⟨name, documents⟩
  rcases b with ⟨name', documents'⟩
  obtain ⟨-, hdocuments⟩ := hab
  cases hdocuments with
  | nil => exact Iff.rfl
  | cons _ _ => simp

/-- Where both builds write their authorization objects, they write the same ones. -/
theorem sameFile_authFiles (hs : s.emitsRbac = true) (hs' : s'.emitsRbac = true) (a : Authorization) :
    List.Forall₂ SameFile (authFiles s a) (authFiles s' a) := by
  have single {kind name : String} {x y : Node} (hx : HasKind kind x) (hy : HasKind kind y) :
      SameFile ⟨name, [x]⟩ ⟨name, [y]⟩ := ⟨rfl, .cons ⟨kind, hx, hy⟩ .nil⟩
  have both {α : Type} {f f' : α → AuthFile} (hf : ∀ x, SameFile (f x) (f' x)) (xs : List α) :
      List.Forall₂ SameFile (xs.map f) (xs.map f') := by
    rw [List.forall₂_map_left_iff, List.forall₂_map_right_iff, List.forall₂_same]
    exact fun x _ => hf x
  simp only [authFiles, hs, hs', Bool.not_true, Bool.false_eq_true, if_false]
  refine List.rel_append (List.rel_append (List.rel_append ?_ ?_) ?_) (forall₂_filter_sameFile ?_)
  · exact both (fun _ => single (hasKind_gated _ _ _ _ _) (hasKind_gated _ _ _ _ _)) _
  · exact both (fun _ => single (hasKind_gated _ _ _ _ _) (hasKind_gated _ _ _ _ _)) _
  · refine both ?_ _
    rintro ⟨name, spec⟩
    refine ⟨rfl, .cons ?_ (.cons ?_ .nil)⟩
    · exact ⟨_, hasKind_podSecurityPolicy s name spec, hasKind_podSecurityPolicy s' name spec⟩
    · exact ⟨"ClusterRole", hasKind_gated _ _ _ _ _, hasKind_gated _ _ _ _ _⟩
  · refine both ?_ _
    rintro ⟨name, grants⟩
    exact ⟨rfl, sameKind_accountDocuments s s' name grants⟩

end Access

/-! ## Files -/

theorem hasKind_registryCredentials (s : Settings) : HasKind "Secret" (registryCredentials s) := by
  unfold registryCredentials
  split
  · exact (hasKind_newObject _ _ _ _).withBlock _
  · exact hasKind_newObject _ _ _ _

/-- Secret variables with different keys make an object under any settings. -/
theorem alike_secret (hkeys : ((m.declarations.filter (·.secret)).map fun v => secretKey v.name).Nodup) :
    Alike SameKind (secret m.sortedVariables s) (secret m.sortedVariables s') := by
  have hmade (s : Settings) : ∃ object, secret m.sortedVariables s = .ok object ∧ HasKind "Secret" object := by
    obtain ⟨object, hobject, -⟩ := secret_ok (s := s) (Pod.nodup_keys_sortedVariables hkeys)
    refine ⟨object, hobject, ?_⟩
    obtain ⟨data, -, h⟩ := bind_eq_ok_iff.1 hobject
    obtain rfl := pure_eq_ok_iff.1 h
    exact hasKind_newObject _ _ _ _
  obtain ⟨a, ha, hkind⟩ := hmade s
  obtain ⟨b, hb, hkind'⟩ := hmade s'
  rw [ha, hb]
  exact .ok ⟨"Secret", hkind, hkind'⟩

/-- Plain resources and a chart have files of the same shape, or neither can be built for the same
reason. -/
theorem resourceFiles_alike
    (hkeys : ((m.declarations.filter (·.secret)).map fun v => secretKey v.name).Nodup)
    (hrbac : s.authMode = .rbac) :
    Alike (List.Forall₂ SameShape) (resourceFiles m { s with chart := false })
      (resourceFiles m { s with chart := true }) := by
  have hgroups : Alike (List.Forall₂ SameShape) (groupFiles m { s with chart := false })
      (groupFiles m { s with chart := true }) := alike_groupFiles rfl
  refine hgroups.bind fun groups groups' hgroups => ?_
  refine (alike_secret hkeys).bind fun object object' hobject => .pure ?_
  refine List.rel_append (List.rel_append hgroups ?_) ?_
  · refine .cons ⟨rfl, rfl, .cons hobject .nil⟩ (.cons ⟨rfl, rfl, .cons ?_ .nil⟩ .nil)
    exact ⟨"Secret", hasKind_registryCredentials _, hasKind_registryCredentials _⟩
  · rw [List.forall₂_map_left_iff, List.forall₂_map_right_iff]
    have hplain : Settings.emitsRbac { s with chart := false } = true := by
      simp [Settings.emitsRbac, hrbac]
    refine (Access.sameFile_authFiles hplain (Settings.emitsRbac_of_chart _ rfl) _).imp fun a b h => ?_
    exact ⟨rfl, h.name, h.documents⟩

/-! ## Counted ports -/

/-- A group with ports that only a chart counts. -/
def workerGroup : Group where
  name := "worker"
  run := { ports := [{ name := "slot", internal := .text "7000-7003", countIsConfigurable := true }] }

/-- A manifest with the group and with a secret. -/
def workerManifest : Manifest where
  groups := [workerGroup]
  declarations := [{ name := "TOKEN", secret := true }]

/-- The manifest has one secret, so no key comes twice. -/
theorem nodup_keys_worker :
    ((workerManifest.declarations.filter (·.secret)).map fun v => secretKey v.name).Nodup := by
  simp [workerManifest]

/-- The documents of its group are built outside of a chart. -/
theorem resources_worker : ∃ r, workerGroup.resources workerManifest {} = .ok (some r) := by
  have hc : ∃ c, Pod.container workerManifest {} workerGroup = .ok c := by
    unfold Pod.container
    rw [Pod.environment_of_no_jobs _ _ rfl]
    exact ⟨_, rfl⟩
  obtain ⟨c, hc⟩ := hc
  -- the image is a hash, which nothing here computes: the container stays unknown
  have hcontainers : [workerGroup].mapM (Pod.container workerManifest {}) = .ok [c] := by
    simp only [mapM_cons_eq_ok_iff, mapM_nil_eq_ok_iff]
    exact ⟨c, [], hc, rfl, rfl⟩
  have hw : workerGroup.workload? = some .deployment := by decide
  have hcolocated : Pod.colocatedGroups workerManifest workerGroup = .ok [] := rfl
  unfold Group.resources Group.deployment Pod.podTemplate Pod.podSpec
  rw [hw, hcolocated]
  simp only [bind, Except.bind, hcontainers]
  exact ⟨_, rfl⟩

theorem resourceFiles_worker : ∃ files, resourceFiles workerManifest {} = .ok files := by
  obtain ⟨r, hr⟩ := resources_worker
  obtain ⟨object, hobject, -⟩ := secret_ok (s := {}) (Pod.nodup_keys_sortedVariables nodup_keys_worker)
  have hgroups : groupFiles workerManifest {} = .ok [⟨r.workload.directory, "worker", r.documents⟩] := by
    refine bind_eq_ok_iff.2 ⟨[some ⟨r.workload.directory, "worker", r.documents⟩], ?_, rfl⟩
    refine mapM_cons_eq_ok_iff.2 ⟨_, [], ?_, rfl, rfl⟩
    rw [hr]
    rfl
  unfold resourceFiles
  rw [hgroups, hobject]
  exact ⟨_, rfl⟩

theorem resourceFiles_alike_worker :
    ((workerManifest.declarations.filter (·.secret)).map fun v => secretKey v.name).Nodup ∧
      ({} : Settings).authMode = .rbac ∧
      ∃ plain charted, resourceFiles workerManifest { chart := false } = .ok plain ∧
        resourceFiles workerManifest { chart := true } = .ok charted ∧
        List.Forall₂ SameShape plain charted := by
  obtain ⟨plain, hplain⟩ := resourceFiles_worker
  have halike := resourceFiles_alike (s := {}) nodup_keys_worker rfl
  refine ⟨nodup_keys_worker, rfl, plain, ?_⟩
  generalize resourceFiles workerManifest { chart := true } = other at halike ⊢
  rw [hplain] at halike ⊢
  cases halike with
  | ok h => exact ⟨_, rfl, rfl, h⟩

end RoleChart
