import RoleChart.Proofs.Pod.Coverage

/-!
# What controllers and services look up

The guards of a chart, the numbers of replicas, the claims of volumes, and the ports of services. Only a
service has a number of replicas among its sizing values, and only a service is guarded by it.

## Main statements

* `covered_resources` — the values have what the controller of a group and its services look up
-/

namespace RoleChart.Chart

open RoleChart.Document RoleChart.Built
open Template (Free IsStep action)

variable {m : Manifest} {s : Settings} {g : Group} {v : Node}

/-! ## Guards -/

/-- A guard looks up what its conditions do. -/
theorem exists_of_mem_lookups_guard {guard : Guard} (hmessage : Free guard.message.toList)
    {path : List String} (h : path ∈ lookups guard.entry.2) :
    ∃ c ∈ guard.conditions, path ∈ Template.valuePaths (Template.ifBlock c).toList := by
  have hblocks : ∀ (conditions : List Template.Term) (node : Node),
      path ∈ lookups (conditions.foldl (fun node c => node.withBlock (Template.ifBlock c)) node) →
        path ∈ lookups node ∨ ∃ c ∈ conditions, path ∈ Template.valuePaths (Template.ifBlock c).toList := by
    intro conditions
    induction conditions with
    | nil => exact fun node h => .inl h
    | cons c conditions ih =>
      intro node h
      rcases ih _ h with h | ⟨d, hd, h⟩
      · exact (mem_lookups_withBlock.1 h).imp_right fun h => ⟨c, List.mem_cons_self, h⟩
      · exact .inr ⟨d, List.mem_cons_of_mem c hd, h⟩
  have hfailure : lookups (Guard.failure guard.message) = [] := by
    have hcall : Free ("fail " ++ Template.quoted guard.message).toList :=
      Template.free_append (by decide) (Template.free_quoted hmessage) (.inl rfl)
    rw [Guard.failure, lookups_verbatim, Template.valuePaths_action, Template.valuePaths_of_free hcall]
  rcases hblocks _ _ h with h | h
  · rw [hfailure] at h
    exact absurd h List.not_mem_nil
  · exact h

/-- The message of a guard is free, so only conditions look things up. -/
theorem covered_guard {guard : Guard} (hconditions : ∀ c ∈ guard.conditions, Known v c)
    (hmessage : Free guard.message.toList) : Covered v guard.entry.2 := by
  intro path hpath
  obtain ⟨c, hc, hpath⟩ := exists_of_mem_lookups_guard hmessage hpath
  exact covers_ifBlock (hconditions c hc) path hpath

/-- The switch for high availability is among the fixed values. -/
theorem known_haSwitch (hv : values m s = .ok v) : Known v haSwitch := by
  have hha : Covers v ".Values.config.HA" := covers_fixed hv (by decide)
  exact hha

/-- The number of replicas of a managed group is among the values of its size. -/
theorem known_replicaCount (hv : values m s = .ok v) (hg : g ∈ m.groups) (hr : g.Regular)
    (hmanaged : g.isManaged = true) : Known v g.replicaCount :=
  covers_count hv hg hr.name hmanaged

theorem free_digits (k : Nat) : Free (Template.digits k).toList :=
  Template.free_of_not_mem (c := '.') (by decide) (Template.dot_not_mem_digits k)

theorem free_varName (hr : g.Regular) : Free g.varName.toList :=
  Template.free_of_isStep (Template.isStep_varName hr.name)

/-- Guards on the number of replicas look up that number and the switch. -/
theorem covered_replicaGuards (hv : values m s = .ok v) (hg : g ∈ m.groups) (hr : g.Regular)
    (hmanaged : g.isManaged = true) : ∀ guard ∈ g.replicaGuards, Covered v guard.entry.2 := by
  have hcount := known_replicaCount hv hg hr hmanaged
  have hname := free_varName hr
  have hmessage : ∀ (between behind : String) (k : Nat), Free between.toList → Free behind.toList →
      Template.isOutside between.toList.head? = true → Template.isOutside between.toList.getLast? = true →
      Template.isOutside behind.toList.head? = true →
      Free (g.varName ++ between ++ Template.digits k ++ behind).toList :=
    fun between behind k hbetween hbehind hfirst hlast hnext => Template.free_append
      (Template.free_around between hname (free_digits k) hbetween hfirst hlast) hbehind (.inr hnext)
  intro guard hguard
  simp only [Group.replicaGuards, List.mem_append, List.mem_singleton] at hguard
  rcases hguard with ((hguard | hguard) | rfl) | hguard
  · split at hguard
    · exact absurd hguard List.not_mem_nil
    · obtain rfl := List.mem_singleton.1 hguard
      exact covered_guard (by simpa [Known] using hcount)
        (hmessage " must have at least " " instances" _ (by decide) (by decide) rfl rfl rfl)
  · split at hguard
    · exact absurd hguard List.not_mem_nil
    · obtain rfl := List.mem_singleton.1 hguard
      exact covered_guard (by simpa [Known] using ⟨known_haSwitch hv, hcount⟩)
        (hmessage " must have at least " " instances for HA" _ (by decide) (by decide) rfl rfl rfl)
  · exact covered_guard (by simpa [Known] using hcount)
      (hmessage " cannot have more than " " instances" _ (by decide) (by decide) rfl rfl rfl)
  · split at hguard
    · obtain rfl := List.mem_singleton.1 hguard
      exact covered_guard (by simpa [Known] using hcount)
        (Template.free_append hname (by decide) (.inr rfl))
    · exact absurd hguard List.not_mem_nil

/-- The guard on directories of the host looks up whether there are any. -/
theorem covered_hostPathGuards (hv : values m s = .ok v) (hr : g.Regular) :
    ∀ guard ∈ g.hostPathGuards, Covered v guard.entry.2 := by
  have havailable : Covers v ".Values.kube.hostpath_available" := covers_fixed hv (by decide)
  intro guard hguard
  unfold Group.hostPathGuards at hguard
  split at hguard
  · exact absurd hguard List.not_mem_nil
  · obtain rfl := List.mem_singleton.1 hguard
    exact covered_guard (by simpa [Known] using havailable)
      (Template.free_append (free_varName hr) (by decide) (.inr rfl))

/-- The guard on a moved key looks up sizing values alone. -/
theorem movedGuards_sizing {guard : Guard} (h : guard ∈ movedGuards) :
    ∀ path ∈ lookups guard.entry.2, isSizing path = true := by
  obtain ⟨key, hkey, rfl⟩ := List.mem_map.1 h
  have hdotted : ∀ key ∈ movedKeys, 'V' ∉ (".".intercalate key).toList := by decide
  have hmessage : Free (movedGuard key).message.toList := by
    refine Template.free_of_not_mem (c := 'V') (by decide) ?_
    have hbad : 'V' ∉ "Bad use of moved variable sizing.".toList := by decide
    have hnew : 'V' ∉ ". The new name to use is config.".toList := by decide
    simp only [movedGuard, String.toList_append, List.mem_append, not_or]
    exact ⟨⟨⟨hbad, hdotted key hkey⟩, hnew⟩, hdotted key hkey⟩
  have hconditions : ∀ key ∈ movedKeys, ∀ c ∈ (movedGuard key).conditions,
      ∀ path ∈ Template.valuePaths (Template.ifBlock c).toList, isSizing path = true := by decide +kernel
  intro path hpath
  obtain ⟨c, hc, hpath⟩ := exists_of_mem_lookups_guard hmessage hpath
  exact hconditions key hkey c hc path hpath

/-- Guards on moved keys are told apart by their names. -/
theorem isMovedGuard_of_mem {guard : Guard} (h : guard ∈ movedGuards) :
    isMovedGuard guard.entry.1 = true := by
  obtain ⟨key, -, rfl⟩ := List.mem_map.1 h
  rw [isMovedGuard, List.isPrefixOf_iff_prefix]
  refine ⟨("_".intercalate key).toList, ?_⟩
  rw [Guard.entry, movedGuard, String.toList_append]

/-- The guards on moved keys aside, the values have what the guards of a controller look up. -/
theorem allCovered_guards (hv : values m s = .ok v) (hg : g ∈ m.groups) (hr : g.Regular)
    {withReplicas : Bool} (hmanaged : withReplicas = true → g.isManaged = true) :
    AllCovered v ((g.guards withReplicas).map Guard.entry) := by
  unfold Group.guards
  rw [List.map_append, List.map_append]
  refine .append (.append ?_ ?_) ?_
  · refine .of_forall fun entry hentry => ?_
    obtain ⟨guard, hguard, rfl⟩ := List.mem_map.1 hentry
    split at hguard
    · next hreplicas => exact covered_replicaGuards hv hg hr (hmanaged hreplicas) guard hguard
    · exact absurd hguard List.not_mem_nil
  · intro entry hentry
    obtain ⟨guard, hguard, rfl⟩ := List.mem_map.1 hentry
    refine ⟨coveredAside_of_sizing (movedGuards_sizing hguard), fun hmoved => ?_⟩
    rw [isMovedGuard_of_mem hguard] at hmoved
    cases hmoved
  · refine .of_forall fun entry hentry => ?_
    obtain ⟨guard, hguard, rfl⟩ := List.mem_map.1 hentry
    exact covered_hostPathGuards hv hr guard hguard

/-- Guards on the number of replicas are only for groups that have one. -/
theorem allCovered_controllerHead (hv : values m s = .ok v) (hg : g ∈ m.groups) (hr : g.Regular)
    {apiVersion kind name : String} (hversion : Free apiVersion.toList) (hkind : Free kind.toList)
    (hname : Free name.toList) {withReplicas : Bool} (hmanaged : withReplicas = true → g.isManaged = true) :
    AllCovered v (g.controllerHead s apiVersion kind name withReplicas) := by
  have hgroup : ∀ name ∈ some g.name, Free name.toList := by simpa using Template.free_of_isStep hr.name
  unfold Group.controllerHead
  exact .append (.ite (fun _ => allCovered_guards hv hg hr hmanaged) fun _ => .nil)
    (allCovered_newObject hversion hkind (allCovered_objectMetadata s hname hgroup))

/-! ## Replicas -/

/-- The number that is deployed comes of the number of replicas and the switch. -/
theorem covered_replicas (hs : s.chart = true) (hv : values m s = .ok v) (hg : g ∈ m.groups)
    (hr : g.Regular) (hmanaged : g.isManaged = true) : Covered v (g.replicas s) := by
  have hcount := covers_count hv hg hr.name hmanaged
  unfold Group.replicas Group.chartReplicas
  rw [if_pos hs]
  refine covered_verbatim ?_
  simp only
  split
  · exact covers_action hcount
  · exact covers_constantIf _ ⟨known_haSwitch hv, hcount, trivial⟩ hcount

/-- So does the condition around a controller. -/
theorem covered_gate (hv : values m s = .ok v) (hg : g ∈ m.groups) (hr : g.Regular)
    (hmanaged : g.isManaged = true) {node : Node} (h : Covered v node) : Covered v (g.gate s node) := by
  unfold Group.gate Group.presence?
  split
  · next condition hcondition =>
    split at hcondition
    · obtain rfl := Option.some.inj hcondition
      exact h.wrapBlock (covers_ifBlock ⟨known_replicaCount hv hg hr hmanaged, trivial⟩)
    · cases hcondition
  · exact h

/-! ## Services -/

theorem covered_servicePort (audience : Audience) {name number : Node} {protocol : String}
    (hname : Covered v name) (hnumber : Covered v number) (hprotocol : Free protocol.toList) :
    Covered v (Service.port audience name number protocol) := by
  have htarget : Covered v (if audience = .pods then .number 0 else name) := by
    split
    · exact covered_number 0
    · exact hname
  exact covered_entries (.cons hname (.cons hnumber (.cons (covered_string hprotocol) (.single htarget))))

/-- No name of a port can be taken for a path. -/
theorem dot_not_mem_servicePorts {d : Port.Definition} {ports : List Port.Named}
    (h : d.servicePorts = .ok ports) : ∀ port ∈ ports, '.' ∉ port.name := by
  obtain ⟨named, hnamed, h⟩ := bind_eq_ok_iff.1 h
  obtain rfl := pure_eq_ok_iff.1 h
  intro port hport
  obtain ⟨i, hi, rfl⟩ := List.mem_iff_getElem.1 hport
  have hlength : i < named.length := by
    rw [List.length_zipWith] at hi
    omega
  rw [List.getElem_zipWith]
  exact dot_not_mem_containerPorts hnamed named[i] (List.getElem_mem hlength)

/-- The ports of a definition look up their number, where the values have it. -/
theorem covered_serviceDefinition (hv : values m s = .ok v) (hg : g ∈ m.groups) (hr : g.Regular)
    {definitions : List Port.Definition} (hdefinitions : g.portDefinitions = .ok definitions)
    {d : Port.Definition} (hd : d ∈ definitions) {audience : Audience} {ports : List Node}
    (h : Service.definitionPorts g s audience d = .ok ports) : ∀ port ∈ ports, Covered v port := by
  obtain ⟨hname, hprotocol⟩ := isStep_of_mem_portDefinitions hr hdefinitions hd
  unfold Service.definitionPorts at h
  split at h
  · next hcounted =>
    have hcounted : d.countIsConfigurable = true := (Bool.and_eq_true_iff.1 hcounted).2
    obtain ⟨beginning, hbeginning, h⟩ := bind_eq_ok_iff.1 h
    obtain rfl := pure_eq_ok_iff.1 h
    have hport : Covered v (Service.port audience (Pod.countedName beginning)
        (Pod.countedPort (Service.shownRange audience d).first) d.protocol) :=
      covered_servicePort audience (covered_countedName (dot_not_mem_namePrefix hbeginning))
        (covered_countedPort _) hprotocol
    intro port hmem
    rw [List.mem_singleton.1 hmem]
    exact hport.withBlock
      (covers_countBlock (covers_portCount hv hg hr.name hdefinitions hd hcounted hname))
  · -- entries that are not counted have their numbers written out, and only differ in their names
    have hnodes : ∀ named : List Port.Named, (∀ port ∈ named, '.' ∉ port.name) →
        ∀ node ∈ named.map fun p => Service.port audience (.string (String.ofList p.name)) (.number p.port)
          d.protocol, Covered v node := by
      intro named hdots node hnode
      obtain ⟨p, hp, rfl⟩ := List.mem_map.1 hnode
      exact covered_servicePort audience (covered_string (free_portName (hdots p hp)))
        (covered_number _) hprotocol
    split at h
    · obtain ⟨named, hnamed, h⟩ := bind_eq_ok_iff.1 h
      obtain rfl := pure_eq_ok_iff.1 h
      exact hnodes named (dot_not_mem_containerPorts hnamed)
    · obtain ⟨named, hnamed, h⟩ := bind_eq_ok_iff.1 h
      obtain rfl := pure_eq_ok_iff.1 h
      exact hnodes named (dot_not_mem_servicePorts hnamed)

/-- The addresses of a service come from the fixed values. -/
theorem allCovered_access (hs : s.chart = true) (hv : values m s = .ok v) (audience : Audience) :
    AllCovered v (Service.access s audience) := by
  have hinside : Covered v (.string "ClusterIP") := covered_string (by decide)
  have hnone : Covered v (.string "None") := covered_string (by decide)
  have hbalanced : Covers v ".Values.services.loadbalanced" := covers_fixed hv (by decide)
  have hips : Covers v ".Values.kube.external_ips | toJson" := covers_fixed hv (by decide)
  cases audience with
  | cluster => exact .single hinside
  | pods => exact .cons hinside (.single hnone)
  | everyone =>
    have htype : Covers v
        (Template.choose (.path ".Values.services.loadbalanced") "LoadBalancer" "ClusterIP") :=
      covers_choose hbalanced (covers_of_free (by decide)) (covers_of_free (by decide))
    unfold Service.access
    simp only [hs, if_true]
    exact .cons (covered_verbatim htype)
      (.single ((covered_verbatim (covers_action hips)).withBlock (covers_ifBlock hbalanced)))

theorem covered_servicePorts (hv : values m s = .ok v) (hg : g ∈ m.groups) (hr : g.Regular)
    {audience : Audience} {ports : List Node} (h : Service.ports g s audience = .ok ports) :
    ∀ port ∈ ports, Covered v port := by
  obtain ⟨definitions, hdefinitions, h⟩ := bind_eq_ok_iff.1 h
  obtain ⟨found, hfound, h⟩ := bind_eq_ok_iff.1 h
  obtain rfl := pure_eq_ok_iff.1 h
  intro port hport
  obtain ⟨some, hsome, hport⟩ := List.mem_flatten.1 hport
  obtain ⟨d, hd, hports⟩ := exists_of_mem_mapM hfound hsome
  exact covered_serviceDefinition hv hg hr hdefinitions (List.mem_filter.1 hd).1 hports port hport

/-- The name of a service is that of the group and a word. -/
theorem free_nameFor (hr : g.Regular) (audience : Audience) :
    Free (Service.nameFor g.name audience).toList := by
  have hname : Free g.name.toList := Template.free_of_isStep hr.name
  cases audience with
  | cluster => exact hname
  | everyone => exact Template.free_append hname (by decide) (.inr rfl)
  | pods => exact Template.free_append hname (by decide) (.inr rfl)

/-- The values have what a service looks up. -/
theorem covered_service (hs : s.chart = true) (hv : values m s = .ok v) (hg : g ∈ m.groups)
    (hr : g.Regular) {audience : Audience} {found : Option Node} (h : service? g s audience = .ok found) :
    ∀ node ∈ found, Covered v node := by
  obtain ⟨ports, hports, h⟩ := bind_eq_ok_iff.1 h
  have hname : Free g.name.toList := Template.free_of_isStep hr.name
  have hgroup : ∀ name ∈ some g.name, Free name.toList := by simpa using hname
  have hselector : Covered v (.entries [(roleLabel, .string g.name)]) :=
    covered_entries (.single (covered_string hname))
  split at h
  · obtain rfl := pure_eq_ok_iff.1 h
    simp
  · obtain rfl := pure_eq_ok_iff.1 h
    intro node hnode
    obtain rfl := Option.some.inj hnode
    refine covered_entries (.append ?_ (.single (covered_entries (.append ?_ ?_))))
    · exact allCovered_newObject (by decide) (by decide)
        (allCovered_objectMetadata s (free_nameFor hr audience) hgroup)
    · exact allCovered_access hs hv audience
    · exact .cons (covered_items (covered_servicePorts hv hg hr hports)) (.single hselector)

/-- The services of a managed group stand in the condition of its controller. -/
theorem covered_services (hs : s.chart = true) (hv : values m s = .ok v) (hg : g ∈ m.groups)
    (hr : g.Regular) (hmanaged : g.isManaged = true) {audiences : List Audience} {services : List Node}
    (h : g.services s audiences = .ok services) : ∀ node ∈ services, Covered v node := by
  obtain ⟨found, hfound, h⟩ := bind_eq_ok_iff.1 h
  obtain rfl := pure_eq_ok_iff.1 h
  intro node hnode
  obtain ⟨service, hservice, rfl⟩ := List.mem_map.1 hnode
  obtain ⟨_, hmem, rfl⟩ := List.mem_filterMap.1 hservice
  obtain ⟨audience, -, hservice⟩ := exists_of_mem_mapM hfound hmem
  exact covered_gate hv hg hr hmanaged (covered_service hs hv hg hr hservice service rfl)

/-! ## Controllers -/

theorem covered_roleSelector (hr : g.Regular) : Covered v (.entries (roleSelector g.name)) :=
  covered_entries (.single (covered_entries (.single
    (covered_string (Template.free_of_isStep hr.name)))))

/-- A claim looks up the size of its disk and the class of its kind. -/
theorem covered_volumeClaim (hs : s.chart = true) (hv : values m s = .ok v) (hg : g ∈ m.groups)
    (hr : g.Regular) {volume : Volume} (hvolume : volume ∈ g.claimVolumes) :
    Covered v (g.volumeClaim s volume) := by
  have hmem : volume ∈ g.run.volumes := (List.mem_filter.1 hvolume).1
  have htag := hr.tags volume hmem
  have hdisk := covers_diskSize hv hg hr.name hvolume htag
  have hunit : Covers v "Gi" := covers_of_unpromised (by decide)
  have hsize : Covered v (.verbatim
      (action (sizingPath g.varName ("disk_sizes." ++ varName volume.tag)) ++ "Gi")) :=
    covered_verbatim (covers_append (covers_action hdisk) hunit (.inl (endsWord_action _)))
  have hname : Covered v (.entries [("name", .string volume.tag)]) :=
    covered_entries (.single (covered_string (Template.free_of_isStep htag)))
  have hclaim : ∀ mode more, Free mode.toList → AllCovered v more → Covered v (.entries
      [("metadata", .entries [("name", .string volume.tag)]), ("spec", .entries ([
        ("accessModes", .items [.string mode]),
        ("resources", .entries [("requests", .entries [("storage", .verbatim
          (action (sizingPath g.varName ("disk_sizes." ++ varName volume.tag)) ++ "Gi"))])])] ++ more))]) := by
    intro mode more hmode hmore
    exact covered_entries (.cons hname (.single (covered_entries (.append
      (.cons (covered_singleton (covered_string hmode)) (.single (covered_entries (.single
        (covered_entries (.single hsize)))))) hmore))))
  unfold Group.volumeClaim
  simp only [hs, if_true]
  cases hdeclared : volume.storageClass with
  | none =>
    -- the fixed values name a class for each kind of claim
    by_cases hshared : volume.kind = .shared
    · rw [if_pos hshared]
      exact hclaim _ _ (by decide) (.single (covered_verbatim (covers_action (covers_fixed hv (by decide)))))
    · rw [if_neg hshared]
      exact hclaim _ _ (by decide) (.single (covered_verbatim (covers_action (covers_fixed hv (by decide)))))
  | some declared =>
    refine hclaim _ _ ?_ (.single (covered_string ((hr.volume hmem).2 declared hdeclared)))
    split
    · exact (by decide : Free "ReadWriteMany".toList)
    · exact (by decide : Free "ReadWriteOnce".toList)

theorem covered_template (hs : s.chart = true) (hrepository : Free s.repository.toList) (hm : m.Regular)
    (hv : values m s = .ok v) (hg : g ∈ m.groups) {template : Mapping}
    (h : Pod.podTemplate m s g = .ok template) : Covered v (.entries template) := by
  obtain ⟨metadata, spec, rfl, hmetadata, hspec⟩ := podTemplate_parts hs hrepository hm hv hg h
  exact covered_entries (.cons (covered_entries hmetadata) (.single (covered_entries hspec)))

/-- The values have what a deployment and its services look up. -/
theorem covered_deployment (hs : s.chart = true) (hrepository : Free s.repository.toList) (hm : m.Regular)
    (hv : values m s = .ok v) (hg : g ∈ m.groups) (hmanaged : g.isManaged = true) {r : GroupResources}
    (h : g.deployment m s = .ok r) : ∀ node ∈ r.documents, Covered v node := by
  obtain ⟨template, htemplate, h⟩ := bind_eq_ok_iff.1 h
  obtain ⟨services, hservices, h⟩ := bind_eq_ok_iff.1 h
  obtain rfl := pure_eq_ok_iff.1 h
  have hr := hm.groups g hg
  have hspec : AllCovered v [("replicas", g.replicas s), ("selector", .entries (roleSelector g.name)),
      ("template", .entries template)] :=
    .cons (covered_replicas hs hv hg hr hmanaged) (.cons (covered_roleSelector hr)
      (.single (covered_template hs hrepository hm hv hg htemplate)))
  have hhead : AllCovered v (g.controllerHead s "apps/v1" "Deployment" g.name true) :=
    allCovered_controllerHead hv hg hr (by decide) (by decide) (Template.free_of_isStep hr.name)
      fun _ => hmanaged
  rw [GroupResources.documents, List.forall_mem_cons]
  exact ⟨covered_gate hv hg hr hmanaged (covered_entries (hhead.append (.single (covered_entries hspec)))),
    covered_services hs hv hg hr hmanaged hservices⟩

/-- The values have what a stateful set, its claims and its services look up. -/
theorem covered_statefulSet (hs : s.chart = true) (hrepository : Free s.repository.toList) (hm : m.Regular)
    (hv : values m s = .ok v) (hg : g ∈ m.groups) (hmanaged : g.isManaged = true) {r : GroupResources}
    (h : g.statefulSet m s = .ok r) : ∀ node ∈ r.documents, Covered v node := by
  obtain ⟨template, htemplate, h⟩ := bind_eq_ok_iff.1 h
  obtain ⟨services, hservices, h⟩ := bind_eq_ok_iff.1 h
  obtain rfl := pure_eq_ok_iff.1 h
  have hr := hm.groups g hg
  have hpolicy : Covered v (.string "Parallel") := covered_string (by decide)
  have hclaims : ∀ claim ∈ g.claimVolumes.map (g.volumeClaim s), Covered v claim := by
    intro claim hclaim
    obtain ⟨volume, hvolume, rfl⟩ := List.mem_map.1 hclaim
    exact covered_volumeClaim hs hv hg hr hvolume
  have hspec : AllCovered v ([("podManagementPolicy", .string "Parallel"), ("replicas", g.replicas s),
      ("serviceName", .string (Service.nameFor g.name .pods)),
      ("selector", .entries (roleSelector g.name)), ("template", .entries template)]
      ++ Pod.listEntry "volumeClaimTemplates" (g.claimVolumes.map (g.volumeClaim s))) :=
    .append (.cons hpolicy (.cons (covered_replicas hs hv hg hr hmanaged)
      (.cons (covered_string (free_nameFor hr .pods)) (.cons (covered_roleSelector hr)
        (.single (covered_template hs hrepository hm hv hg htemplate))))))
      (allCovered_listEntry "volumeClaimTemplates" hclaims)
  have hhead : AllCovered v (g.controllerHead s "apps/v1" "StatefulSet" g.name true) :=
    allCovered_controllerHead hv hg hr (by decide) (by decide) (Template.free_of_isStep hr.name)
      fun _ => hmanaged
  rw [GroupResources.documents, List.forall_mem_cons]
  exact ⟨covered_gate hv hg hr hmanaged (covered_entries (hhead.append (.single (covered_entries hspec)))),
    covered_services hs hv hg hr hmanaged hservices⟩

/-- The pods of a job are started again by a policy of its own, and the rest of their template stays. -/
theorem setPath_restartPolicy {metadata spec result : Mapping} {policy : Node}
    (h : Mapping.setPath [("metadata", .entries metadata), ("spec", .entries spec)] ["spec", "restartPolicy"]
      policy = .ok result) :
    result = [("metadata", .entries metadata),
      ("spec", .entries (Mapping.replace spec "restartPolicy" policy).2)] := by
  simpa [Mapping.setPath, Mapping.setPath?, Mapping.position?, List.findIdx?_cons, Node.entries, eq_comm]
    using h

/-- The values have what a job looks up, behind a policy of its own. -/
theorem covered_job (hs : s.chart = true) (hrepository : Free s.repository.toList) (hm : m.Regular)
    (hv : values m s = .ok v) (hg : g ∈ m.groups) {r : GroupResources} (h : g.job m s = .ok r) :
    ∀ node ∈ r.documents, Covered v node := by
  obtain ⟨policy, hpolicy, h⟩ := bind_eq_ok_iff.1 h
  obtain ⟨template, htemplate, h⟩ := bind_eq_ok_iff.1 h
  obtain ⟨restarting, hset, h⟩ := bind_eq_ok_iff.1 h
  obtain rfl := pure_eq_ok_iff.1 h
  have hr := hm.groups g hg
  obtain ⟨metadata, spec, rfl, hmetadata, hspec⟩ := podTemplate_parts hs hrepository hm hv hg htemplate
  obtain rfl := setPath_restartPolicy (mapError_eq_ok_iff.1 hset)
  have hpolicy : Covered v (.string policy) := by
    obtain ⟨-, rfl⟩ := Group.restartPolicy_eq_ok_iff.1 hpolicy
    split
    · exact covered_string (by decide)
    · exact covered_string (by decide)
  have hname : Free (g.jobName s).toList := by
    have hrevision : Free (action ".Release.Revision").toList := by decide
    unfold Group.jobName
    rw [if_pos hs]
    exact Template.free_around "-" (Template.free_of_isStep hr.name) hrevision (by decide) rfl rfl
  have htemplate : AllCovered v [("metadata", .entries metadata),
      ("spec", .entries (Mapping.replace spec "restartPolicy" (.string policy)).2)] :=
    .cons (covered_entries hmetadata) (.single (covered_entries (hspec.replace hpolicy)))
  have hhead : AllCovered v (g.controllerHead s "batch/v1" "Job" (g.jobName s) false) :=
    allCovered_controllerHead hv hg hr (by decide) (by decide) hname
      fun hreplicas => absurd hreplicas (by decide)
  rw [GroupResources.documents, List.forall_mem_cons]
  exact ⟨covered_entries (hhead.append (.single (covered_entries (.single (covered_entries htemplate))))),
    by simp⟩

/-- The values have what the controller of a group and its services look up. -/
theorem covered_resources (hs : s.chart = true) (hrepository : Free s.repository.toList) (hm : m.Regular)
    (hv : values m s = .ok v) (hg : g ∈ m.groups) {r : GroupResources}
    (h : g.resources m s = .ok (some r)) : ∀ node ∈ r.documents, Covered v node := by
  unfold Group.resources at h
  cases hw : g.workload? with
  | none => simp [hw] at h
  | some workload =>
    have hmanaged : workload ≠ .job → g.isManaged = true := by
      unfold Group.workload? at hw
      unfold Group.isManaged
      cases hk : g.kind with
      | service => exact fun _ => rfl
      | task =>
        simp only [hk, Option.some.injEq] at hw
        exact fun hne => absurd hw.symm hne
      | colocated => simp [hk] at hw
    simp only [hw] at h
    cases workload with
    | deployment =>
      obtain ⟨r', hr', h⟩ := map_eq_ok_iff.1 h
      obtain rfl := Option.some.inj h
      exact covered_deployment hs hrepository hm hv hg (hmanaged (by decide)) hr'
    | statefulSet =>
      obtain ⟨r', hr', h⟩ := map_eq_ok_iff.1 h
      obtain rfl := Option.some.inj h
      exact covered_statefulSet hs hrepository hm hv hg (hmanaged (by decide)) hr'
    | job =>
      obtain ⟨r', hr', h⟩ := map_eq_ok_iff.1 h
      obtain rfl := Option.some.inj h
      exact covered_job hs hrepository hm hv hg hr'

end RoleChart.Chart
