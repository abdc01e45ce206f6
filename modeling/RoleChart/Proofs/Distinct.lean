import RoleChart.Files
import RoleChart.Proofs.Chart.Values
import RoleChart.Proofs.Document.Distinct
import RoleChart.Proofs.Pod.Fields
import RoleChart.Proofs.Workload.Coverage

/-!
# No name twice in any document

A mapping refuses a name that it has, and a refusal ends the build. The names that builders put together
themselves are fixed and differ from each other, whatever the manifest and the settings are. So a refusal can
only come from names of the manifest.

## Main statements

* `Group.distinct_resources` — the documents of a group have no double names
* `distinct_resourceFiles` — nor has any other document
* `Chart.distinct_values` — nor have the values of a chart
-/

namespace RoleChart

open RoleChart.Document RoleChart.Document.Node RoleChart.Built
open Template (action)

variable {m : Manifest} {s : Settings} {g : Group}

/-! ## Heads of objects -/

/-- The names at the head of an object. -/
def headNames : List String := ["apiVersion", "kind", "metadata"]

/-- The label of the group and those of a release have names of their own. -/
theorem distinct_labels (s : Settings) (group : Option String) : (Node.entries (labels s group)).Distinct := by
  have hrelease : Mapping.Among (Mapping.names releaseLabels) releaseLabels := by
    refine .self ?_
    simp [releaseLabels, distinct_verbatim]
  have hgroup : Mapping.Among [roleLabel] (group.toList.map fun name => (roleLabel, Node.string name)) := by
    cases group with
    | none => exact .nil
    | some name => exact .single (distinct_string name)
  exact .entries (hgroup.append (.ite hrelease .nil)) (by decide)

/-- The metadata of an object hold its name and its labels, and nothing else. -/
theorem among_objectMetadata (s : Settings) (name : String) (group : Option String) :
    Mapping.Among ["name", "labels"] (objectMetadata s name group) :=
  .cons (distinct_string name) (.ite .nil (.single (distinct_labels s group)))

/-- An object begins with the three names of its head, each of them once. -/
theorem among_newObject (s : Settings) (apiVersion kind name : String) (group : Option String) :
    Mapping.Among headNames (newObject apiVersion kind (objectMetadata s name group)) :=
  .cons (distinct_string apiVersion) <| .cons (distinct_string kind) <|
    .single (.entries (among_objectMetadata s name group) (by decide))

/-! ## Containers -/

namespace Pod

/-- A list is one entry, or none if nothing is in it. -/
theorem among_listEntry (name : String) {nodes : List Node} (h : ∀ n ∈ nodes, n.Distinct) :
    Mapping.Among [name] (listEntry name nodes) :=
  .ite .nil (.single (.items h))

/-- A mapping is one entry, or none if nothing is in it. -/
theorem among_mappingEntry (name : String) {entries : Mapping} (h : (Node.entries entries).Distinct) :
    Mapping.Among [name] (mappingEntry name entries) :=
  .ite .nil (.single h)

theorem distinct_containerPort {number name : Node} (protocol : String) (hnumber : number.Distinct)
    (hname : name.Distinct) : (containerPort number name protocol).Distinct :=
  .entries (.cons hnumber (.cons hname (.single (distinct_string protocol)))) (by decide)

/-- The ports of a definition, whether they are numbered here or counted in the chart. -/
theorem distinct_definitionPorts {d : Port.Definition} {ports : List Node}
    (h : definitionPorts g s d = .ok ports) : ∀ port ∈ ports, port.Distinct := by
  unfold definitionPorts at h
  split at h
  · obtain ⟨beginning, -, h⟩ := bind_eq_ok_iff.1 h
    obtain rfl := pure_eq_ok_iff.1 h
    have hport : (containerPort (countedPort d.internal.first) (countedName beginning) d.protocol).Distinct :=
      distinct_containerPort d.protocol (distinct_verbatim _) (distinct_verbatim _)
    simpa using hport.withBlock _
  · obtain ⟨named, -, h⟩ := bind_eq_ok_iff.1 h
    obtain rfl := pure_eq_ok_iff.1 h
    refine List.forall_mem_map.2 fun p _ => ?_
    exact distinct_containerPort d.protocol (distinct_number p.port) (distinct_string _)

theorem distinct_containerPorts {ports : List Node} (h : containerPorts g s = .ok ports) :
    ∀ port ∈ ports, port.Distinct := by
  obtain ⟨definitions, -, h⟩ := bind_eq_ok_iff.1 h
  obtain ⟨found, hfound, h⟩ := bind_eq_ok_iff.1 h
  obtain rfl := pure_eq_ok_iff.1 h
  intro port hport
  obtain ⟨part, hpart, hport⟩ := List.mem_flatten.1 hport
  obtain ⟨d, -, hd⟩ := exists_of_mem_mapM hfound hpart
  exact distinct_definitionPorts hd port hport

theorem distinct_envValue (name : String) {value : Node} (h : value.Distinct) :
    (envValue name value).Distinct :=
  .entries (.cons (distinct_string name) (.single h)) (by decide)

/-- The reference to a secret is four mappings inside each other, and none of them has a name twice. -/
theorem distinct_envSecret (s : Settings) (v : Variable) : (envSecret s v).Distinct := by
  have hkey : (Node.entries [("key", .string (secretKey v.name)),
      ("name", .string (v.secretName s))]).Distinct :=
    .entries (.cons (distinct_string _) (.single (distinct_string _))) (by decide)
  have hfrom : (Node.entries [("secretKeyRef", Node.entries
      [("key", .string (secretKey v.name)), ("name", .string (v.secretName s))])]).Distinct :=
    .entries (.single hkey) (by decide)
  exact .entries (.cons (distinct_string v.name) (.single hfrom)) (by decide)

/-- An entry of the environment is made in one of four ways. Each has a name and one place for the value. -/
theorem distinct_envEntry {v : Variable} {found : Option Node} (h : envEntry m s v = .ok found) :
    ∀ node ∈ found, node.Distinct := by
  have hcases := envEntry_cases m s v
  rw [h] at hcases
  intro node hnode
  cases hcases with
  | sized =>
    cases hnode
    exact distinct_envValue v.name (.ite (distinct_verbatim _) (distinct_string _))
  | secret =>
    cases hnode
    exact distinct_envSecret s v
  | chart =>
    cases hnode
    exact distinct_envValue v.name (distinct_verbatim _)
  | plain =>
    obtain ⟨text, -, rfl⟩ := Option.map_eq_some_iff.1 hnode
    exact distinct_envValue v.name (distinct_literal text)

theorem distinct_namespaceEntry : namespaceEntry.Distinct := by
  have hfield : (Node.entries [("fieldPath", .string "metadata.namespace")]).Distinct :=
    .entries (.single (distinct_string _)) (by decide)
  have hfrom : (Node.entries [("fieldRef",
      Node.entries [("fieldPath", .string "metadata.namespace")])]).Distinct :=
    .entries (.single hfield) (by decide)
  exact .entries (.cons (distinct_string _) (.single hfrom)) (by decide)

/-- What holds of the entry of each variable, and of the namespace, holds of the environment. -/
theorem distinct_environment {env : List Node} (h : environment m s g = .ok env) :
    ∀ node ∈ env, node.Distinct := by
  intro node hnode
  rcases exists_of_mem_environment h hnode with ⟨v, -, -, hv⟩ | rfl
  · exact distinct_envEntry hv node rfl
  · exact distinct_namespaceEntry

theorem distinct_mounts (g : Group) : ∀ node ∈ mounts g, node.Distinct := by
  refine List.forall_mem_map.2 fun v _ => ?_
  exact .entries (.cons (distinct_string _) (.cons (distinct_string _) (.single (distinct_flag _)))) (by decide)

/-- A volume has its tag, and a directory of the host or an empty one. -/
theorem distinct_podVolume (v : Volume) : (podVolume v).Distinct := by
  unfold podVolume
  split
  · have hhost : (Node.entries [("path", .string v.path), ("type", .string "Directory")]).Distinct :=
      .entries (.cons (distinct_string _) (.single (distinct_string _))) (by decide)
    exact .entries (.cons (distinct_string v.tag) (.single hhost)) (by decide)
  · exact .entries (.cons (distinct_string v.tag) (.single (.entries .nil List.nodup_nil))) (by decide)

theorem distinct_podVolumes (groups : List Group) : ∀ node ∈ podVolumes groups, node.Distinct :=
  List.forall_mem_map.2 fun v _ => distinct_podVolume v

/-! ## Resources and capabilities -/

/-- An amount is there or it is not, under the name of what is measured. -/
theorem among_amount (name unit : String) (k : Option Nat) : Mapping.Among [name] (amount name unit k) := by
  cases k with
  | none => exact .nil
  | some k => exact .single (distinct_string _)

/-- Memory and processors are left out or taken in by switches of their own, so both cannot get one name. -/
theorem distinct_chartAmounts (group level : String) (s : Settings) :
    (Node.entries (((if s.memoryLimits then [("memory", "Mi")] else [])
      ++ if s.cpuLimits then [("cpu", "m")] else []).map fun kind =>
        chartAmount group level kind.1 kind.2)).Distinct := by
  have hamount (kind unit : String) : (chartAmount group level kind unit).2.Distinct :=
    (distinct_verbatim _).withBlock _
  have hnames : Mapping.Among ["memory", "cpu"] (((if s.memoryLimits then [("memory", "Mi")] else [])
      ++ if s.cpuLimits then [("cpu", "m")] else []).map fun kind =>
        chartAmount group level kind.1 kind.2) := by
    rw [List.map_append]
    have hone (on : Bool) (kind unit : String) : Mapping.Among [kind]
        ((if on then [(kind, unit)] else []).map fun kind => chartAmount group level kind.1 kind.2) := by
      cases on with
      | true => exact .single (hamount _ _)
      | false => exact .nil
    exact (hone s.memoryLimits "memory" "Mi").append (hone s.cpuLimits "cpu" "m")
  exact .entries hnames (by decide)

/-- Requests and limits stand side by side, in a chart and outside of one. -/
theorem distinct_resources (g : Group) (s : Settings) : (Node.entries (resources g s)).Distinct := by
  have hkinds : ["requests", "limits"].Nodup := by decide
  unfold resources
  split
  · unfold chartResources
    have hlevels : Mapping.Among ["requests", "limits"] (["requests", "limits"].map fun level =>
        (level, Node.entries (((if s.memoryLimits then [("memory", "Mi")] else [])
          ++ if s.cpuLimits then [("cpu", "m")] else []).map fun kind =>
            chartAmount g.varName level kind.1 kind.2))) :=
      .cons (distinct_chartAmounts _ _ _) (.single (distinct_chartAmounts _ _ _))
    exact .entries (.ite .nil hlevels) hkinds
  · have hamounts (memory cpu : Option Nat) :
        (Node.entries (amount "memory" "Mi" memory ++ amount "cpu" "m" cpu)).Distinct :=
      .entries ((among_amount _ _ _).append (among_amount _ _ _)) (by decide)
    exact .entries (Mapping.Among.append (.ite .nil (.single (hamounts _ _)))
      (.ite .nil (.single (hamounts _ _)))) hkinds

/-- A container is privileged or has a list of capabilities, and a chart lists both behind conditions. -/
theorem distinct_securityContext (g : Group) (s : Settings) :
    (Node.entries (securityContext g s)).Distinct := by
  have hcapabilities {nodes : List Node} (h : ∀ n ∈ nodes, n.Distinct) :
      (Node.entries [("add", .items nodes)]).Distinct := .entries (.single (.items h)) (by decide)
  have hadd : ∀ n ∈ (g.run.capabilities.map fun c => String.ofList (Text.upper c.toList)).map Node.string,
      n.Distinct := List.forall_mem_map.2 fun _ _ => distinct_string _
  have hnames : Mapping.Among ["privileged", "capabilities"] (securityContext g s) := by
    unfold securityContext
    refine .ite (.cons (distinct_flag _) .nil) (.ite ?_ ?_)
    · split
      · exact .nil
      · exact ⟨(List.Sublist.refl _).cons _, by simpa using hcapabilities hadd⟩
    · refine .cons ((distinct_flag _).withBlock _) (.single (.withBlock (hcapabilities ?_) _))
      exact List.forall_mem_append.2 ⟨hadd, by simpa using (distinct_verbatim _).withBlock _⟩
  exact .entries hnames (by decide)

/-! ## Probes -/

theorem distinct_header (name value : String) : (header name value).Distinct :=
  .entries (.cons (distinct_string name) (.single (distinct_string value))) (by decide)

/-- The host is the one entry of a request that can be missing. -/
theorem distinct_httpGet (secure : Bool) (a : Url.WebAddress) (headers : List (String × String)) :
    (Node.entries (httpGet secure a headers)).Distinct := by
  have hheaders : ∀ n ∈ authorization a ++ headers.map (fun pair =>
      header (String.ofList (canonicalHeader pair.1.toList)) pair.2), n.Distinct := by
    refine List.forall_mem_append.2 ⟨?_, List.forall_mem_map.2 fun _ _ => distinct_header _ _⟩
    unfold authorization
    split
    · simpa using distinct_header _ _
    · split
      · simp
      · simpa using distinct_header _ _
  have hfront : Mapping.Among ["scheme", "host", "port", "path"]
      ([("scheme", .string (if secure then "HTTPS" else "HTTP"))]
        ++ (if a.host = ownAddress then [] else [("host", .string a.host)])
        ++ [("port", .number (a.port.getD (if secure then 443 else 80))),
          ("path", .string (a.path ++ (a.query.map ("?" ++ ·)).getD ""))]) :=
    Mapping.Among.append
      (Mapping.Among.append (.single (distinct_string _)) (.ite .nil (.single (distinct_string _))))
      (.cons (distinct_number _) (.single (distinct_string _)))
  exact .entries (hfront.append (.ite .nil (.single (.items hheaders)))) (by decide)

/-- The names of the timings of a probe. -/
def timingNames : List String :=
  ["initialDelaySeconds", "timeoutSeconds", "periodSeconds", "successThreshold", "failureThreshold"]

/-- The timings are some of the five that there are, in their order. -/
theorem among_timings (kind : ProbeKind) (p : Probe) : Mapping.Among timingNames (timings kind p) := by
  unfold timings
  refine ⟨?_, List.forall_mem_map.2 fun _ _ => distinct_number _⟩
  rw [Mapping.names, List.map_map]
  exact List.filter_sublist.map Prod.fst

/-- Whether an entry can stand in front of the timings of a probe. -/
def IsAction (action : String × Node) : Prop := action.1 ∉ timingNames ∧ action.2.Distinct

theorem isAction_tcpSocket (port : Nat) : IsAction (tcpSocket port) :=
  ⟨by simp [timingNames, tcpSocket], .entries (.single (distinct_number port)) (by decide)⟩

/-- No declared action has the name of a timing. -/
theorem isAction_of_declaredAction? {kind : ProbeKind} {p : Probe} {action : String × Node}
    (h : declaredAction? g kind p = .ok (some action)) : IsAction action := by
  rcases declaredAction?_ok h with ⟨url, secure, a, -, -, rfl⟩ | ⟨-, port, -, rfl⟩ | ⟨-, -, rfl⟩
  · exact ⟨by simp [timingNames], distinct_httpGet _ _ _⟩
  · exact isAction_tcpSocket port
  · refine ⟨by simp [timingNames], .entries (.single (.items ?_)) (by decide)⟩
    exact List.forall_mem_map.2 fun _ _ => distinct_string _

/-- So the action of a probe stands in front of its timings without a clash. -/
theorem distinct_probe {kind : ProbeKind} {found : Option Node} (h : probe? g kind = .ok found) :
    ∀ node ∈ found, node.Distinct := by
  obtain ⟨action?, rfl, haction⟩ := probe?_ok h
  intro node hnode
  obtain ⟨action, hmem, rfl⟩ := Option.map_eq_some_iff.1 hnode
  obtain ⟨hname, hdistinct⟩ : IsAction action := by
    rcases haction with hdeclared | ⟨-, own, -, rfl⟩
    · exact isAction_of_declaredAction? (hmem ▸ hdeclared)
    · obtain ⟨port, -, rfl⟩ := Option.map_eq_some_iff.1 hmem
      exact isAction_tcpSocket port
  exact .entries ((among_timings kind _).cons (k := action.1) hdistinct)
    (List.nodup_cons.2 ⟨hname, by decide⟩)

/-- A container has at most one probe of a kind, under the name of the kind. -/
theorem among_probeEntry {kind : ProbeKind} {entries : Mapping} (h : probeEntry g kind = .ok entries) :
    Mapping.Among [kind.field] entries := by
  obtain ⟨found, hfound, h⟩ := bind_eq_ok_iff.1 h
  obtain rfl := pure_eq_ok_iff.1 h
  exact .optional (distinct_probe hfound)

theorem distinct_lifecycle : lifecycle.Distinct := by
  have hcommand : (Node.entries [("command", .items [.string preStopScript])]).Distinct :=
    .entries (.single (.single (distinct_string _))) (by decide)
  have hexec : (Node.entries [("exec",
      Node.entries [("command", .items [.string preStopScript])])]).Distinct :=
    .entries (.single hcommand) (by decide)
  exact .entries (.single hexec) (by decide)

/-- The names of the entries of a container. -/
def containerNames : List String :=
  ["name", "image", "ports", "env", "volumeMounts", "resources", "securityContext", "livenessProbe",
    "readinessProbe", "lifecycle"]

/-- What a container consists of: ten parts, each under a name of its own, where some can be missing. -/
theorem among_container {c : Node} (h : container m s g = .ok c) :
    ∃ entries, c = .entries entries ∧ Mapping.Among containerNames entries := by
  obtain ⟨image, ports, env, liveness, readiness, -, hports, henv, hl, hr, rfl⟩ := container_ok h
  have hfront : Mapping.Among ["name", "image"] [("name", .string g.name), ("image", .verbatim image)] :=
    .cons (distinct_string _) (.single (distinct_verbatim _))
  exact ⟨_, rfl, (((((((hfront.append (among_listEntry "ports" (distinct_containerPorts hports))).append
    (.single (k := "env") (.items (distinct_environment henv)))).append
    (among_listEntry "volumeMounts" (distinct_mounts g))).append
    (among_mappingEntry "resources" (distinct_resources g s))).append
    (among_mappingEntry "securityContext" (distinct_securityContext g s))).append
    (among_probeEntry hl)).append (among_probeEntry hr)).append
    (.single (k := "lifecycle") distinct_lifecycle)⟩

theorem distinct_container {c : Node} (h : container m s g = .ok c) : c.Distinct := by
  obtain ⟨entries, rfl, hentries⟩ := among_container h
  exact .entries hentries (by decide)

/-! ## Pods -/

/-- The affinity to pods comes from the manifest as it is, and the one to nodes only in a chart. -/
theorem distinct_affinity {found : Option Node} (h : affinity? g s = .ok found) :
    ∀ node ∈ found, node.Distinct := by
  have hnodes := (distinct_verbatim (action ("toJson "
    ++ sizingPath g.varName "affinity.nodeAffinity"))).withBlock
    (Template.ifBlock (.path (sizingPath g.varName "affinity.nodeAffinity")))
  have hapart : Mapping.Among ["podAntiAffinity"] ((g.run.affinity.getD {}).podAntiAffinity.toList.map
      fun value => ("podAntiAffinity", Node.ofValue value)) := by
    cases (g.run.affinity.getD {}).podAntiAffinity with
    | none => exact .nil
    | some value => exact .single (distinct_ofValue value)
  unfold affinity? at h
  simp only at h
  split at h
  · obtain ⟨_, hthrown, -⟩ := bind_eq_ok_iff.1 h
    cases hthrown
  split at h
  · obtain ⟨_, hthrown, -⟩ := bind_eq_ok_iff.1 h
    cases hthrown
  · obtain rfl := pure_eq_ok_iff.1 h
    intro node hnode
    obtain ⟨-, hnode⟩ := Option.ite_none_left_eq_some.1 hnode
    obtain rfl := Option.some.inj hnode
    exact .entries (hapart.append (.ite (.single hnodes) .nil)) (by decide)

theorem distinct_serviceAccount (g : Group) (s : Settings) : ∀ node ∈ serviceAccount g s, node.Distinct := by
  intro node hnode
  obtain ⟨account, -, hnode⟩ := Option.bind_eq_some_iff.1 hnode
  split at hnode
  · obtain rfl := Option.some.inj hnode
    exact distinct_verbatim _
  · split at hnode
    · obtain rfl := Option.some.inj hnode
      exact distinct_string _
    · cases hnode

/-- The names in the specification of pods. -/
def specNames : List String :=
  ["containers", "imagePullSecrets", "dnsPolicy", "restartPolicy", "terminationGracePeriodSeconds", "volumes",
    "affinity", "serviceAccountName"]

/-- The specification of pods has eight parts at most, for any number of colocated groups. -/
theorem among_podSpec {spec : Mapping} (h : podSpec m s g = .ok spec) : Mapping.Among specNames spec := by
  obtain ⟨others, hothers, h⟩ := bind_eq_ok_iff.1 h
  obtain ⟨containers, hcontainers, h⟩ := bind_eq_ok_iff.1 h
  obtain ⟨affinity, haffinity, h⟩ := bind_eq_ok_iff.1 h
  obtain rfl := pure_eq_ok_iff.1 h
  have hcontainer : ∀ c ∈ containers, c.Distinct := by
    intro c hc
    obtain ⟨g', -, hg'⟩ := exists_of_mem_mapM hcontainers hc
    exact distinct_container hg'
  have hsecret : (Node.entries [("name", .string registryCredentialsName)]).Distinct :=
    .entries (.single (distinct_string _)) (by decide)
  have hfront := Mapping.Among.cons (k := "containers") (.items hcontainer) <|
    .cons (k := "imagePullSecrets") (.single hsecret) <|
    .cons (k := "dnsPolicy") (distinct_string "ClusterFirst") <|
    .cons (k := "restartPolicy") (distinct_string "Always") <|
    .single (k := "terminationGracePeriodSeconds") (distinct_number gracePeriod)
  exact ((hfront.append (among_listEntry "volumes" (distinct_podVolumes _))).append
    (.optional (distinct_affinity haffinity))).append (.optional (distinct_serviceAccount g s))

theorem distinct_podMetadata (s : Settings) (g : Group) : (Node.entries (podMetadata s g)).Distinct := by
  have hchecksum : (Node.entries [("checksum/config", secretsChecksum)]).Distinct :=
    .entries (.single (distinct_verbatim _)) (by decide)
  have hfront := Mapping.Among.cons (k := "name") (distinct_string g.name) <|
    .single (k := "labels") (distinct_labels s (some g.name))
  exact .entries (hfront.append (.ite (.single hchecksum) .nil)) (by decide)

/-- The template of pods has metadata and a specification. -/
theorem podTemplate_among {template : Mapping} (h : podTemplate m s g = .ok template) :
    ∃ spec, Mapping.Among specNames spec ∧
      template = [("metadata", .entries (podMetadata s g)), ("spec", .entries spec)] := by
  obtain ⟨spec, hspec, h⟩ := bind_eq_ok_iff.1 h
  exact ⟨spec, among_podSpec hspec, (pure_eq_ok_iff.1 h).symm⟩

end Pod

/-! ## Workloads -/

namespace Group

/-- The names of all guards. -/
def guardNames : List String :=
  ["_minReplicas", "_minHAReplicas", "_maxReplicas", "_oddReplicas", "_moved_sizing_HA",
    "_moved_sizing_cpu_limits", "_moved_sizing_cpu_requests", "_moved_sizing_memory_limits",
    "_moved_sizing_memory_requests", "_hostpathAvailable"]

/-- The blocks of a guard change nothing of the entry that they stand around. -/
theorem distinct_guard (guard : Guard) : guard.entry.2.Distinct := by
  have hblocks (conditions : List Template.Term) (node : Node) (h : node.Distinct) :
      (conditions.foldl (fun node c => node.withBlock (Template.ifBlock c)) node).Distinct := by
    induction conditions generalizing node with
    | nil => exact h
    | cons c conditions ih => exact ih _ (h.withBlock _)
  exact hblocks guard.conditions _ (distinct_verbatim _)

/-- The guards of a controller are some of ten, each with a name of its own. -/
theorem among_guards (g : Group) (withReplicas : Bool) :
    Mapping.Among guardNames ((g.guards withReplicas).map Guard.entry) := by
  have hsingle (name : String) (conditions : List Template.Term) (message : String) :
      Mapping.Among [name] ([⟨name, conditions, message⟩].map Guard.entry) := .single (distinct_guard _)
  have hreplicas : Mapping.Among ["_minReplicas", "_minHAReplicas", "_maxReplicas", "_oddReplicas"]
      (g.replicaGuards.map Guard.entry) := by
    simp only [replicaGuards, List.map_append, apply_ite (List.map Guard.entry), List.map_nil]
    exact (((Mapping.Among.ite .nil (hsingle _ _ _)).append (.ite .nil (hsingle _ _ _))).append
      (hsingle _ _ _)).append (.ite (hsingle _ _ _) .nil)
  have hmoved : Mapping.Among (Mapping.names (movedGuards.map Guard.entry)) (movedGuards.map Guard.entry) :=
    .self (List.forall_mem_map.2 fun guard _ => distinct_guard guard)
  have hhost : Mapping.Among ["_hostpathAvailable"] (g.hostPathGuards.map Guard.entry) := by
    simp only [hostPathGuards, apply_ite (List.map Guard.entry), List.map_nil]
    exact .ite .nil (hsingle _ _ _)
  simp only [guards, List.map_append, apply_ite (List.map Guard.entry), List.map_nil]
  exact ((Mapping.Among.ite hreplicas .nil).append hmoved).append hhost

/-- No guard has the name of a part of the head. -/
theorem among_controllerHead (g : Group) (s : Settings) (apiVersion kind name : String) (withReplicas : Bool) :
    Mapping.Among (guardNames ++ headNames) (g.controllerHead s apiVersion kind name withReplicas) :=
  (Mapping.Among.ite (among_guards g withReplicas) .nil).append (among_newObject s apiVersion kind name _)

/-- A specification can stand behind the guards and the head of a controller. -/
theorem distinct_controller (g : Group) (s : Settings) (apiVersion kind name : String) (withReplicas : Bool)
    {spec : Mapping} (h : (Node.entries spec).Distinct) :
    (Node.entries (g.controllerHead s apiVersion kind name withReplicas
      ++ [("spec", .entries spec)])).Distinct :=
  .entries ((among_controllerHead g s apiVersion kind name withReplicas).append (.single h)) (by decide)

/-- The block around a controller changes none of its names. -/
theorem distinct_gate {node : Node} (h : node.Distinct) : (g.gate s node).Distinct := by
  unfold gate
  split
  · exact h.wrapBlock _
  · exact h

theorem distinct_roleSelector (name : String) : (Node.entries (roleSelector name)).Distinct := by
  have hlabels : (Node.entries [(roleLabel, .string name)]).Distinct :=
    .entries (.single (distinct_string name)) (by decide)
  exact .entries (.single hlabels) (by decide)

theorem distinct_replicas (g : Group) (s : Settings) : (g.replicas s).Distinct :=
  .ite (distinct_verbatim _) (distinct_number _)

theorem distinct_template {template : Mapping} (h : Pod.podTemplate m s g = .ok template) :
    (Node.entries template).Distinct := by
  obtain ⟨spec, hspec, rfl⟩ := Pod.podTemplate_among h
  exact .entries (.cons (Pod.distinct_podMetadata s g) (.single (.entries hspec (by decide)))) (by decide)

/-! ## Services -/

theorem distinct_servicePort (audience : Audience) {name number : Node} (protocol : String)
    (hname : name.Distinct) (hnumber : number.Distinct) :
    (Service.port audience name number protocol).Distinct :=
  .entries (.cons hname <| .cons hnumber <| .cons (distinct_string protocol) <|
    .single (.ite (distinct_number 0) hname)) (by decide)

/-- The ports of a definition in a service: counted ones, those that pods show, or those that are declared. -/
theorem distinct_serviceDefinition {audience : Audience} {d : Port.Definition} {ports : List Node}
    (h : Service.definitionPorts g s audience d = .ok ports) : ∀ port ∈ ports, port.Distinct := by
  unfold Service.definitionPorts at h
  split at h
  · obtain ⟨beginning, -, h⟩ := bind_eq_ok_iff.1 h
    obtain rfl := pure_eq_ok_iff.1 h
    have hport : (Service.port audience (Pod.countedName beginning)
        (Pod.countedPort (Service.shownRange audience d).first) d.protocol).Distinct :=
      distinct_servicePort audience d.protocol (distinct_verbatim _) (distinct_verbatim _)
    simpa using hport.withBlock _
  · have hnodes (named : List Port.Named) : ∀ node ∈ named.map fun p =>
        Service.port audience (.string (String.ofList p.name)) (.number p.port) d.protocol, node.Distinct :=
      List.forall_mem_map.2 fun p _ =>
        distinct_servicePort audience d.protocol (distinct_string _) (distinct_number p.port)
    split at h
    · obtain ⟨named, -, h⟩ := bind_eq_ok_iff.1 h
      obtain rfl := pure_eq_ok_iff.1 h
      exact hnodes named
    · obtain ⟨named, -, h⟩ := bind_eq_ok_iff.1 h
      obtain rfl := pure_eq_ok_iff.1 h
      exact hnodes named

theorem distinct_servicePorts {audience : Audience} {ports : List Node}
    (h : Service.ports g s audience = .ok ports) : ∀ port ∈ ports, port.Distinct := by
  obtain ⟨definitions, -, h⟩ := bind_eq_ok_iff.1 h
  obtain ⟨found, hfound, h⟩ := bind_eq_ok_iff.1 h
  obtain rfl := pure_eq_ok_iff.1 h
  intro port hport
  obtain ⟨part, hpart, hport⟩ := List.mem_flatten.1 hport
  obtain ⟨d, -, hd⟩ := exists_of_mem_mapM hfound hpart
  exact distinct_serviceDefinition hd port hport

/-- How a service is reached takes other entries for each audience, but never one of them twice. -/
theorem among_access (s : Settings) (audience : Audience) :
    Mapping.Among ["type", "clusterIP", "externalIPs"] (Service.access s audience) := by
  have hskip {m : Mapping} (h : Mapping.Among ["type", "externalIPs"] m) :
      Mapping.Among ["type", "clusterIP", "externalIPs"] m :=
    ⟨h.names.trans (by simp), h.nodes⟩
  cases audience with
  | cluster => exact .cons (distinct_string _) .nil
  | pods => exact .cons (distinct_string _) (.cons (distinct_string _) .nil)
  | everyone =>
    refine hskip (.ite ?_ (.cons (distinct_string _) (Pod.among_listEntry _ ?_)))
    · exact .cons (distinct_verbatim _) (.single ((distinct_verbatim _).withBlock _))
    · exact List.forall_mem_map.2 fun _ _ => distinct_literal _

/-- A service has the head of an object and a specification. -/
theorem distinct_service {audience : Audience} {found : Option Node}
    (h : service? g s audience = .ok found) : ∀ node ∈ found, node.Distinct := by
  obtain ⟨ports, hports, h⟩ := bind_eq_ok_iff.1 h
  split at h
  · obtain rfl := pure_eq_ok_iff.1 h
    exact nofun
  · obtain rfl := pure_eq_ok_iff.1 h
    rintro node ⟨⟩
    have hselector : (Node.entries [(roleLabel, .string g.name)]).Distinct :=
      .entries (.single (distinct_string _)) (by decide)
    have hspec := (among_access s audience).append <|
      .cons (k := "ports") (.items (distinct_servicePorts hports)) (.single (k := "selector") hselector)
    exact .entries ((among_newObject s "v1" "Service" _ _).append
      (.single (k := "spec") (.entries hspec (by decide)))) (by decide)

theorem distinct_services {audiences : List Audience} {services : List Node}
    (h : g.services s audiences = .ok services) : ∀ node ∈ services, node.Distinct := by
  obtain ⟨found, hfound, h⟩ := bind_eq_ok_iff.1 h
  obtain rfl := pure_eq_ok_iff.1 h
  refine List.forall_mem_map.2 fun service hservice => distinct_gate ?_
  obtain ⟨_, hmem, rfl⟩ := List.mem_filterMap.1 hservice
  obtain ⟨audience, -, haudience⟩ := exists_of_mem_mapM hfound hmem
  exact distinct_service haudience service rfl

/-! ## Controllers -/

/-- The controller and the services of a deployment. -/
theorem distinct_deployment {r : GroupResources} (h : g.deployment m s = .ok r) :
    ∀ node ∈ r.documents, node.Distinct := by
  obtain ⟨template, htemplate, h⟩ := bind_eq_ok_iff.1 h
  obtain ⟨services, hservices, h⟩ := bind_eq_ok_iff.1 h
  obtain rfl := pure_eq_ok_iff.1 h
  have hspec := Mapping.Among.cons (k := "replicas") (distinct_replicas g s) <|
    .cons (k := "selector") (distinct_roleSelector g.name) <|
    .single (k := "template") (distinct_template htemplate)
  exact List.forall_mem_cons.2 ⟨distinct_gate (distinct_controller g s _ _ _ true (.entries hspec (by decide))),
    distinct_services hservices⟩

/-- The class of a claim is the declared one, or that of the values of the chart, but never both. -/
theorem distinct_volumeClaim (g : Group) (s : Settings) (v : Volume) : (g.volumeClaim s v).Distinct := by
  have hname : (Node.entries [("name", .string v.tag)]).Distinct :=
    .entries (.single (distinct_string _)) (by decide)
  have hsize {size : Node} (h : size.Distinct) :
      (Node.entries [("requests", .entries [("storage", size)])]).Distinct :=
    .entries (.single (.entries (.single h) (by decide))) (by decide)
  have hspec (mode : String) {size : Node} (h : size.Distinct) {storageClass : Mapping}
      (hclass : Mapping.Among ["storageClassName"] storageClass) :=
    (Mapping.Among.cons (k := "accessModes") (Distinct.single (distinct_string mode)) <|
      .single (k := "resources") (hsize h)).append hclass
  refine .entries (.cons hname (.single (.entries (hspec _ (.ite (distinct_verbatim _) (distinct_string _)) ?_)
    (by decide)))) (by decide)
  cases v.storageClass with
  | some declared => exact .single (distinct_string _)
  | none => exact .ite (.single (distinct_verbatim _)) .nil

/-- The controller and the services of a stateful set, with its claims. -/
theorem distinct_statefulSet {r : GroupResources} (h : g.statefulSet m s = .ok r) :
    ∀ node ∈ r.documents, node.Distinct := by
  obtain ⟨template, htemplate, h⟩ := bind_eq_ok_iff.1 h
  obtain ⟨services, hservices, h⟩ := bind_eq_ok_iff.1 h
  obtain rfl := pure_eq_ok_iff.1 h
  have hclaims : ∀ node ∈ g.claimVolumes.map (g.volumeClaim s), node.Distinct :=
    List.forall_mem_map.2 fun v _ => distinct_volumeClaim g s v
  have hfront := Mapping.Among.cons (k := "podManagementPolicy") (distinct_string "Parallel") <|
    .cons (k := "replicas") (distinct_replicas g s) <|
    .cons (k := "serviceName") (distinct_string (Service.nameFor g.name .pods)) <|
    .cons (k := "selector") (distinct_roleSelector g.name) <|
    .single (k := "template") (distinct_template htemplate)
  have hspec := hfront.append (Pod.among_listEntry "volumeClaimTemplates" hclaims)
  exact List.forall_mem_cons.2 ⟨distinct_gate (distinct_controller g s _ _ _ true (.entries hspec (by decide))),
    distinct_services hservices⟩

/-- The policy of a job replaces the one that all pods have. -/
theorem distinct_job {r : GroupResources} (h : g.job m s = .ok r) : ∀ node ∈ r.documents, node.Distinct := by
  obtain ⟨policy, -, h⟩ := bind_eq_ok_iff.1 h
  obtain ⟨template, htemplate, h⟩ := bind_eq_ok_iff.1 h
  obtain ⟨restarting, hset, h⟩ := bind_eq_ok_iff.1 h
  obtain rfl := pure_eq_ok_iff.1 h
  obtain ⟨spec, hspec, rfl⟩ := Pod.podTemplate_among htemplate
  obtain rfl := Chart.setPath_restartPolicy (mapError_eq_ok_iff.1 hset)
  have hspec' : (Node.entries (Mapping.replace spec "restartPolicy" (.string policy)).2).Distinct :=
    .mapping (Mapping.nodup_names_replace (List.Nodup.sublist hspec.names (by decide)) _ _)
      (Mapping.forall_mem_replace hspec.nodes (distinct_string policy) _)
  have htemplate : (Node.entries [("metadata", .entries (Pod.podMetadata s g)),
      ("spec", .entries (Mapping.replace spec "restartPolicy" (.string policy)).2)]).Distinct :=
    .entries (.cons (Pod.distinct_podMetadata s g) (.single hspec')) (by decide)
  exact List.forall_mem_cons.2 ⟨distinct_controller g s _ _ _ false
    (.entries (.single (k := "template") htemplate) (by decide)), by simp⟩

/-- No document of a group has a name twice. -/
theorem distinct_resources {r : GroupResources} (h : g.resources m s = .ok (some r)) :
    ∀ node ∈ r.documents, node.Distinct := by
  unfold resources at h
  split at h
  · cases h
  · obtain ⟨r', hr, h⟩ := map_eq_ok_iff.1 h
    obtain rfl := Option.some.inj h
    exact distinct_deployment hr
  · obtain ⟨r', hr, h⟩ := map_eq_ok_iff.1 h
    obtain rfl := Option.some.inj h
    exact distinct_statefulSet hr
  · obtain ⟨r', hr, h⟩ := map_eq_ok_iff.1 h
    obtain rfl := Option.some.inj h
    exact distinct_job hr

end Group

/-! ## Secrets -/

/-- A name that is refused if it is there already leaves all names different. -/
theorem addNamed_distinct {done result : Mapping} {name : String} {node : Node}
    (h : done.addNamed name node = .ok result) (hdone : (Node.entries done).Distinct) (hnode : node.Distinct) :
    (Node.entries result).Distinct := by
  obtain ⟨hnew, rfl⟩ := Chart.addNamed_eq_ok_iff.1 h
  obtain ⟨hnames, hnodes⟩ : (Mapping.names done).Nodup ∧ ∀ entry ∈ done, entry.2.Distinct := by
    cases hdone with
    | mapping hnames hnodes => exact ⟨hnames, hnodes⟩
  have hboth : (Mapping.names done ++ [name]).Nodup :=
    List.nodup_append.2 ⟨hnames, by simp, fun _ hold _ hname heq =>
      hnew (List.mem_singleton.1 hname ▸ heq ▸ hold)⟩
  exact .entries (.append (.self hnodes) (.single hnode)) hboth

/-- Entries that are added one after another have different names. -/
theorem distinct_of_foldlM {α : Type} {xs : List α} {step : Mapping → α → Built Mapping} {result : Mapping}
    (hstep : ∀ done x next, step done x = .ok next → (Node.entries done).Distinct → (Node.entries next).Distinct)
    (h : xs.foldlM step [] = .ok result) : (Node.entries result).Distinct :=
  foldlM_preserves (P := fun done => (Node.entries done).Distinct) (fun done x _ next => hstep done x next) h
    (.entries .nil List.nodup_nil)

/-- The value of a secret is one scalar, however it is written. -/
theorem distinct_secretNode? {v : Variable} {node : Node} (h : v.secretNode? s = some node) :
    node.Distinct := by
  unfold Variable.secretNode? at h
  split at h
  · cases h
    exact distinct_string _
  · split at h
    · cases h
    · split at h
      · cases h
        exact distinct_verbatim _
      · cases h
        exact distinct_verbatim _

/-- The data of the secret have the names of the variables, which are refused if they clash. -/
theorem distinct_secret {declared : List Variable} {node : Node} (h : secret declared s = .ok node) :
    node.Distinct := by
  obtain ⟨data, hdata, h⟩ := bind_eq_ok_iff.1 h
  obtain rfl := pure_eq_ok_iff.1 h
  have hdata : (Node.entries data).Distinct := by
    refine distinct_of_foldlM (fun done v next hnext hdone => ?_) hdata
    split at hnext
    · next node hnode => exact addNamed_distinct hnext hdone ((distinct_secretNode? hnode).withComment _)
    · obtain rfl := Except.ok.inj hnext
      exact hdone
  have hrest := Mapping.Among.cons (k := "type") (distinct_string "Opaque") (.single (k := "data") hdata)
  exact .entries ((among_newObject s "v1" "Secret" _ _).append hrest) (by decide)

theorem distinct_registryCredentials (s : Settings) : (registryCredentials s).Distinct := by
  have hobject {value : Node} (hvalue : value.Distinct) : (Node.entries
      (newObject "v1" "Secret" (objectMetadata s registryCredentialsName none) ++
        [("type", .string "kubernetes.io/dockercfg"),
          ("data", .entries [(".dockercfg", value)])])).Distinct := by
    have hdata : (Node.entries [(".dockercfg", value)]).Distinct := .entries (.single hvalue) (by decide)
    have hrest := Mapping.Among.cons (k := "type") (distinct_string "kubernetes.io/dockercfg")
      (.single (k := "data") hdata)
    exact .entries ((among_newObject s "v1" "Secret" _ _).append hrest) (by decide)
  unfold registryCredentials
  refine .ite (.withBlock (hobject (.ite (distinct_verbatim _) ?_)) _)
    (hobject (.ite (distinct_verbatim _) ?_))
  · cases s.credentials <;> exact distinct_string _
  · cases s.credentials <;> exact distinct_string _

/-! ## Authorization -/

namespace Access

/-- A condition around an object changes none of its names. -/
theorem distinct_gated {entries : Mapping} (h : (Node.entries entries).Distinct) :
    (gated s entries).Distinct :=
  .ite (h.withBlock _) h

theorem distinct_texts (values : List String) : (texts values).Distinct :=
  .items (List.forall_mem_map.2 fun _ _ => distinct_string _)

/-- A rule that names no resources lacks the last of its four entries. -/
theorem distinct_ruleNode (r : AccessRule) : (ruleNode r).Distinct := by
  have hfront := Mapping.Among.cons (k := "apiGroups") (distinct_texts r.apiGroups) <|
    .cons (k := "resources") (distinct_texts r.resources) <|
    .single (k := "verbs") (distinct_texts r.verbs)
  exact .entries (hfront.append (.ite .nil (.single (k := "resourceNames") (distinct_texts r.resourceNames))))
    (by decide)

/-- An object with different names behind its head. -/
theorem distinct_object (s : Settings) (apiVersion kind name : String) {allowed : List String} {rest : Mapping}
    (hrest : Mapping.Among allowed rest) (hallowed : (headNames ++ allowed).Nodup) :
    (gated s (newObject apiVersion kind (objectMetadata s name none) ++ rest)).Distinct :=
  distinct_gated (.entries ((among_newObject s apiVersion kind name none).append hrest) hallowed)

theorem distinct_rules (rules : List AccessRule) : (Node.items (rules.map ruleNode)).Distinct :=
  .items (List.forall_mem_map.2 fun r _ => distinct_ruleNode r)

theorem distinct_role (s : Settings) (name : String) (rules : List AccessRule) : (role s name rules).Distinct :=
  distinct_object s _ _ _ (.single (k := "rules") (distinct_rules rules)) (by decide)

theorem distinct_clusterRole (s : Settings) (name : String) (rules : List AccessRule) :
    (clusterRole s name rules).Distinct :=
  distinct_object s _ _ _ (.single (k := "rules") (distinct_rules rules)) (by decide)

theorem distinct_serviceAccount (s : Settings) (name : String) : (serviceAccount s name).Distinct :=
  distinct_gated (.entries (among_newObject s "v1" "ServiceAccount" name none) (by decide))

/-- A binding names who gets something and what is given. -/
theorem among_binding (s : Settings) (account kind name : String) :
    Mapping.Among ["subjects", "roleRef"]
      [("subjects", subjects s account), ("roleRef", roleRef kind name)] := by
  have hsubject := Mapping.Among.cons (k := "kind") (distinct_string "ServiceAccount") <|
    .cons (k := "name") (distinct_string account) <|
    .single (k := "namespace") (distinct_string (namespaceOf s))
  have hrole := Mapping.Among.cons (k := "apiGroup") (distinct_string apiGroup) <|
    .cons (k := "kind") (distinct_string kind) <| .single (k := "name") (distinct_string name)
  exact .cons (.single (.entries hsubject (by decide))) (.single (.entries hrole (by decide)))

theorem distinct_roleBinding (s : Settings) (account name : String) : (roleBinding s account name).Distinct :=
  distinct_object s _ _ _ (among_binding s account "Role" name) (by decide)

theorem distinct_clusterRoleBinding (s : Settings) (account name : String) :
    (clusterRoleBinding s account name).Distinct :=
  distinct_object s _ _ _ (among_binding s account "ClusterRole" _) (by decide)

theorem distinct_podSecurityPolicy (s : Settings) (name : String) (spec : Yaml.Value) :
    (podSecurityPolicy s name spec).Distinct := by
  have hpolicy := distinct_object s "policy/v1beta1" "PodSecurityPolicy" (policyName s name)
    (.single (k := "spec") (distinct_ofValue spec)) (by decide)
  exact .ite (hpolicy.withBlock _) hpolicy

theorem distinct_policyRole (s : Settings) (name : String) : (policyRole s name).Distinct := by
  have hpolicy : (if s.chart then
      Node.verbatim (action ("default (printf \"%s-psp-" ++ name ++ "\" .Release.Namespace) "
        ++ policyPath name))
      else Node.string (policyName s name)).Distinct := .ite (distinct_verbatim _) (distinct_string _)
  have hrule := Mapping.Among.cons (k := "apiGroups") (distinct_texts ["policy"]) <|
    .cons (k := "resources") (distinct_texts ["podsecuritypolicies"]) <|
    .cons (k := "verbs") (distinct_texts ["use"]) <|
    .single (k := "resourceNames") (.single hpolicy)
  exact distinct_object s _ _ _ (.single (k := "rules") (.single (.entries hrule (by decide)))) (by decide)

/-- All that is written for an account: the account itself, where it is not the one of pods, and its bindings.
-/
theorem distinct_accountDocuments (s : Settings) (account : String) (grants : Grants) :
    ∀ node ∈ accountDocuments s account grants, node.Distinct := by
  unfold accountDocuments
  refine List.forall_mem_append.2 ⟨List.forall_mem_append.2 ⟨List.forall_mem_append.2 ⟨?_, ?_⟩, ?_⟩, ?_⟩
  · split
    · simp
    · simpa using distinct_serviceAccount s account
  · exact List.forall_mem_map.2 fun name _ => distinct_roleBinding s account name
  · exact List.forall_mem_map.2 fun name _ => distinct_clusterRoleBinding s account name
  · exact List.forall_mem_map.2 fun name _ => distinct_clusterRoleBinding s account name

/-- The documents of the whole section of authorization. -/
theorem distinct_authFiles (s : Settings) (a : Authorization) :
    ∀ file ∈ authFiles s a, ∀ node ∈ file.documents, node.Distinct := by
  unfold authFiles
  split
  · simp
  · refine List.forall_mem_append.2 ⟨List.forall_mem_append.2 ⟨List.forall_mem_append.2 ⟨?_, ?_⟩, ?_⟩, ?_⟩
    · exact List.forall_mem_map.2 fun entry _ => by simpa using distinct_role s _ _
    · exact List.forall_mem_map.2 fun entry _ => by simpa using distinct_clusterRole s _ _
    · exact List.forall_mem_map.2 fun entry _ => by
        simpa using ⟨distinct_podSecurityPolicy s _ _, distinct_policyRole s _⟩
    · intro file hfile
      obtain ⟨⟨name, grants⟩, -, rfl⟩ := List.mem_map.1 (List.mem_filter.1 hfile).1
      exact distinct_accountDocuments s name grants

end Access

/-! ## Files -/

/-- No document of a build has a name twice. -/
theorem distinct_resourceFiles {files : List ResourceFile} (h : resourceFiles m s = .ok files) :
    ∀ file ∈ files, ∀ document ∈ file.documents, document.Distinct := by
  obtain ⟨groups, hgroups, h⟩ := bind_eq_ok_iff.1 h
  obtain ⟨object, hobject, h⟩ := bind_eq_ok_iff.1 h
  obtain rfl := pure_eq_ok_iff.1 h
  refine List.forall_mem_append.2 ⟨List.forall_mem_append.2 ⟨?_, ?_⟩, ?_⟩
  · obtain ⟨found, hfound, hgroups⟩ := bind_eq_ok_iff.1 hgroups
    obtain rfl := pure_eq_ok_iff.1 hgroups
    intro file hfile
    obtain ⟨_, hmem, rfl⟩ := List.mem_filterMap.1 hfile
    obtain ⟨g, -, hg⟩ := exists_of_mem_mapM hfound hmem
    obtain ⟨found?, hresources, hg⟩ := bind_eq_ok_iff.1 hg
    obtain ⟨r, rfl, rfl⟩ := Option.map_eq_some_iff.1 (pure_eq_ok_iff.1 hg)
    exact Group.distinct_resources hresources
  · simpa using ⟨distinct_secret hobject, distinct_registryCredentials s⟩
  · exact List.forall_mem_map.2 fun file hfile => Access.distinct_authFiles s m.authorization file hfile

/-! ## Values -/

namespace Chart

/-- A section of defaults has the names of its variables, which are refused if they clash. -/
theorem distinct_defaults {declared : List Variable} {comment : Variable → String} {result : Mapping}
    (h : defaults declared comment = .ok result) : (Node.entries result).Distinct := by
  refine distinct_of_foldlM (fun done v next hnext hdone => addNamed_distinct hnext hdone ?_) h
  refine Distinct.withComment ?_ _
  unfold defaultNode
  cases v.defaultText? with
  | none => exact .scalar
  | some text => exact distinct_literal text

theorem distinct_configuration (s : Settings) : (Node.entries (configuration s)).Distinct := by
  have htoggles (on : Bool) : (Node.entries [("limits", .flag on), ("requests", .flag on)]).Distinct :=
    .entries (.cons (distinct_flag on) (.single (distinct_flag on))) (by decide)
  exact .entries (.cons ((distinct_flag false).withComment _) <|
    .cons ((htoggles _).withComment _) (.single ((htoggles _).withComment _))) (by decide)

/-- The names of policies come from the manifest and are refused if they clash. All others are fixed. -/
theorem distinct_clusterValues {cluster : Mapping} (h : clusterValues m s = .ok cluster) :
    (Node.entries cluster).Distinct := by
  obtain ⟨policies, hpolicies, h⟩ := bind_eq_ok_iff.1 h
  obtain rfl := pure_eq_ok_iff.1 h
  have hpolicies : (Node.entries policies).Distinct :=
    distinct_of_foldlM (fun done entry next hnext hdone => addNamed_distinct hnext hdone .scalar) hpolicies
  have hregistry {hostname password username : String} : (Node.entries [("hostname", .literal hostname),
      ("password", .literal password), ("username", .literal username)]).Distinct :=
    .entries (.cons (distinct_literal _) (.cons (distinct_literal _) (.single (distinct_literal _)))) (by decide)
  have hclass : (Node.entries
      [("persistent", .string "persistent"), ("shared", .string "shared")]).Distinct :=
    .entries (.cons (distinct_string _) (.single (distinct_string _))) (by decide)
  exact .entries (.cons ((distinct_string _).withComment _) <|
    .cons (.items (List.forall_mem_map.2 fun _ _ => distinct_literal _)) <|
    .cons ((distinct_flag _).withComment _) <| .cons (distinct_literal _) <|
    .cons (hpolicies.withComment _) <| .cons hregistry (.single hclass)) (by decide)

theorem distinct_demandNode (limit request : Option Nat) : (demandNode limit request).Distinct := by
  have hamount (k : Option Nat) : ((k.map Node.number).getD Node.null).Distinct := by
    cases k with
    | none => exact .scalar
    | some k => exact distinct_number k
  exact .entries (.cons (hamount limit) (.single (hamount request))) (by decide)

/-- Disks and ports have names from the manifest, below names that are fixed. -/
theorem distinct_groupSizing {sizes : Mapping} (h : groupSizing g = .ok sizes) :
    (Node.entries sizes).Distinct := by
  obtain ⟨disks, hdisks, h⟩ := bind_eq_ok_iff.1 h
  obtain ⟨ports, hports, h⟩ := bind_eq_ok_iff.1 h
  obtain ⟨definitions, -, hports⟩ := bind_eq_ok_iff.1 hports
  obtain rfl := pure_eq_ok_iff.1 h
  have hdisks : (Node.entries disks).Distinct :=
    distinct_of_foldlM (fun done v next hnext hdone => addNamed_distinct hnext hdone (distinct_number _)) hdisks
  have hports : (Node.entries ports).Distinct := by
    refine distinct_of_foldlM (fun done d next hnext hdone => addNamed_distinct hnext hdone ?_) hports
    exact .entries (.single (distinct_number _)) (by decide)
  have hempty : (Node.entries []).Distinct := .entries .nil List.nodup_nil
  have hnone : (Node.items []).Distinct := .items (by simp)
  have hfront := Mapping.Among.cons (k := "affinity")
    (hempty.withComment "Node affinity rules for the pods, passed through as-is.") <|
    .single (k := "capabilities") (hnone.withComment "Additional Linux capabilities for the containers.")
  have hcount : Mapping.Among ["count"] (if g.isManaged then
      [("count", (Node.number g.run.scaling.min).withComment (countComment g))] else []) :=
    .ite (.single ((distinct_number _).withComment _)) .nil
  exact .entries (((((hfront.append hcount).append
    (.single (k := "cpu") ((distinct_demandNode _ _).withComment _))).append
    (.ite .nil (.single (k := "disk_sizes") (hdisks.withComment _)))).append
    (.single (k := "memory") ((distinct_demandNode _ _).withComment _))).append
    (.ite .nil (.single (k := "ports") hports))) (by decide)

/-- Groups are refused if they clash, and sorting keeps their names different. -/
theorem distinct_sizing {sizes : Mapping} (h : sizing m = .ok sizes) : (Node.entries sizes).Distinct := by
  obtain ⟨unsorted, hfold, rfl⟩ := map_eq_ok_iff.1 h
  have hunsorted : (Node.entries unsorted).Distinct := by
    refine distinct_of_foldlM (fun done g next hnext hdone => ?_) hfold
    obtain ⟨sizes, hsizes, hadd⟩ := bind_eq_ok_iff.1 hnext
    exact addNamed_distinct hadd hdone ((distinct_groupSizing hsizes).withComment _)
  have hperm : (Mapping.sort unsorted).Perm unsorted := List.mergeSort_perm _ _
  cases hunsorted with
  | mapping hnames hnodes =>
    exact .mapping ((hperm.map Prod.fst).nodup_iff.2 hnames) fun entry hentry =>
      hnodes entry (hperm.mem_iff.1 hentry)

/-- The values of a chart have no name twice. -/
theorem distinct_values {v : Node} (h : values m s = .ok v) : v.Distinct := by
  obtain ⟨environment, cluster, secrets, sizes, henvironment, hcluster, hsecrets, hsizes, rfl⟩ := values_ok h
  have hempty : (Node.items []).Distinct := .items (by simp)
  exact .entries (.cons (.entries (.single hempty) (by decide)) <|
    .cons (distinct_configuration s) <| .cons (distinct_defaults henvironment) <|
    .cons (distinct_clusterValues hcluster) <| .cons (distinct_defaults hsecrets) <|
    .cons (.entries (.single ((distinct_flag _).withComment _)) (by decide)) <|
    .single (distinct_sizing hsizes)) (by decide)

end Chart

end RoleChart
