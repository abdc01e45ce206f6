import RoleChart.Pod.Template
import RoleChart.Proofs.Building
import RoleChart.Proofs.Document.Lookup

/-!
# The fields of containers and pod templates

What stands where in a container and in the template of pods, whenever they are built.

## Main statements

* `listAt_volumeMounts` — a container mounts the volumes of its group
* `envEntry_cases`, `exists_of_mem_environment` — what becomes of a variable in an environment, and what is there
* `listAt_env` — a container sees the environment of its group
* `probe?_ok`, `get?_probe` — what a probe is made of, and where it stands in a container
* `podTemplate_ok` — pods have the containers and the volumes of the group and of the colocated ones
* `get?_restartPolicy` — the policy of every template
-/

namespace RoleChart.Pod

open RoleChart.Document RoleChart.Built

/-! ## Optional entries -/

theorem lookup?_listEntry (name other : String) (nodes : List Node) :
    Mapping.lookup? (listEntry name nodes) other =
      if name = other ∧ nodes ≠ [] then some (.items nodes) else none := by
  cases nodes with
  | nil => simp [listEntry]
  | cons node rest => by_cases h : name = other <;> simp [listEntry, h]

@[simp] theorem lookup?_listEntry_of_ne {name other : String} (nodes : List Node) (h : name ≠ other) :
    Mapping.lookup? (listEntry name nodes) other = none := by
  rw [lookup?_listEntry, if_neg (fun hc => h hc.1)]

/-- An entry that was left out and a list without items are the same at a path. -/
@[simp] theorem items_listEntry (name : String) (nodes : List Node) :
    ((Mapping.lookup? (listEntry name nodes) name).bind Node.list?).getD [] = nodes := by
  cases nodes with
  | nil => rfl
  | cons node rest => simp [lookup?_listEntry]

@[simp] theorem lookup?_mappingEntry_of_ne {name other : String} (m : Mapping) (h : name ≠ other) :
    Mapping.lookup? (mappingEntry name m) other = none := by
  unfold mappingEntry
  split
  · rfl
  · simp [h]

theorem lookup?_probeEntry {g : Group} {kind : ProbeKind} {m : Mapping} {other : String}
    (h : probeEntry g kind = .ok m) (hne : kind.field ≠ other) : Mapping.lookup? m other = none := by
  obtain ⟨probe, -, h⟩ := bind_eq_ok_iff.1 h
  obtain rfl := pure_eq_ok_iff.1 h
  cases probe with
  | none => rfl
  | some node => simp [hne]

/-- A request sends the login of its address and then the declared headers. -/
theorem listAt_httpHeaders (secure : Bool) (a : Url.WebAddress) (headers : List (String × String)) :
    (Node.entries (httpGet secure a headers)).listAt ["httpHeaders"] = authorization a
      ++ headers.map fun (name, value) => header (String.ofList (canonicalHeader name.toList)) value := by
  unfold httpGet Node.listAt
  by_cases hhost : a.host = ownAddress
  · generalize authorization a ++ headers.map _ = sent
    cases sent <;> simp [hhost]
  · generalize authorization a ++ headers.map _ = sent
    cases sent <;> simp [hhost]

/-! ## Probes -/

section Probe

variable {g : Group} {kind : ProbeKind}

/-- What a declared action is: a request to the URL, or else a connection to the port, or else the command. -/
theorem declaredAction?_ok {p : Probe} {action : String × Node}
    (h : declaredAction? g kind p = .ok (some action)) :
    (∃ url secure a, p.url = some url ∧ Url.Locator.ofText url = .ok (.web secure a) ∧
      action = ("httpGet", .entries (httpGet secure a p.headers))) ∨
    (p.url = none ∧ ∃ port, p.port = some port ∧ action = tcpSocket port) ∨
    (p.url = none ∧ p.port = none ∧
      action = ("exec", .entries [("command", .items (p.command.map Node.string))])) := by
  unfold declaredAction? at h
  split at h
  · next url hurl =>
    split at h
    · cases h
    · cases h
    · next secure a hread =>
      cases h
      exact .inl ⟨url, secure, a, hurl, hread, rfl⟩
  · next port hurl hport =>
    cases h
    exact .inr (.inl ⟨hurl, port, hport, rfl⟩)
  · next hurl hport =>
    split at h
    · cases h
    · cases h
      exact .inr (.inr ⟨hurl, hport, rfl⟩)

/-- What a probe is made of: its action and its timings. Without a declared action a supervised group is asked
on a port. -/
theorem probe?_ok {found : Option Node} (h : probe? g kind = .ok found) :
    ∃ action?, (found = action?.map fun action => .entries (action :: timings kind (declaredProbe g kind))) ∧
      (declaredAction? g kind (declaredProbe g kind) = .ok action? ∨
        declaredAction? g kind (declaredProbe g kind) = .ok none ∧
          ∃ own, ownPort? g kind = .ok own ∧ action? = own.map tcpSocket) := by
  obtain ⟨declared, hdeclared, h⟩ := bind_eq_ok_iff.1 h
  cases declared with
  | some action =>
    obtain rfl := pure_eq_ok_iff.1 h
    exact ⟨some action, rfl, .inl hdeclared⟩
  | none =>
    simp only at h
    split at h
    · obtain ⟨own, hown, h⟩ := bind_eq_ok_iff.1 h
      obtain rfl := pure_eq_ok_iff.1 h
      obtain ⟨port?, hport, rfl⟩ := map_eq_ok_iff.1 hown
      exact ⟨port?.map tcpSocket, rfl, .inr ⟨hdeclared, port?, hport, rfl⟩⟩
    · obtain rfl := pure_eq_ok_iff.1 h
      exact ⟨none, rfl, .inl hdeclared⟩

end Probe

/-! ## Containers -/

/-- What a container is made of. -/
theorem container_ok {m : Manifest} {s : Settings} {g : Group} {c : Node}
    (h : container m s g = .ok c) :
    ∃ image ports env liveness readiness, imageReference g s = .ok image ∧
      containerPorts g s = .ok ports ∧ environment m s g = .ok env ∧
      probeEntry g .liveness = .ok liveness ∧ probeEntry g .readiness = .ok readiness ∧
      c = .entries ([("name", .string g.name), ("image", .verbatim image)] ++ listEntry "ports" ports
        ++ [("env", .items env)] ++ listEntry "volumeMounts" (mounts g)
        ++ mappingEntry "resources" (resources g s) ++ mappingEntry "securityContext" (securityContext g s)
        ++ liveness ++ readiness ++ [("lifecycle", lifecycle)]) := by
  obtain ⟨image, himage, h⟩ := bind_eq_ok_iff.1 h
  obtain ⟨ports, hports, h⟩ := bind_eq_ok_iff.1 h
  obtain ⟨env, henv, h⟩ := bind_eq_ok_iff.1 h
  obtain ⟨liveness, hl, h⟩ := bind_eq_ok_iff.1 h
  obtain ⟨readiness, hr, h⟩ := bind_eq_ok_iff.1 h
  exact ⟨image, ports, env, liveness, readiness, himage, hports, henv, hl, hr, (pure_eq_ok_iff.1 h).symm⟩

theorem listAt_volumeMounts {m : Manifest} {s : Settings} {g : Group} {c : Node}
    (h : container m s g = .ok c) : c.listAt ["volumeMounts"] = mounts g := by
  obtain ⟨image, ports, env, liveness, readiness, -, -, -, hl, hr, rfl⟩ := container_ok h
  have hl' : Mapping.lookup? liveness "volumeMounts" = none := lookup?_probeEntry hl (by decide)
  have hr' : Mapping.lookup? readiness "volumeMounts" = none := lookup?_probeEntry hr (by decide)
  simp [Node.listAt, hl', hr']

theorem listAt_env {m : Manifest} {s : Settings} {g : Group} {c : Node} (h : container m s g = .ok c) :
    environment m s g = .ok (c.listAt ["env"]) := by
  obtain ⟨image, ports, env, liveness, readiness, -, -, henv, -, -, rfl⟩ := container_ok h
  rw [henv]
  simp [Node.listAt]

/-- The probes of a container are those of its group. -/
theorem get?_probe {m : Manifest} {s : Settings} {g : Group} {c : Node} (h : container m s g = .ok c)
    (kind : ProbeKind) : ∃ found, probe? g kind = .ok found ∧
      ∀ rest, c.get? (kind.field :: rest) = found.bind fun probe => probe.get? rest := by
  obtain ⟨image, ports, env, liveness, readiness, -, -, -, hl, hr, rfl⟩ := container_ok h
  have hlookup {kind : ProbeKind} {entries : Mapping} (h : probeEntry g kind = .ok entries) :
      probe? g kind = .ok (Mapping.lookup? entries kind.field) := by
    obtain ⟨found, hfound, h⟩ := bind_eq_ok_iff.1 h
    obtain rfl := pure_eq_ok_iff.1 h
    cases found with
    | none => exact hfound
    | some probe => simpa using hfound
  cases kind with
  | liveness =>
    refine ⟨_, hlookup hl, fun rest => ?_⟩
    have hother : Mapping.lookup? readiness ProbeKind.liveness.field = none := lookup?_probeEntry hr (by decide)
    have hname : ProbeKind.liveness.field = "livenessProbe" := by decide
    rw [hname] at hother ⊢
    simp [hother]
  | readiness =>
    refine ⟨_, hlookup hr, fun rest => ?_⟩
    have hother : Mapping.lookup? liveness ProbeKind.readiness.field = none := lookup?_probeEntry hl (by decide)
    have hname : ProbeKind.readiness.field = "readinessProbe" := by decide
    rw [hname] at hother ⊢
    simp [hother]

/-! ## Entries of environments -/

/-- What becomes of a variable in an environment: the number of replicas of the group that it counts, a fault if there
is no such group, a reference to a secret, a value that a chart looks up, or the value itself, if there is one. -/
inductive EnvEntry (m : Manifest) (s : Settings) (v : Variable) : Built (Option Node) → Prop where
  | unsized {target : String} (htarget : sizingTarget? v.name = some target)
    (hnone : m.groupByEnvName? target = none) : EnvEntry m s v (.error (.unknownSizingGroup v.name target))
  | sized {target : String} {counted : Group} (htarget : sizingTarget? v.name = some target)
    (hgroup : m.groupByEnvName? target = some counted) :
    EnvEntry m s v (.ok (some (envValue v.name (if s.chart then
      .verbatim (Template.action (countPath counted.varName ++ " | quote"))
    else .string (Template.digits counted.run.scaling.min)))))
  | secret (hcount : sizingTarget? v.name = none) (hsecret : v.secret = true) :
    EnvEntry m s v (.ok (some (envSecret s v)))
  | chart (hcount : sizingTarget? v.name = none) (hsecret : v.secret = false) (hchart : s.chart = true) :
    EnvEntry m s v (.ok (some (envValue v.name (.verbatim (Template.action ((if v.mustBeGiven then
      Template.requiredValue v.name (".Values.env." ++ v.name) else ".Values.env." ++ v.name) ++ " | quote"))))))
  | plain (hcount : sizingTarget? v.name = none) (hsecret : v.secret = false) (hchart : s.chart = false) :
    EnvEntry m s v (.ok ((v.plainText? s).map fun value => envValue v.name (.literal value)))

theorem envEntry_cases (m : Manifest) (s : Settings) (v : Variable) : EnvEntry m s v (envEntry m s v) := by
  unfold envEntry
  split
  · next target htarget =>
    split
    · next hnone => exact .unsized htarget hnone
    · next counted hgroup => exact .sized htarget hgroup
  · next hcount =>
    split
    · next hsecret => exact .secret hcount hsecret
    · next hsecret =>
      have hpublic := Bool.eq_false_iff.2 hsecret
      split
      · next hchart => exact .chart hcount hpublic hchart
      · next hchart => exact .plain hcount hpublic (Bool.eq_false_iff.2 hchart)

/-- An entry of an environment is that of a variable, or that of the namespace. -/
theorem exists_of_mem_environment {m : Manifest} {s : Settings} {g : Group} {env : List Node}
    (h : environment m s g = .ok env) {entry : Node} (hentry : entry ∈ env) :
    (∃ v ∈ m.variablesOf g, v.internal = false ∧ envEntry m s v = .ok (some entry)) ∨
      entry = namespaceEntry := by
  obtain ⟨found, hfound, h⟩ := bind_eq_ok_iff.1 h
  obtain rfl := pure_eq_ok_iff.1 h
  rcases List.mem_append.1 hentry with hentry | hentry
  · obtain ⟨_, hmem, rfl⟩ := List.mem_filterMap.1 hentry
    obtain ⟨v, hv, hok⟩ := exists_of_mem_mapM hfound hmem
    obtain ⟨hv, hinternal⟩ := List.mem_filter.1 hv
    exact .inl ⟨v, hv, by simpa using hinternal, hok⟩
  · exact .inr (List.mem_singleton.1 hentry)

theorem variableNames_of_no_jobs {g : Group} (h : g.jobs = []) : g.variableNames = [] := by
  simp [Group.variableNames, h, sortedUnion]

/-- A group that refers to no variables sees its namespace alone. -/
theorem environment_of_no_jobs (m : Manifest) (s : Settings) {g : Group} (h : g.jobs = []) :
    environment m s g = .ok [namespaceEntry] := by
  simp only [environment, Manifest.variablesOf, variableNames_of_no_jobs h, List.filterMap_nil,
    List.filter_nil, List.mapM_nil]
  rfl

/-! ## Templates -/

/-- The lists in the specification of pods. -/
theorem podSpec_ok {m : Manifest} {s : Settings} {g : Group} {spec : Mapping}
    (h : podSpec m s g = .ok spec) :
    ∃ others containers, colocatedGroups m g = .ok others ∧
      (g :: others).mapM (container m s) = .ok containers ∧
      (Node.entries spec).listAt ["containers"] = containers ∧
      (Node.entries spec).listAt ["volumes"] = podVolumes (g :: others) := by
  obtain ⟨others, hothers, h⟩ := bind_eq_ok_iff.1 h
  obtain ⟨containers, hcontainers, h⟩ := bind_eq_ok_iff.1 h
  obtain ⟨affinity, -, h⟩ := bind_eq_ok_iff.1 h
  obtain rfl := pure_eq_ok_iff.1 h
  refine ⟨others, containers, hothers, hcontainers, ?_, ?_⟩
  · simp [Node.listAt]
  · have ha : Mapping.lookup? (affinity.toList.map fun node => ("affinity", node)) "volumes" = none :=
      Mapping.lookup?_of_forall_ne (by simp)
    have hs : Mapping.lookup? ((serviceAccount g s).toList.map fun node => ("serviceAccountName", node))
        "volumes" = none := Mapping.lookup?_of_forall_ne (by simp)
    simp [Node.listAt, ha, hs]

/-- The lists in the template of pods. -/
theorem podTemplate_ok {m : Manifest} {s : Settings} {g : Group} {template : Mapping}
    (h : podTemplate m s g = .ok template) :
    ∃ others containers, colocatedGroups m g = .ok others ∧
      (g :: others).mapM (container m s) = .ok containers ∧
      (Node.entries template).listAt ["spec", "containers"] = containers ∧
      (Node.entries template).listAt ["spec", "volumes"] = podVolumes (g :: others) := by
  obtain ⟨spec, hspec, h⟩ := bind_eq_ok_iff.1 h
  obtain rfl := pure_eq_ok_iff.1 h
  obtain ⟨others, containers, hothers, hcontainers, hc, hv⟩ := podSpec_ok hspec
  refine ⟨others, containers, hothers, hcontainers, ?_, ?_⟩
  · rw [← hc]
    simp [Node.listAt]
  · rw [← hv]
    simp [Node.listAt]

/-- Every template has a policy, which is the same for all. -/
theorem get?_restartPolicy {m : Manifest} {s : Settings} {g : Group} {template : Mapping}
    (h : podTemplate m s g = .ok template) :
    (Node.entries template).get? ["spec", "restartPolicy"] = some (.string "Always") := by
  obtain ⟨spec, hspec, h⟩ := bind_eq_ok_iff.1 h
  obtain rfl := pure_eq_ok_iff.1 h
  obtain ⟨others, -, hspec⟩ := bind_eq_ok_iff.1 hspec
  obtain ⟨containers, -, hspec⟩ := bind_eq_ok_iff.1 hspec
  obtain ⟨affinity, -, hspec⟩ := bind_eq_ok_iff.1 hspec
  obtain rfl := pure_eq_ok_iff.1 hspec
  simp

end RoleChart.Pod
