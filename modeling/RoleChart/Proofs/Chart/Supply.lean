import RoleChart.Proofs.Chart.Coverage
import RoleChart.Proofs.Chart.Values

/-!
# What the values of a chart supply

The paths at which the document with the values has an entry: those that every chart has, those of secrets
and policies, and those of the sizing values of each group.

## Main statements

* `covers_fixed` — a text that looks up nothing but what every chart has is covered
* `covers_secret`, `covers_policy` — so are the paths of secrets and of policies
* `covers_sizing` — so is a sizing value that the group has
-/

namespace RoleChart.Chart

open RoleChart.Document RoleChart.Built
open Template (valuePaths valuesPrefix IsStep isPathChar)

variable {m : Manifest} {s : Settings} {g : Group} {v : Node} {text : String}

/-! ## What every chart has -/

/-- The paths at which every chart has a value. -/
def fixedPaths : List (List String) :=
  [["config", "HA"], ["config", "cpu", "limits"], ["config", "cpu", "requests"],
    ["config", "memory", "limits"], ["config", "memory", "requests"], ["kube", "auth"],
    ["kube", "external_ips"], ["kube", "hostpath_available"], ["kube", "organization"],
    ["kube", "registry", "hostname"], ["kube", "registry", "password"],
    ["kube", "registry", "username"], ["kube", "storage_class", "persistent"],
    ["kube", "storage_class", "shared"], ["services", "loadbalanced"]]

theorem clusterValues_ok {cluster : Mapping} (h : clusterValues m s = .ok cluster) :
    ∃ policies, policyValues m = .ok policies ∧
      cluster = [
        ("auth", (Node.string s.authMode.toText).withComment "Authorization mode: rbac or none."),
        ("external_ips", .items (s.externalIps.map Node.literal)),
        ("hostpath_available",
          (Node.flag false).withComment "Whether the cluster allows host path volumes."),
        ("organization", .literal s.organization),
        ("psp", (Node.entries policies).withComment
          "Names of existing pod security policies to use instead of creating them."),
        ("registry", .entries [("hostname", .literal s.registry),
          ("password", .literal (s.credentials.getD ⟨"", ""⟩).password),
          ("username", .literal (s.credentials.getD ⟨"", ""⟩).username)]),
        ("storage_class",
          .entries [("persistent", .string "persistent"), ("shared", .string "shared")])] := by
  obtain ⟨policies, hpolicies, h⟩ := bind_eq_ok_iff.1 h
  exact ⟨policies, hpolicies, (pure_eq_ok_iff.1 h).symm⟩

theorem has_fixed (hv : values m s = .ok v) : ∀ path ∈ fixedPaths, Has v path := by
  obtain ⟨environment, cluster, secrets, sizes, -, hcluster, -, -, rfl⟩ := values_ok hv
  obtain ⟨policies, -, rfl⟩ := clusterValues_ok hcluster
  simp [fixedPaths, Has, configuration, Node.withComment]

/-- A text that looks up nothing but what every chart has. -/
theorem covers_fixed (hv : values m s = .ok v)
    (h : ∀ path ∈ valuePaths text.toList, path ∈ fixedPaths) : Covers v text :=
  fun path hpath _ => has_fixed hv path (h path hpath)

/-! ## Secrets and policies -/

/-- A path by its steps is covered if the values have an entry there, or need not have it. -/
theorem covers_steps {steps : List String} (hne : steps ≠ []) (hsteps : ∀ step ∈ steps, IsStep step)
    (htext : text.toList = valuesPrefix ++ Text.join ['.'] (steps.map String.toList))
    (h : Promised steps = true → Has v steps) : Covers v text := by
  intro path hpath hpromised
  rw [htext, Template.valuePaths_steps hne hsteps] at hpath
  obtain rfl := List.mem_singleton.1 hpath
  exact h hpromised

theorem covers_secret (hv : values m s = .ok v) {x : Variable} (hx : x ∈ m.declarations)
    (hname : IsStep x.name) (hsecret : x.isExternalSecret = true) :
    Covers v (".Values.secrets." ++ x.name) := by
  have hsteps : ∀ step ∈ ["secrets", x.name], IsStep step := by
    simp only [List.forall_mem_cons]
    exact ⟨by decide, hname, by simp⟩
  refine covers_steps (by simp) hsteps ?_ ?_
  · simp only [String.toList_append, List.append_assoc, List.map_cons, List.map_nil, Text.join]
    rfl
  · intro _
    obtain ⟨environment, cluster, secrets, sizes, -, -, hsecrets, -, rfl⟩ := values_ok hv
    have hmem : x ∈ m.sortedVariables.filter Variable.isExternalSecret :=
      List.mem_filter.2 ⟨List.mem_mergeSort.2 hx, hsecret⟩
    obtain ⟨node, -, hfound⟩ := (adds_secretValues hsecrets).found x hmem
    simp [Has, hfound]

theorem covers_policy (hv : values m s = .ok v) {policy : String × Yaml.Value}
    (hpolicy : policy ∈ m.authorization.podSecurityPolicies) (hname : IsStep policy.1) :
    Covers v (".Values.kube.psp." ++ varName policy.1) := by
  have hsteps : ∀ step ∈ ["kube", "psp", varName policy.1], IsStep step := by
    simp only [List.forall_mem_cons]
    exact ⟨by decide, by decide, Template.isStep_varName hname, by simp⟩
  refine covers_steps (by simp) hsteps ?_ ?_
  · simp only [String.toList_append, List.append_assoc, List.map_cons, List.map_nil, Text.join]
    rfl
  · intro _
    obtain ⟨environment, cluster, secrets, sizes, -, hcluster, -, -, rfl⟩ := values_ok hv
    obtain ⟨policies, hpolicies, rfl⟩ := clusterValues_ok hcluster
    obtain ⟨node, -, hfound⟩ := (adds_policyValues hpolicies).found policy hpolicy
    simp [Has, Node.withComment, hfound]

/-! ## Sizing -/

/-- The sections of the sizing values of a group that are looked up, the number of replicas aside. -/
theorem groupSizing_ok {sizes : Mapping} (h : groupSizing g = .ok sizes) :
    ∃ disks ports, diskSizes g = .ok disks ∧ portCounts g = .ok ports ∧
      (Mapping.lookup? sizes "capabilities").isSome = true ∧
      (∀ kind ∈ ["memory", "cpu"], ∃ limit request comment, Mapping.lookup? sizes kind
        = some ((demandNode limit request).withComment comment)) ∧
      (disks ≠ [] → ∃ comment, Mapping.lookup? sizes "disk_sizes"
        = some ((Node.entries disks).withComment comment)) ∧
      (ports ≠ [] → Mapping.lookup? sizes "ports" = some (.entries ports)) := by
  obtain ⟨disks, hdisks, h⟩ := bind_eq_ok_iff.1 h
  obtain ⟨ports, hports, h⟩ := bind_eq_ok_iff.1 h
  rw [← pure_eq_ok_iff.1 h]
  refine ⟨disks, ports, hdisks, hports, by simp, ?_, fun hsome => ?_, fun hsome => ?_⟩
  · simp only [List.forall_mem_cons, Mapping.lookup?_append,
      lookup?_unless _ (by decide : "disk_sizes" ≠ "memory")]
    refine ⟨?_, ?_, by simp⟩ <;> cases g.isManaged <;> simp <;> exact ⟨_, _, _, rfl⟩
  · simp only [Mapping.lookup?_append]
    cases g.isManaged <;> simp [hsome] <;> exact ⟨_, rfl⟩
  · simp only [Mapping.lookup?_append, lookup?_unless _ (by decide : "disk_sizes" ≠ "ports")]
    cases g.isManaged <;> simp [hsome]

/-- The number of ports of a definition that can be configured is among the sizing values of its group. -/
theorem get?_portCount {sizes : Mapping} (h : groupSizing g = .ok sizes) {definitions : List Port.Definition}
    (hdefinitions : g.portDefinitions = .ok definitions) {d : Port.Definition} (hd : d ∈ definitions)
    (hcounted : d.countIsConfigurable = true) :
    (Node.entries sizes).get? ["ports", varName d.name, "count"] = some (.number d.count) := by
  obtain ⟨disks, ports, -, hports, -, -, -, hsection⟩ := groupSizing_ok h
  obtain ⟨same, hsame, hadds⟩ := adds_portCounts hports
  obtain rfl : definitions = same := by simpa [hdefinitions] using hsame
  obtain ⟨node, rfl, hfound⟩ := hadds.found d (List.mem_filter.2 ⟨hd, hcounted⟩)
  -- the entry is there, so the mapping of all ports is
  have hsome : ports ≠ [] := by
    rintro rfl
    simp at hfound
  simp [hsection hsome, hfound]

/-- The sizing values of a group stand under its name. -/
theorem exists_sizing (hv : values m s = .ok v) (hg : g ∈ m.groups) : ∃ sizes, groupSizing g = .ok sizes ∧
    ∀ path, path ≠ [] → v.get? ("sizing" :: g.varName :: path) = (Node.entries sizes).get? path := by
  obtain ⟨environment, cluster, secrets, sizes, -, -, -, hsizes, rfl⟩ := values_ok hv
  obtain ⟨node, ⟨found, comment, hfound, rfl⟩, hlookup⟩ := sizing_ok hsizes g hg
  refine ⟨found, hfound, fun path hne => ?_⟩
  obtain ⟨first, rest, rfl⟩ := List.exists_cons_of_ne_nil hne
  simp [hlookup, Node.withComment]

/-- A sizing value is covered if it is among those of its group. -/
theorem covers_sizing (hv : values m s = .ok v) (hg : g ∈ m.groups) (hname : IsStep g.name) {key : String}
    (steps : List String) (hne : steps ≠ []) (hsteps : ∀ step ∈ steps, IsStep step)
    (hkey : key.toList = Text.join ['.'] (steps.map String.toList))
    (h : ∀ sizes, groupSizing g = .ok sizes → ((Node.entries sizes).get? steps).isSome = true) :
    Covers v (sizingPath g.varName key) := by
  have hall : ∀ step ∈ "sizing" :: g.varName :: steps, IsStep step := by
    simp only [List.forall_mem_cons]
    exact ⟨by decide, Template.isStep_varName hname, hsteps⟩
  refine covers_steps (by simp) hall ?_ ?_
  · unfold sizingPath
    obtain ⟨first, rest, rfl⟩ := List.exists_cons_of_ne_nil hne
    simp only [String.toList_append, List.append_assoc, hkey, List.map_cons, Text.join]
    rfl
  · intro _
    obtain ⟨sizes, hsizes, hfound⟩ := exists_sizing hv hg
    rw [Has, hfound steps hne]
    exact h sizes hsizes

theorem covers_capabilities (hv : values m s = .ok v) (hg : g ∈ m.groups) (hname : IsStep g.name) :
    Covers v (sizingPath g.varName "capabilities") := by
  refine covers_sizing hv hg hname ["capabilities"] (by simp) (by decide) rfl ?_
  intro sizes hsizes
  obtain ⟨disks, ports, -, -, hcapabilities, -, -, -⟩ := groupSizing_ok hsizes
  simpa using hcapabilities

theorem covers_count (hv : values m s = .ok v) (hg : g ∈ m.groups) (hname : IsStep g.name)
    (hmanaged : g.isManaged = true) : Covers v (countPath g.varName) := by
  refine covers_sizing hv hg hname ["count"] (by simp) (by decide) rfl ?_
  intro sizes hsizes
  simp [lookup?_count hsizes, hmanaged]

theorem covers_amount (hv : values m s = .ok v) (hg : g ∈ m.groups) (hname : IsStep g.name)
    {kind level : String} (hkind : kind ∈ ["memory", "cpu"]) (hlevel : level ∈ ["requests", "limits"]) :
    Covers v (sizingPath g.varName (kind ++ "." ++ level)) := by
  have hsteps : ∀ step ∈ [kind, level], IsStep step := by
    have hkinds : ∀ step ∈ ["memory", "cpu"], IsStep step := by decide
    have hlevels : ∀ step ∈ ["requests", "limits"], IsStep step := by decide
    simp only [List.forall_mem_cons]
    exact ⟨hkinds kind hkind, hlevels level hlevel, by simp⟩
  refine covers_sizing hv hg hname [kind, level] (by simp) hsteps ?_ ?_
  · simp only [String.toList_append, List.map_cons, List.map_nil, Text.join]
    rfl
  · intro sizes hsizes
    obtain ⟨disks, ports, -, -, -, hdemands, -, -⟩ := groupSizing_ok hsizes
    obtain ⟨limit, request, comment, hfound⟩ := hdemands kind hkind
    simp only [List.mem_cons, List.not_mem_nil, or_false] at hlevel
    rcases hlevel with rfl | rfl <;> simp [hfound, demandNode, Node.withComment]

theorem covers_diskSize (hv : values m s = .ok v) (hg : g ∈ m.groups) (hname : IsStep g.name)
    {volume : Volume} (hvolume : volume ∈ g.claimVolumes) (htag : IsStep volume.tag) :
    Covers v (sizingPath g.varName ("disk_sizes." ++ varName volume.tag)) := by
  have hsteps : ∀ step ∈ ["disk_sizes", varName volume.tag], IsStep step := by
    simp only [List.forall_mem_cons]
    exact ⟨by decide, Template.isStep_varName htag, by simp⟩
  refine covers_sizing hv hg hname _ (by simp) hsteps ?_ ?_
  · simp only [String.toList_append, List.map_cons, List.map_nil, Text.join]
    rfl
  · intro sizes hsizes
    obtain ⟨disks, ports, hdisks, -, -, -, hsection, -⟩ := groupSizing_ok hsizes
    obtain ⟨node, -, hfound⟩ := (adds_diskSizes hdisks).found volume hvolume
    -- the entry is there, so the mapping of all sizes is
    have hsome : disks ≠ [] := by
      rintro rfl
      simp at hfound
    obtain ⟨comment, hsection⟩ := hsection hsome
    simp [hsection, hfound, Node.withComment]

theorem covers_portCount (hv : values m s = .ok v) (hg : g ∈ m.groups) (hname : IsStep g.name)
    {definitions : List Port.Definition} (hdefinitions : g.portDefinitions = .ok definitions)
    {d : Port.Definition} (hd : d ∈ definitions) (hcounted : d.countIsConfigurable = true)
    (hport : IsStep d.name) : Covers v (d.countPath g.varName) := by
  have hsteps : ∀ step ∈ ["ports", varName d.name, "count"], IsStep step := by
    simp only [List.forall_mem_cons]
    exact ⟨by decide, Template.isStep_varName hport, by decide, by simp⟩
  refine covers_sizing hv hg hname _ (by simp) hsteps ?_ ?_
  · simp only [String.toList_append, List.append_assoc, List.map_cons, List.map_nil, Text.join]
    rfl
  · intro sizes hsizes
    rw [get?_portCount hsizes hdefinitions hd hcounted]
    rfl

end RoleChart.Chart
