import RoleChart.Proofs.Chart.Environment
import RoleChart.Proofs.Chart.Supply
import RoleChart.Proofs.Workload.Volumes

/-!
# What pods look up

A chart takes much of a container from its values: the registry of its image, the numbers of its ports, its
resources and capabilities. For a regular group of the manifest, the values have all of it.

## Main statements

* `covered_container` — the values have what a container looks up
* `podTemplate_parts` — and what the template of its pods does, with the colocated groups in it
-/

namespace RoleChart.Chart

open RoleChart.Document RoleChart.Built
open Template (Free IsStep action)
open Pod (container)

variable {m : Manifest} {s : Settings} {g : Group} {v : Node}

/-! ## Images -/

/-- A tag has digits of a hash and no dots. -/
theorem dot_not_mem_imageTag {tag : String} (h : Pod.imageTag g s = .ok tag) : '.' ∉ tag.toList := by
  unfold Pod.imageTag at h
  split at h
  · obtain rfl := Except.ok.inj h
    rw [Pod.tagOf, String.toList_ofList]
    exact fun hm => Template.dot_not_mem_hex _ (List.mem_of_mem_take hm)
  · cases h

/-- An image looks up the two fixed values for the registry and the organization. -/
theorem covers_imageReference (hs : s.chart = true) (hv : values m s = .ok v) (hr : g.Regular)
    (hrepository : Free s.repository.toList) {image : String} (h : Pod.imageReference g s = .ok image) :
    Covers v image := by
  unfold Pod.imageReference at h
  simp only [hs, if_true] at h
  obtain ⟨tag, htag, h⟩ := bind_eq_ok_iff.1 h
  obtain rfl := pure_eq_ok_iff.1 h
  have hslash : Covers v "/" := covers_of_unpromised (by decide)
  have hhost : Covers v ".Values.kube.registry.hostname" := covers_fixed hv (by decide)
  have horganization : Covers v ".Values.kube.organization" := covers_fixed hv (by decide)
  have htagged : Free tag.toList :=
    Template.free_of_not_mem (c := '.') (by decide) (dot_not_mem_imageTag htag)
  -- the dash in front of the name of the group does not end a word, so the name is put together first
  have hname : Free (s.repository ++ "-" ++ g.name ++ ":" ++ tag).toList :=
    Template.free_around ":" (Template.free_around "-" hrepository (Template.free_of_isStep hr.name)
      (by decide) rfl rfl) htagged (by decide) rfl rfl
  have hregistry := covers_around "/" (covers_action hhost) (covers_action horganization) hslash rfl rfl
  have himage := covers_around "/" hregistry (covers_of_free hname) hslash rfl rfl
  simpa only [String.append_assoc] using himage

/-! ## Ports -/

theorem covered_containerPort {number name : Node} {protocol : String} (hnumber : Covered v number)
    (hname : Covered v name) (hprotocol : Free protocol.toList) :
    Covered v (Pod.containerPort number name protocol) :=
  covered_entries (.cons hnumber (.cons hname (.single (covered_string hprotocol))))

/-- The number of a counted port is made by the loop, from no value. -/
theorem covered_countedPort (first : Nat) : Covered v (Pod.countedPort first) := by
  have hadd : Covers v "add " := covers_of_unpromised (by decide)
  have hindex : Covers v " $i" := covers_of_unpromised (by decide)
  have hsum := covers_append (covers_append hadd (covers_digits first) (.inl rfl)) hindex (.inr rfl)
  exact covered_verbatim (covers_action hsum)

/-- So is its name. -/
theorem covered_countedName {beginning : String} (h : '.' ∉ beginning.toList) :
    Covered v (Pod.countedName beginning) := by
  have hindex : Free (action "$i").toList := by decide
  have hbeginning : Free beginning.toList := Template.free_of_not_mem (c := '.') (by decide) h
  exact covered_verbatim (covers_of_free
    (Template.free_around "-" hbeginning hindex (by decide) rfl rfl))

/-- The definitions of ports have names that can be steps, and protocols in capitals. -/
theorem isStep_of_mem_portDefinitions (hr : g.Regular) {definitions : List Port.Definition}
    (hdefinitions : g.portDefinitions = .ok definitions) {d : Port.Definition} (hd : d ∈ definitions) :
    IsStep d.name ∧ Free d.protocol.toList := by
  obtain ⟨port, hport, hok⟩ := exists_of_mem_mapM hdefinitions hd
  have hkeeps := Port.Definition.ofExposed_ok hok
  refine ⟨hkeeps.name ▸ hr.ports port hport, ?_⟩
  rw [hkeeps.protocol, String.toList_ofList]
  exact Template.free_upper _

/-- The beginning of the names of ports has no dot. -/
theorem dot_not_mem_namePrefix {d : Port.Definition} {beginning : String}
    (h : d.namePrefix = .ok beginning) : '.' ∉ beginning.toList := by
  obtain ⟨base, hbase, rfl⟩ := map_eq_ok_iff.1 h
  unfold Port.Definition.named at hbase
  split at hbase
  · next found hfound =>
    obtain rfl := Except.ok.inj hbase
    rw [String.toList_ofList]
    exact Template.dot_not_mem_of_rangePrefix? hfound
  · cases hbase

theorem dot_not_mem_containerPorts {d : Port.Definition} {ports : List Port.Named}
    (h : d.containerPorts = .ok ports) : ∀ port ∈ ports, '.' ∉ port.name :=
  Template.dot_not_mem_of_named? (Port.Definition.named?_of_containerPorts h)

theorem free_portName {port : Port.Named} (h : '.' ∉ port.name) :
    Free (String.ofList port.name).toList := by
  rw [String.toList_ofList]
  exact Template.free_of_not_mem (c := '.') (by decide) h

/-- The loop over counted ports looks up their number, which the values have for a port that can be counted. -/
theorem covered_definitionPorts (hv : values m s = .ok v) (hg : g ∈ m.groups) (hr : g.Regular)
    {definitions : List Port.Definition} (hdefinitions : g.portDefinitions = .ok definitions)
    {d : Port.Definition} (hd : d ∈ definitions) {ports : List Node}
    (h : Pod.definitionPorts g s d = .ok ports) : ∀ port ∈ ports, Covered v port := by
  obtain ⟨hname, hprotocol⟩ := isStep_of_mem_portDefinitions hr hdefinitions hd
  unfold Pod.definitionPorts at h
  split at h
  · next hcounted =>
    have hcounted : d.countIsConfigurable = true := (Bool.and_eq_true_iff.1 hcounted).2
    obtain ⟨beginning, hbeginning, h⟩ := bind_eq_ok_iff.1 h
    obtain rfl := pure_eq_ok_iff.1 h
    have hport : Covered v (Pod.containerPort (Pod.countedPort d.internal.first)
        (Pod.countedName beginning) d.protocol) :=
      covered_containerPort (covered_countedPort _)
        (covered_countedName (dot_not_mem_namePrefix hbeginning)) hprotocol
    have hcount := covers_portCount hv hg hr.name hdefinitions hd hcounted hname
    intro port hmem
    rw [List.mem_singleton.1 hmem]
    exact hport.withBlock (covers_countBlock hcount)
  · obtain ⟨named, hnamed, h⟩ := bind_eq_ok_iff.1 h
    obtain rfl := pure_eq_ok_iff.1 h
    intro port hmem
    obtain ⟨p, hp, rfl⟩ := List.mem_map.1 hmem
    exact covered_containerPort (covered_number _)
      (covered_string (free_portName (dot_not_mem_containerPorts hnamed p hp))) hprotocol

theorem covered_containerPorts (hv : values m s = .ok v) (hg : g ∈ m.groups) (hr : g.Regular)
    {ports : List Node} (h : Pod.containerPorts g s = .ok ports) : ∀ port ∈ ports, Covered v port := by
  obtain ⟨definitions, hdefinitions, h⟩ := bind_eq_ok_iff.1 h
  obtain ⟨found, hfound, h⟩ := bind_eq_ok_iff.1 h
  obtain rfl := pure_eq_ok_iff.1 h
  intro port hport
  obtain ⟨some, hsome, hport⟩ := List.mem_flatten.1 hport
  obtain ⟨d, hd, hports⟩ := exists_of_mem_mapM hfound hsome
  exact covered_definitionPorts hv hg hr hdefinitions hd hports port hport

/-! ## Environments -/

theorem toNat_lt_of_isStepChar {c : Char} (h : Template.isStepChar c = true) : c.toNat < 0x80 := by
  simp only [Template.isStepChar, Text.isAlphanumeric, Text.isDigit, Bool.or_eq_true, Bool.and_eq_true,
    decide_eq_true_eq, beq_iff_eq] at h
  rcases h with (((h | h) | h) | rfl) | rfl
  · omega
  · omega
  · omega
  · decide
  · decide

/-- The key of a secret is made of characters of a step, so there is no dot in it. -/
theorem free_secretKey {name : String} (h : IsStep name) : Free (secretKey name).toList := by
  have hchars := List.all_eq_true.1 h
  have hkey : ∀ n < 0x80, Template.isStepChar (Char.ofNat n) = true →
      (if Text.lowerAscii (Char.ofNat n) = '_' then '-' else Text.lowerAscii (Char.ofNat n)) ≠ '.' := by
    decide +kernel
  refine Template.free_of_not_mem (c := '.') (by decide) ?_
  rw [secretKey, String.toList_ofList,
    Text.lower_of_ascii _ fun c hc => toNat_lt_of_isStepChar (hchars c hc)]
  intro hdot
  simp only [List.map_map, List.mem_map, Function.comp_apply] at hdot
  obtain ⟨c, hc, hdot⟩ := hdot
  exact Text.of_toNat_lt (p := fun c => Template.isStepChar c = true →
    (if Text.lowerAscii c = '_' then '-' else Text.lowerAscii c) ≠ '.') hkey
      (toNat_lt_of_isStepChar (hchars c hc)) (hchars c hc) hdot

theorem free_secretName (s : Settings) : Free (secretName s).toList := by
  unfold secretName
  split
  · decide
  split
  · exact Template.free_append (by decide) (by decide) (.inr rfl)
  · decide

theorem free_ownSecretName (x : Variable) : Free (x.secretName s).toList := by
  unfold Variable.secretName
  split
  · decide
  · exact free_secretName s

/-- A reference to a secret is data. -/
theorem covered_envSecret {x : Variable} (hx : IsStep x.name) : Covered v (Pod.envSecret s x) := by
  have hname : Covered v (.string x.name) := covered_string (Template.free_of_isStep hx)
  have hreference : AllCovered v
      [("key", .string (secretKey x.name)), ("name", .string (x.secretName s))] :=
    .cons (covered_string (free_secretKey hx)) (.single (covered_string (free_ownSecretName x)))
  exact covered_entries (.cons hname (.single (covered_entries (.single (covered_entries hreference)))))

/-- A plain variable is looked up under a section that the values need not have. -/
theorem covers_plainText {x : Variable} (hx : IsStep x.name) : Covers v (plainText x) := by
  have hpath : Covers v (".Values.env." ++ x.name) := by
    have hsteps : ∀ step ∈ ["env", x.name], IsStep step := by
      simp only [List.forall_mem_cons]
      exact ⟨by decide, hx, by simp⟩
    have htext : (".Values.env." ++ x.name).toList
        = Template.valuesPrefix ++ Text.join ['.'] (["env", x.name].map String.toList) := by
      simp only [String.toList_append, List.append_assoc, List.map_cons, List.map_nil, Text.join]
      rfl
    exact covers_steps (by simp) hsteps htext fun h => by simp [Promised] at h
  have hpipe : Covers v " | quote" := covers_of_unpromised (by decide)
  unfold plainText
  refine covers_action (covers_append ?_ hpipe (.inr rfl))
  split
  · exact covers_requiredValue (Template.free_of_isStep hx) hpath
  · exact hpath

/-- The written form of the name of a number of replicas still begins like it. -/
theorem isCountEntry_of_sizingTarget? {name target : String} (h : Pod.sizingTarget? name = some target)
    (value : Node) : isCountEntry [("name", .string name), ("value", value)] = true := by
  obtain ⟨rest, hrest, -⟩ := Option.bind_eq_some_iff.1 h
  have hname := (Text.dropPrefix?_eq_some_iff _ _ _).1 hrest
  have hquoted : doubleQuoted name.toList
      = '"' :: ("KUBE_SIZING_".toList ++ (rest.flatMap escaped ++ ['"'])) := by
    have hself : "KUBE_SIZING_".toList.flatMap escaped = "KUBE_SIZING_".toList := by decide
    rw [doubleQuoted, hname, List.flatMap_append, hself]
    simp
  have hbegins : ∀ more, "KUBE_SIZING_".toList.isPrefixOf
      (("KUBE_SIZING_".toList ++ more).dropWhile (· == '"')) = true := fun more => by
    simp
  simp only [isCountEntry, Node.string, String.toList_ofList]
  unfold quote
  split
  · rw [hname]
    exact hbegins rest
  · split
    · rw [hquoted]
      exact hbegins _
    · rw [hname]
      exact hbegins rest

/-- The number of replicas of a group is looked up among the sizing values. -/
theorem coveredAside_countValue (hname : IsStep g.name) :
    CoveredAside v (.verbatim (action (countPath g.varName ++ " | quote"))) := by
  refine coveredAside_of_sizing fun path hpath => ?_
  have hcount : Template.valuePaths (countPath g.varName).toList = [["sizing", g.varName, "count"]] :=
    valuePaths_countPath (Template.isStep_varName hname)
  rw [lookups_verbatim, valuePaths_quoted, hcount] at hpath
  rw [List.mem_singleton.1 hpath]
  rfl

/-- Numbers of replicas aside, the values have what an entry looks up or it is required. -/
theorem covered_envEntry (hs : s.chart = true) (hm : m.Regular) {x : Variable} (hx : IsStep x.name)
    {entry : Node} (h : Pod.envEntry m s x = .ok (some entry)) : Covered v entry := by
  have hname : Covered v (.string x.name) := covered_string (Template.free_of_isStep hx)
  rcases envEntry_of_chart hs h with ⟨target, g, htarget, hg, he⟩ | ⟨-, -, he⟩ | ⟨-, -, he⟩
  · obtain rfl := Option.some.inj he
    have hregular : g.Regular := hm.groups g (List.mem_of_find?_eq_some hg)
    refine covered_countEntry (isCountEntry_of_sizingTarget? htarget _) ?_
    simp only [List.forall_mem_cons]
    exact ⟨hname.aside, coveredAside_countValue hregular.name, by simp⟩
  · obtain rfl := Option.some.inj he
    exact covered_envSecret hx
  · obtain rfl := Option.some.inj he
    exact covered_entries (.cons hname (.single (covered_verbatim (covers_plainText hx))))

theorem covered_namespaceEntry : Covered v Pod.namespaceEntry := by
  have hname : Covered v (.string "KUBERNETES_NAMESPACE") := covered_string (by decide)
  have hpath : Covered v (.string "metadata.namespace") := covered_string (by decide)
  exact covered_entries (.cons hname (.single (covered_entries (.single
    (covered_entries (.single hpath))))))

/-- The namespace of the pod is asked of the cluster and not of the values. -/
theorem covered_environment (hs : s.chart = true) (hm : m.Regular) {env : List Node}
    (h : Pod.environment m s g = .ok env) : ∀ entry ∈ env, Covered v entry := by
  intro entry hentry
  rcases Pod.exists_of_mem_environment h hentry with ⟨x, hx, -, he⟩ | rfl
  · have hdeclared : x ∈ m.declarations := List.mem_of_find?_eq_some (Pod.declared?_of_mem_variablesOf hx)
    exact covered_envEntry hs hm (hm.declarations x hdeclared) he
  · exact covered_namespaceEntry

/-! ## Volumes -/

theorem covered_mounts (hr : g.Regular) : ∀ mount ∈ Pod.mounts g, Covered v mount := by
  intro node hnode
  obtain ⟨volume, hvolume, rfl⟩ := List.mem_map.1 hnode
  obtain ⟨kind, -, hvolume⟩ := List.mem_flatMap.1 hvolume
  have hmem : volume ∈ g.run.volumes := (List.mem_filter.1 hvolume).1
  have hpath : Covered v (.string volume.path) := covered_string (hr.volume hmem).1
  have htag : Covered v (.string volume.tag) := covered_string (Template.free_of_isStep (hr.tags _ hmem))
  exact covered_entries (.cons hpath (.cons htag (.single (covered_flag false))))

theorem covered_podVolume {volume : Volume} (htag : IsStep volume.tag) (hpath : Free volume.path.toList) :
    Covered v (Pod.podVolume volume) := by
  have hname : Covered v (.string volume.tag) := covered_string (Template.free_of_isStep htag)
  have hdirectory : AllCovered v [("path", .string volume.path), ("type", .string "Directory")] :=
    .cons (covered_string hpath) (.single (covered_string (by decide)))
  unfold Pod.podVolume
  refine covered_entries (.cons hname ?_)
  split
  · exact .single (covered_entries hdirectory)
  · exact .single (covered_entries .nil)

/-- Tags and paths of volumes are free of paths to values. -/
theorem covered_podVolumes {groups : List Group} (hr : ∀ g ∈ groups, g.Regular) :
    ∀ node ∈ Pod.podVolumes groups, Covered v node := by
  intro node hnode
  obtain ⟨volume, hvolume, rfl⟩ := List.mem_map.1 hnode
  have hmem := (List.mem_filter.1 (Pod.firstOfTag_subset _ hvolume)).1
  obtain ⟨g, hg, hmem⟩ := List.mem_flatMap.1 hmem
  exact covered_podVolume ((hr g hg).tags _ hmem) ((hr g hg).volume hmem).1

/-! ## Resources and capabilities -/

/-- Both amounts of both kinds are among the values of the size of a group. -/
theorem covered_chartAmount (hv : values m s = .ok v) (hg : g ∈ m.groups) (hr : g.Regular)
    {kind unit level : String} (hkind : (kind, unit) ∈ [("memory", "Mi"), ("cpu", "m")])
    (hlevel : level ∈ ["requests", "limits"]) :
    Covered v (Pod.chartAmount g.varName level kind unit).2 := by
  have hkind' : kind ∈ ["memory", "cpu"] := List.mem_map_of_mem (f := Prod.fst) hkind
  have hamount := covers_amount hv hg hr.name hkind' hlevel
  have hint : Covers v "int " := covers_of_unpromised (by decide)
  have hunit : Covers v unit := by
    simp only [List.mem_cons, Prod.mk.injEq, List.not_mem_nil, or_false] at hkind
    rcases hkind with ⟨-, rfl⟩ | ⟨-, rfl⟩
    · exact covers_of_unpromised (by decide)
    · exact covers_of_unpromised (by decide)
  have hswitch : Covers v (Pod.switchPath kind level) := by
    simp only [List.mem_cons, List.not_mem_nil, or_false] at hkind' hlevel
    rcases hkind' with rfl | rfl <;> rcases hlevel with rfl | rfl <;> exact covers_fixed hv (by decide)
  have hvalue := covers_action (covers_append hint hamount (.inl rfl))
  exact (covered_verbatim (covers_append hvalue hunit (.inl (endsWord_action _)))).withBlock
    (covers_ifBlock ⟨hswitch, hamount⟩)

/-- Each level is behind a switch of its own among the fixed values. -/
theorem allCovered_resources (hs : s.chart = true) (hv : values m s = .ok v) (hg : g ∈ m.groups)
    (hr : g.Regular) : AllCovered v (Pod.resources g s) := by
  unfold Pod.resources Pod.chartResources
  rw [if_pos hs]
  refine .ite (fun _ => .nil) fun _ => .of_forall fun entry hentry => ?_
  obtain ⟨level, hlevel, rfl⟩ := List.mem_map.1 hentry
  refine covered_entries (.of_forall fun entry hentry => ?_)
  obtain ⟨⟨kind, unit⟩, hkind, rfl⟩ := List.mem_map.1 hentry
  have hkind : (kind, unit) ∈ [("memory", "Mi"), ("cpu", "m")] := by
    cases hmemory : s.memoryLimits <;> cases hcpu : s.cpuLimits <;> simp_all
  exact covered_chartAmount hv hg hr hkind hlevel

/-- The list of capabilities is among the values of the size of a group. -/
theorem allCovered_securityContext (hs : s.chart = true) (hv : values m s = .ok v) (hg : g ∈ m.groups)
    (hr : g.Regular) : AllCovered v (Pod.securityContext g s) := by
  have hpath := covers_capabilities hv hg hr.name
  have hall : Known v (.lists Pod.allCapabilities (sizingPath g.varName "capabilities")) :=
    ⟨by decide, hpath⟩
  have hmore : Covers v (action ". | upper") := covers_action (covers_of_unpromised (by decide))
  have hadd : ∀ node ∈ (g.run.capabilities.map fun c => String.ofList (Text.upper c.toList)).map Node.string,
      Covered v node := by
    intro node hnode
    simp only [List.map_map, List.mem_map, Function.comp_apply] at hnode
    obtain ⟨capability, -, rfl⟩ := hnode
    exact covered_string (by rw [String.toList_ofList]; exact Template.free_upper _)
  have hitems : Covered v (.items ((g.run.capabilities.map fun c =>
      String.ofList (Text.upper c.toList)).map Node.string
      ++ [(Node.verbatim (action ". | upper")).withBlock
        (Template.rangeBlock (sizingPath g.varName "capabilities"))])) := by
    refine covered_items fun node hnode => ?_
    rcases List.mem_append.1 hnode with hnode | hnode
    · exact hadd node hnode
    · rw [List.mem_singleton.1 hnode]
      exact (covered_verbatim hmore).withBlock (covers_rangeBlock hpath)
  unfold Pod.securityContext
  simp only [hs, Bool.not_true, Bool.false_eq_true, if_false]
  refine .ite (fun _ => .single (covered_flag true)) fun _ => ?_
  exact .cons ((covered_flag true).withBlock (covers_ifBlock hall))
    (.single ((covered_entries (.single hitems)).withBlock (covers_ifBlock hall)))

/-! ## Probes -/

theorem covered_header {name value : String} (hname : Free name.toList) (hvalue : Free value.toList) :
    Covered v (Pod.header name value) :=
  covered_entries (.cons (covered_string hname) (.single (covered_string hvalue)))

/-- The login in a header is base64, which has no dots. -/
theorem covered_authorization (address : Url.WebAddress) :
    ∀ node ∈ Pod.authorization address, Covered v node := by
  have hname : Free "Authorization".toList := by decide
  have hlogin : ∀ text, Free ("Basic " ++ base64 text).toList := fun text =>
    Template.free_append (by decide) (Template.free_base64 text) (.inl rfl)
  unfold Pod.authorization
  split
  · simpa using covered_header hname (hlogin _)
  · split
    · simp
    · simpa using covered_header hname (hlogin _)

/-- A request holds texts of the address and of the declared headers. -/
theorem allCovered_httpGet (secure : Bool) {address : Url.WebAddress} {headers : List (String × String)}
    (hhost : Free address.host.toList) (hpath : Free address.path.toList)
    (hquery : ∀ query ∈ address.query, Free query.toList)
    (hheaders : ∀ header ∈ headers, Free header.2.toList) :
    AllCovered v (Pod.httpGet secure address headers) := by
  have hscheme : Free (if secure then "HTTPS" else "HTTP").toList := by cases secure <;> decide
  have hquestion : Free (address.path ++ (address.query.map ("?" ++ ·)).getD "").toList := by
    cases hq : address.query with
    | none => simpa using hpath
    | some query =>
      have hmarked := Template.free_around "?" hpath (hquery query hq) (by decide) rfl rfl
      simpa [String.append_assoc] using hmarked
  have hnodes : ∀ node ∈ Pod.authorization address ++ headers.map fun header =>
      Pod.header (String.ofList (Pod.canonicalHeader header.1.toList)) header.2, Covered v node := by
    intro node hnode
    rcases List.mem_append.1 hnode with hnode | hnode
    · exact covered_authorization address node hnode
    · obtain ⟨header, hmem, rfl⟩ := List.mem_map.1 hnode
      refine covered_header ?_ (hheaders _ hmem)
      rw [String.toList_ofList]
      exact Template.free_canonicalHeader _
  unfold Pod.httpGet
  refine .append (.append (.append (.single (covered_string hscheme)) ?_) ?_) ?_
  · exact .ite (fun _ => .nil) fun _ => .single (covered_string hhost)
  · exact .cons (covered_number _) (.single (covered_string hquestion))
  · exact .ite (fun _ => .nil) fun _ => .single (covered_items hnodes)

theorem covered_tcpSocket (port : Nat) : Covered v (Pod.tcpSocket port).2 :=
  covered_entries (.single (covered_number port))

/-- All texts of a probe that reach an action are free. -/
theorem covered_declaredAction {kind : Pod.ProbeKind} {p : Probe}
    (htexts : ∀ text ∈ p.texts, Free text.toList) {action : String × Node}
    (h : Pod.declaredAction? g kind p = .ok (some action)) : Covered v action.2 := by
  rcases Pod.declaredAction?_ok h with ⟨url, secure, a, hurl, hread, rfl⟩ | ⟨-, port, -, rfl⟩ | ⟨-, -, rfl⟩
  · have haddress : p.addressTexts = [a.host, a.path] ++ a.query.toList := by
      simp [Probe.addressTexts, hurl, hread]
    simp only [Probe.texts, haddress, List.mem_append, List.mem_map, List.mem_cons, List.not_mem_nil,
      Option.mem_toList, or_false] at htexts
    exact covered_entries (allCovered_httpGet secure (htexts _ (.inr (.inl (.inl rfl))))
      (htexts _ (.inr (.inl (.inr rfl)))) (fun query hquery => htexts _ (.inr (.inr hquery)))
      fun header hheader => htexts _ (.inl (.inr ⟨header, hheader, rfl⟩)))
  · exact covered_tcpSocket port
  · refine covered_entries (.single (covered_items fun node hnode => ?_))
    obtain ⟨word, hword, rfl⟩ := List.mem_map.1 hnode
    exact covered_string (htexts word (by simp [Probe.texts, hword]))

theorem allCovered_timings (kind : Pod.ProbeKind) (p : Probe) : AllCovered v (Pod.timings kind p) := by
  refine .of_forall fun entry hentry => ?_
  obtain ⟨⟨name, k⟩, -, rfl⟩ := List.mem_map.1 hentry
  exact covered_number k

/-- A probe looks up nothing. -/
theorem allCovered_probeEntry (hr : g.Regular) {kind : Pod.ProbeKind} {m : Mapping}
    (h : Pod.probeEntry g kind = .ok m) : AllCovered v m := by
  obtain ⟨probe, hprobe, h⟩ := bind_eq_ok_iff.1 h
  obtain rfl := pure_eq_ok_iff.1 h
  obtain ⟨action?, rfl, haction⟩ := Pod.probe?_ok hprobe
  refine .of_forall fun entry hentry => ?_
  obtain ⟨node, hnode, rfl⟩ := List.mem_map.1 hentry
  obtain ⟨action, hmem, rfl⟩ := Option.map_eq_some_iff.1 (Option.mem_toList.1 hnode)
  have hcovered : Covered v action.2 := by
    rcases haction with hdeclared | ⟨-, own, -, rfl⟩
    · exact covered_declaredAction (hr.probe kind) (hmem ▸ hdeclared)
    · obtain ⟨port, -, rfl⟩ := Option.map_eq_some_iff.1 hmem
      exact covered_tcpSocket port
  exact covered_entries (.cons hcovered (allCovered_timings kind _))

/-! ## Containers -/

theorem allCovered_listEntry (name : String) {nodes : List Node} (h : ∀ node ∈ nodes, Covered v node) :
    AllCovered v (Pod.listEntry name nodes) :=
  .ite (fun _ => .nil) fun _ => .single (covered_items h)

theorem allCovered_mappingEntry (name : String) {entries : Mapping} (h : AllCovered v entries) :
    AllCovered v (Pod.mappingEntry name entries) :=
  .ite (fun _ => .nil) fun _ => .single (covered_entries h)

theorem covered_lifecycle : Covered v Pod.lifecycle := by
  have hscript : Covered v (.string Pod.preStopScript) := covered_string (by decide)
  exact covered_entries (.single (covered_entries (.single (covered_entries
    (.single (covered_singleton hscript))))))

/-- The values have what a container looks up. -/
theorem covered_container (hs : s.chart = true) (hrepository : Free s.repository.toList) (hm : m.Regular)
    (hv : values m s = .ok v) (hg : g ∈ m.groups) {c : Node} (h : container m s g = .ok c) :
    Covered v c := by
  have hr := hm.groups g hg
  obtain ⟨image, ports, env, liveness, readiness, himage, hports, henv, hl, hready, rfl⟩ :=
    Pod.container_ok h
  have hname : Covered v (.string g.name) := covered_string (Template.free_of_isStep hr.name)
  have himage : Covered v (.verbatim image) :=
    covered_verbatim (covers_imageReference hs hv hr hrepository himage)
  refine covered_entries (.append (.append (.append (.append (.append (.append (.append (.append ?_ ?_)
    ?_) ?_) ?_) ?_) ?_) ?_) ?_)
  · exact .cons hname (.single himage)
  · exact allCovered_listEntry "ports" (covered_containerPorts hv hg hr hports)
  · exact .single (covered_items (covered_environment hs hm henv))
  · exact allCovered_listEntry "volumeMounts" (covered_mounts hr)
  · exact allCovered_mappingEntry "resources" (allCovered_resources hs hv hg hr)
  · exact allCovered_mappingEntry "securityContext" (allCovered_securityContext hs hv hg hr)
  · exact allCovered_probeEntry hr hl
  · exact allCovered_probeEntry hr hready
  · exact .single covered_lifecycle

/-! ## Templates of pods -/

/-- Node affinity is passed through as it is, so the values need not have it. -/
theorem covers_nodeAffinity (hname : IsStep g.name) :
    Covers v (sizingPath g.varName "affinity.nodeAffinity") := by
  have hsteps : ∀ step ∈ ["sizing", g.varName, "affinity", "nodeAffinity"], IsStep step := by
    simp only [List.forall_mem_cons]
    exact ⟨by decide, Template.isStep_varName hname, by decide, by decide, by simp⟩
  have htext : (sizingPath g.varName "affinity.nodeAffinity").toList = Template.valuesPrefix
      ++ Text.join ['.'] (["sizing", g.varName, "affinity", "nodeAffinity"].map String.toList) := by
    unfold sizingPath
    simp only [String.toList_append, List.append_assoc, List.map_cons, List.map_nil, Text.join]
    rfl
  exact covers_steps (by simp) hsteps htext fun h => by simp [Promised] at h

/-- The affinity to nodes is among the values of the size of a group. -/
theorem covered_affinity (hs : s.chart = true) (hr : g.Regular) {found : Option Node}
    (h : Pod.affinity? g s = .ok found) : ∀ node ∈ found, Covered v node := by
  have hpath := covers_nodeAffinity (v := v) hr.name
  have hjson : Covers v "toJson " := covers_of_unpromised (by decide)
  have hnodes : Covered v
      ((Node.verbatim (action ("toJson " ++ sizingPath g.varName "affinity.nodeAffinity"))).withBlock
        (Template.ifBlock (.path (sizingPath g.varName "affinity.nodeAffinity")))) :=
    (covered_verbatim (covers_action (covers_append hjson hpath (.inl rfl)))).withBlock (covers_ifBlock hpath)
  have hapart : AllCovered v ((g.run.affinity.getD {}).podAntiAffinity.toList.map fun v =>
      ("podAntiAffinity", Node.ofValue v)) := by
    refine .of_forall fun entry hentry => ?_
    obtain ⟨constraint, hconstraint, rfl⟩ := List.mem_map.1 hentry
    rw [Option.mem_toList] at hconstraint
    refine covered_ofValue constraint (hr.podAntiAffinity ?_)
    cases haffinity : g.run.affinity with
    | none => simp [haffinity] at hconstraint
    | some affinity => simpa [haffinity] using hconstraint
  unfold Pod.affinity? at h
  simp only [hs, if_true] at h
  -- a declared constraint of one of the other kinds ends the build
  split at h
  · obtain ⟨_, hthrown, -⟩ := bind_eq_ok_iff.1 h
    cases hthrown
  split at h
  · obtain ⟨_, hthrown, -⟩ := bind_eq_ok_iff.1 h
    cases hthrown
  · obtain rfl := pure_eq_ok_iff.1 h
    intro node hnode
    split at hnode
    · cases hnode
    · obtain rfl := Option.some.inj hnode
      exact covered_entries (hapart.append (.single hnodes))

/-- The account is used where the cluster authorizes by roles. -/
theorem covered_serviceAccount (hs : s.chart = true) (hv : values m s = .ok v) (hr : g.Regular) :
    ∀ node ∈ Pod.serviceAccount g s, Covered v node := by
  intro node hnode
  obtain ⟨account, haccount, hnode⟩ := Option.bind_eq_some_iff.1 hnode
  rw [if_pos hs] at hnode
  obtain rfl := Option.some.inj hnode
  have hauth : Covers v ".Values.kube.auth" := covers_fixed hv (by decide)
  have hfree : Free account.toList := hr.account account (Option.filter_eq_some_iff.1 haccount).1
  have hrbac : Free "rbac".toList := by decide
  exact covered_verbatim (covers_choose ⟨hauth, hrbac⟩ (covers_of_free hfree)
    (covers_of_free (by decide)))

/-- Colocated groups are groups of the manifest, so what holds of these holds of them. -/
theorem mem_groups_of_colocated {others : List Group}
    (h : Pod.colocatedGroups m g = .ok others) : ∀ other ∈ others, other ∈ m.groups := by
  intro other hother
  obtain ⟨name, -, hfound⟩ := exists_of_mem_mapM h hother
  split at hfound
  · next found hname =>
    obtain rfl := Except.ok.inj hfound
    exact List.mem_of_find?_eq_some hname
  · cases hfound

/-- The values have what a specification looks up, the colocated groups with their own sizes. -/
theorem allCovered_podSpec (hs : s.chart = true) (hrepository : Free s.repository.toList) (hm : m.Regular)
    (hv : values m s = .ok v) (hg : g ∈ m.groups) {spec : Mapping} (h : Pod.podSpec m s g = .ok spec) :
    AllCovered v spec := by
  obtain ⟨others, hothers, h⟩ := bind_eq_ok_iff.1 h
  obtain ⟨containers, hcontainers, h⟩ := bind_eq_ok_iff.1 h
  obtain ⟨affinity, haffinity, h⟩ := bind_eq_ok_iff.1 h
  obtain rfl := pure_eq_ok_iff.1 h
  have hmem : ∀ other ∈ g :: others, other ∈ m.groups := by
    simp only [List.forall_mem_cons]
    exact ⟨hg, mem_groups_of_colocated hothers⟩
  have hr := hm.groups g hg
  have hcontainer : ∀ c ∈ containers, Covered v c := by
    intro c hc
    obtain ⟨other, hother, hc⟩ := exists_of_mem_mapM hcontainers hc
    exact covered_container hs hrepository hm hv (hmem other hother) hc
  have hpull : Covered v (.items [.entries [("name", .string registryCredentialsName)]]) :=
    covered_singleton (covered_entries (.single (covered_string (by decide))))
  have hpolicy : Covered v (.string "ClusterFirst") := covered_string (by decide)
  have hrestart : Covered v (.string "Always") := covered_string (by decide)
  refine .append (.append (.append ?_ ?_) ?_) ?_
  · exact .cons (covered_items hcontainer) (.cons hpull (.cons hpolicy (.cons hrestart
      (.single (covered_number _)))))
  · exact allCovered_listEntry "volumes"
      (covered_podVolumes fun other hother => hm.groups other (hmem other hother))
  · refine .of_forall fun entry hentry => ?_
    obtain ⟨node, hnode, rfl⟩ := List.mem_map.1 hentry
    exact covered_affinity hs hr haffinity node (Option.mem_toList.1 hnode)
  · refine .of_forall fun entry hentry => ?_
    obtain ⟨node, hnode, rfl⟩ := List.mem_map.1 hentry
    exact covered_serviceAccount hs hv hr node (Option.mem_toList.1 hnode)

/-- Only the checksum is an action, and it reads another template instead of a value. -/
theorem allCovered_podMetadata (hr : g.Regular) : AllCovered v (Pod.podMetadata s g) := by
  have hname : Free g.name.toList := Template.free_of_isStep hr.name
  have hinclude : Covers v "include (print $.Template.BasePath \"/secrets/secret.yaml\") . | sha256sum" :=
    covers_of_unpromised (by decide)
  have hchecksum : Covered v Pod.secretsChecksum := covered_verbatim (covers_action hinclude)
  unfold Pod.podMetadata
  refine .append (.cons (covered_string hname) (.single (covered_entries ?_))) ?_
  · exact allCovered_labels s (by simpa using hname)
  · exact .ite (fun _ => .single (covered_entries (.single hchecksum))) fun _ => .nil

/-- What the template of the pods of a group consists of. -/
theorem podTemplate_parts (hs : s.chart = true) (hrepository : Free s.repository.toList) (hm : m.Regular)
    (hv : values m s = .ok v) (hg : g ∈ m.groups) {template : Mapping}
    (h : Pod.podTemplate m s g = .ok template) :
    ∃ metadata spec, template = [("metadata", .entries metadata), ("spec", .entries spec)] ∧
      AllCovered v metadata ∧ AllCovered v spec := by
  obtain ⟨spec, hspec, h⟩ := bind_eq_ok_iff.1 h
  obtain rfl := pure_eq_ok_iff.1 h
  exact ⟨_, spec, rfl, allCovered_podMetadata (hm.groups g hg),
    allCovered_podSpec hs hrepository hm hv hg hspec⟩

end RoleChart.Chart
