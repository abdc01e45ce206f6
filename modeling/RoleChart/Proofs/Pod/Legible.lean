import RoleChart.Proofs.Distinct
import RoleChart.Proofs.Document.Legible
import RoleChart.Proofs.Pod.Fields
import RoleChart.Proofs.Port
import RoleChart.Proofs.Secret

/-!
# Containers are read back

Outside of a chart a container holds the texts of its group. Most of them are written as texts that may hold
template expressions, though no template engine sees them: with an opening of two braces such a text stands
without quotes, whether it needs them or not. The reference to the image stands without quotes in any case.
Where these texts need no quotes and no lines are joined, the container is read back, and what it mounts and what
its probes run and send are the declared texts, with all braces in them.

## Main statements

* `legible_container` — such a container is legible
* `ofText_render_container` — the commands, headers and mounts that are read from a container
-/

namespace RoleChart

open Document

/-! ## What a container is written with -/

/-- The texts of the entry of a variable outside of a chart, its value aside. -/
def Variable.entryTexts (s : Settings) (v : Variable) : List String :=
  if (Pod.sizingTarget? v.name).isSome then [v.name]
  else if v.secret then [v.name, secretKey v.name, v.secretName s]
  else if (v.plainText? s).isSome then [v.name]
  else []

/-- The value in the entry of a variable outside of a chart. It is written as data. -/
def Variable.entryValue? (s : Settings) (v : Variable) : Option String :=
  if (Pod.sizingTarget? v.name).isSome || v.secret then none else v.plainText? s

/-- The texts of a request: those of its address, and the headers with their names in the usual form. -/
def Pod.requestTexts (a : Url.WebAddress) (headers : List (String × String)) : List String :=
  [a.host, a.path ++ (a.query.map ("?" ++ ·)).getD ""] ++ headers.flatMap fun (name, value) =>
    [String.ofList (Pod.canonicalHeader name.toList), value]

/-- The texts of what a probe does. -/
def Probe.actionTexts (p : Probe) : List String :=
  match p.url, p.port with
  | some url, _ =>
    match Url.Locator.ofText url with
    | .ok (.web _ a) => Pod.requestTexts a p.headers
    | _ => []
  | none, some _ => []
  | none, none => p.command

/-- The numbers of a probe. -/
def Probe.numbers (p : Probe) : List Nat :=
  p.port.toList ++ [p.initialDelay, p.timeout, p.period, p.successThreshold, p.failureThreshold]

/-- The capabilities that the container of a group adds outside of a chart. With all of them it adds none. -/
def Group.addedCapabilities (g : Group) : List String :=
  let capabilities := g.run.capabilities.map fun c => String.ofList (Text.upper c.toList)
  if capabilities.contains Pod.allCapabilities then [] else capabilities

/-- The variables with an entry in the container of a group. -/
def Manifest.shownVariables (m : Manifest) (g : Group) : List Variable :=
  (m.variablesOf g).filter (!·.internal)

/-- The texts of the container of a group outside of a chart, values of variables and the image aside. -/
def Group.containerTexts (m : Manifest) (s : Settings) (g : Group) : List String :=
  g.name :: (g.run.ports.map fun port => String.ofList (Text.upper port.protocol.toList))
    ++ (m.shownVariables g).flatMap (Variable.entryTexts s)
    ++ g.run.volumes.flatMap (fun v => [v.path, v.tag])
    ++ g.addedCapabilities
    ++ (Pod.declaredProbe g .liveness).actionTexts ++ (Pod.declaredProbe g .readiness).actionTexts

namespace Pod

open Built
open Document.Node (legible_string legible_literal legible_verbatim legible_number legible_flag content_string
  content_flag)
open Yaml (Value maxDepth)

/-- A reader takes what is written into the container of a group for what it is. The bound on the numbers of a
probe is met by all that are declared, which have 32 bits at most. -/
structure Unmistaken (m : Manifest) (s : Settings) (g : Group) : Prop where
  texts : ∀ t ∈ g.containerTexts m s, TextLegible t
  values : ∀ v ∈ m.shownVariables g, ∀ t ∈ v.entryValue? s, t.toList.all isPrintable = true
  image : ∀ image, imageReference g s = .ok image → StandsPlain image.toList
  numbers : ∀ kind, ∀ k ∈ (declaredProbe g kind).numbers, k < Nat.pow 2 64

variable {m : Manifest} {s : Settings} {g : Group} {depth : Nat}

namespace Unmistaken

variable (h : Unmistaken m s g)

include h

theorem name : TextLegible g.name := h.texts g.name (by simp [Group.containerTexts])

theorem protocol {port : ExposedPort} (hport : port ∈ g.run.ports) :
    TextLegible (String.ofList (Text.upper port.protocol.toList)) := by
  refine h.texts _ ?_
  simp only [Group.containerTexts, List.mem_append, List.mem_cons, List.mem_map]
  exact .inl (.inl (.inl (.inl (.inl (.inr ⟨port, hport, rfl⟩)))))

theorem entry {v : Variable} (hv : v ∈ m.shownVariables g) : ∀ t ∈ v.entryTexts s, TextLegible t := by
  intro t ht
  refine h.texts t ?_
  simp only [Group.containerTexts, List.mem_append, List.mem_flatMap]
  exact .inl (.inl (.inl (.inl (.inr ⟨v, hv, ht⟩))))

theorem volume {v : Volume} (hv : v ∈ mountOrder.flatMap g.volumesOf) :
    TextLegible v.path ∧ TextLegible v.tag := by
  obtain ⟨kind, -, hkind⟩ := List.mem_flatMap.1 hv
  have hdeclared : v ∈ g.run.volumes := (List.mem_filter.1 hkind).1
  have htexts : ∀ t ∈ [v.path, v.tag], TextLegible t := by
    intro t ht
    refine h.texts t ?_
    simp only [Group.containerTexts, List.mem_append, List.mem_flatMap]
    exact .inl (.inl (.inl (.inr ⟨v, hdeclared, ht⟩)))
  simpa using htexts

theorem capability {t : String} (ht : t ∈ g.addedCapabilities) : TextLegible t := by
  refine h.texts t ?_
  simp only [Group.containerTexts, List.mem_append]
  exact .inl (.inl (.inr ht))

theorem action (kind : ProbeKind) : ∀ t ∈ (declaredProbe g kind).actionTexts, TextLegible t := by
  intro t ht
  refine h.texts t ?_
  simp only [Group.containerTexts, List.mem_append]
  cases kind with
  | liveness => exact .inl (.inr ht)
  | readiness => exact .inr ht

end Unmistaken

/-! ## Texts without braces -/

/-- A printable text without opening braces is read back, whatever it looks like. -/
theorem textLegible_of_forall {t : String} (h : ∀ c ∈ t.toList, isPrintable c = true ∧ c ≠ '\x7b') :
    TextLegible t := by
  refine textLegible_of_not_templated (List.all_eq_true.2 fun c hc => (h c hc).1) ?_
  rw [isTemplated, Bool.eq_false_iff, ne_eq, Text.occurs_iff]
  exact fun hi => (h '\x7b' (hi.subset List.mem_cons_self)).2 rfl

/-- Name characters are printable, and no braces. -/
theorem textLegible_of_isNameChar {t : String} (h : ∀ c ∈ t.toList, isNameChar c = true) : TextLegible t := by
  have hchar : ∀ n < 0x80, isNameChar (Char.ofNat n) = true →
      isPrintable (Char.ofNat n) = true ∧ Char.ofNat n ≠ '\x7b' := by decide +kernel
  refine textLegible_of_forall fun c hc => ?_
  exact forall_ascii (p := fun c => isNameChar c = true → isPrintable c = true ∧ c ≠ '\x7b') hchar
    (isAscii_of_isNameChar (h c hc)) (h c hc)

/-- The name of a port has letters, digits and dashes, and so no braces. -/
theorem textLegible_portName {name : List Char} (h : ∀ c ∈ name, Port.isPortChar c = true) :
    TextLegible (String.ofList name) := by
  refine textLegible_of_isNameChar fun c hc => ?_
  rw [String.toList_ofList] at hc
  have hport := h c hc
  simp only [Port.isPortChar, Bool.or_eq_true, beq_iff_eq] at hport
  rcases hport with hport | rfl
  · simp [isNameChar, hport]
  · rfl

/-- Digits in front of a unit. -/
theorem textLegible_amount (n : Nat) {unit : String} (h : ∀ c ∈ unit.toList, isNameChar c = true) :
    TextLegible (Template.digits n ++ unit) := by
  refine textLegible_of_isNameChar fun c hc => ?_
  rw [String.toList_append, Template.digits, String.toList_ofList] at hc
  rcases List.mem_append.1 hc with hc | hc
  · simp [isNameChar, Text.isAlphanumeric, Yaml.isDigit_decimal hc]
  · exact h c hc

theorem textLegible_digits (n : Nat) : TextLegible (Template.digits n) := by
  have hdigits := @textLegible_amount n "" nofun
  rwa [String.append_empty] at hdigits

/-- A login in base64 behind a word. -/
theorem textLegible_basic (t : String) : TextLegible ("Basic " ++ base64 t) := by
  have hchars : ("Basic " ++ base64 t).toList = "Basic ".toList ++ Base64.encode (bytes t) := by simp [base64]
  refine textLegible_of_forall fun c hc => ?_
  rw [hchars] at hc
  rcases List.mem_append.1 hc with hc | hc
  · exact (by decide : ∀ c ∈ "Basic ".toList, isPrintable c = true ∧ c ≠ '\x7b') c hc
  · have halphabet : ∀ c ∈ "ABCDEFGHIJKLMNOPQRSTUVWXYZabcdefghijklmnopqrstuvwxyz0123456789+/=".toList,
        isPrintable c = true ∧ c ≠ '\x7b' := by decide +kernel
    exact halphabet c (Decidable.not_not.1 fun h => Base64.not_mem_encode h _ hc)

/-! ## Ports -/

/-- A port of a container is legible if its number, its name and its protocol are. -/
theorem legible_containerPort {number name : Node} {protocol : String} (hnumber : number.Legible depth)
    (hname : name.Legible depth) (hprotocol : TextLegible protocol) :
    (containerPort number name protocol).Legible (depth + 1) :=
  .entries (.cons (by decide) hnumber (.cons (by decide) hname (.single (by decide)
    (legible_string hprotocol))))

/-- Outside of a chart the ports of a range are legible: their names come from the builder. -/
theorem legible_definitionPorts (hs : s.chart = false) {d : Port.Definition} {p : ExposedPort}
    (hkeeps : d.Keeps p) (hprotocol : TextLegible d.protocol) {ports : List Node}
    (h : definitionPorts g s d = .ok ports) : ∀ port ∈ ports, port.Legible (depth + 1) := by
  have hcounted : isCounted s d = false := by rw [isCounted, hs, Bool.false_and]
  rw [definitionPorts, hcounted, if_neg (by simp)] at h
  obtain ⟨named, hnamed, h⟩ := bind_eq_ok_iff.1 h
  obtain rfl := pure_eq_ok_iff.1 h
  have hfound := Port.Definition.named?_of_containerPorts hnamed
  refine List.forall_mem_map.2 fun p hp => ?_
  have hmem : p.port ∈ d.internal.ports := Port.ports_named? hfound ▸ List.mem_map_of_mem hp
  have hport := Port.Range.le_maxPort_of_mem_ports hkeeps.inside p.port hmem
  refine legible_containerPort (legible_number ?_)
    (legible_string (textLegible_portName (Port.isPortChar_of_named? hfound p hp))) hprotocol
  exact Nat.lt_of_le_of_lt hport (by decide)

/-- So are all ports of a container, if their protocols can be read. -/
theorem legible_containerPorts (hs : s.chart = false) {ports : List Node}
    (hprotocols : ∀ port ∈ g.run.ports, TextLegible (String.ofList (Text.upper port.protocol.toList)))
    (h : containerPorts g s = .ok ports) : ∀ port ∈ ports, port.Legible (depth + 1) := by
  obtain ⟨definitions, hdefinitions, h⟩ := bind_eq_ok_iff.1 h
  obtain ⟨found, hfound, h⟩ := bind_eq_ok_iff.1 h
  obtain rfl := pure_eq_ok_iff.1 h
  intro node hnode
  obtain ⟨ports, hports, hnode⟩ := List.mem_flatten.1 hnode
  obtain ⟨d, hd, hports⟩ := exists_of_mem_mapM hfound hports
  obtain ⟨port, hport, hok⟩ := exists_of_mem_mapM hdefinitions hd
  have hkeeps := Port.Definition.ofExposed_ok hok
  exact legible_definitionPorts hs hkeeps (hkeeps.protocol ▸ hprotocols port hport) hports node hnode

/-! ## Environments -/

/-- The entry of a variable outside of a chart: the number of replicas of a group, a reference to a secret, or
a value. -/
theorem envEntry_of_plain (hs : s.chart = false) {v : Variable} {entry : Node}
    (h : envEntry m s v = .ok (some entry)) :
    (∃ target, sizingTarget? v.name = some target ∧
      ∃ k, entry = envValue v.name (.string (Template.digits k))) ∨
    (sizingTarget? v.name = none ∧ v.secret = true ∧ entry = envSecret s v) ∨
    (sizingTarget? v.name = none ∧ v.secret = false ∧
      ∃ t, v.plainText? s = some t ∧ entry = envValue v.name (.literal t)) := by
  have hcases := envEntry_cases m s v
  rw [h] at hcases
  generalize hfound : some entry = found at hcases
  cases hcases with
  | @sized target counted htarget =>
    rw [hs] at hfound
    exact .inl ⟨target, htarget, counted.run.scaling.min, Option.some.inj hfound⟩
  | secret hcount hsecret => exact .inr (.inl ⟨hcount, hsecret, Option.some.inj hfound⟩)
  | chart _ _ hchart => cases hchart.symm.trans hs
  | plain hcount hsecret =>
    obtain ⟨t, ht, rfl⟩ := Option.map_eq_some_iff.1 hfound.symm
    exact .inr (.inr ⟨hcount, hsecret, t, ht, rfl⟩)

theorem legible_envValue {name : String} {value : Node} (hname : TextLegible name)
    (hvalue : value.Legible depth) : (envValue name value).Legible (depth + 1) :=
  .entries (.cons (by decide) (legible_string hname) (.single (by decide) hvalue))

/-- The entry of a variable is legible if its texts are and its value is printable. -/
theorem legible_envEntry (hs : s.chart = false) {v : Variable} (htexts : ∀ t ∈ v.entryTexts s, TextLegible t)
    (hvalue : ∀ t ∈ v.entryValue? s, t.toList.all isPrintable = true) {entry : Node}
    (h : envEntry m s v = .ok (some entry)) : entry.Legible (depth + 3) := by
  rcases envEntry_of_plain hs h with ⟨target, htarget, k, rfl⟩ | ⟨htarget, hsecret, rfl⟩ |
    ⟨htarget, hsecret, t, ht, rfl⟩
  · rw [Variable.entryTexts, htarget, Option.isSome_some, if_pos rfl] at htexts
    exact legible_envValue (htexts v.name List.mem_cons_self) (legible_string (textLegible_digits k))
  · simp only [Variable.entryTexts, htarget, hsecret, Option.isSome_none, Bool.false_eq_true, if_false, if_true,
      List.forall_mem_cons] at htexts
    obtain ⟨hname, hkey, hobject, -⟩ := htexts
    have hreference : Mapping.AllLegible depth
        [("key", .string (secretKey v.name)), ("name", .string (v.secretName s))] :=
      .cons (by decide) (legible_string hkey) (.single (by decide) (legible_string hobject))
    exact .entries (.cons (by decide) (legible_string hname) (.single (by decide)
      (.entries (.single (by decide) (.entries hreference)))))
  · simp only [Variable.entryTexts, htarget, hsecret, ht, Option.isSome_none, Option.isSome_some,
      Bool.false_eq_true, if_false, if_true, List.forall_mem_cons] at htexts
    have hprintable : t.toList.all isPrintable = true := by
      refine hvalue t ?_
      rw [Variable.entryValue?, htarget, hsecret]
      exact ht
    exact legible_envValue htexts.1 (legible_literal hprintable)

theorem legible_namespaceEntry : namespaceEntry.Legible (depth + 3) := by
  have hname : TextLegible "KUBERNETES_NAMESPACE" := textLegible_of_isNameChar (by decide)
  have hpath : TextLegible "metadata.namespace" := textLegible_of_isNameChar (by decide)
  exact .entries (.cons (by decide) (legible_string hname) (.single (by decide)
    (.entries (.single (by decide) (.entries (.single (by decide) (legible_string hpath)))))))

/-- The environment of a container is legible if the entries of its variables are. -/
theorem legible_environment (hs : s.chart = false)
    (htexts : ∀ v ∈ m.shownVariables g, ∀ t ∈ v.entryTexts s, TextLegible t)
    (hvalues : ∀ v ∈ m.shownVariables g, ∀ t ∈ v.entryValue? s, t.toList.all isPrintable = true)
    {env : List Node} (h : environment m s g = .ok env) : ∀ entry ∈ env, entry.Legible (depth + 3) := by
  intro entry hentry
  rcases exists_of_mem_environment h hentry with ⟨v, hv, hinternal, he⟩ | rfl
  · have hshown : v ∈ m.shownVariables g := List.mem_filter.2 ⟨hv, by rw [hinternal]; rfl⟩
    exact legible_envEntry hs (htexts v hshown) (hvalues v hshown) he
  · exact legible_namespaceEntry

/-! ## Volumes, resources and capabilities -/

theorem legible_mount {v : Volume} (hpath : TextLegible v.path) (htag : TextLegible v.tag) :
    (mount v).Legible (depth + 1) :=
  .entries (.cons (by decide) (legible_string hpath) (.cons (by decide) (legible_string htag)
    (.single (by decide) (legible_flag false))))

theorem allLegible_amount {name unit : String} (hname : NameLegible name)
    (hunit : ∀ c ∈ unit.toList, isNameChar c = true) (n : Option Nat) :
    Mapping.AllLegible depth (amount name unit n) :=
  .of_forall fun entry hentry => by
    obtain ⟨k, -, rfl⟩ := List.mem_map.1 hentry
    exact ⟨hname, legible_string (textLegible_amount k hunit)⟩

/-- Requests and limits hold numbers with a unit. -/
theorem allLegible_resources (hs : s.chart = false) (g : Group) :
    Mapping.AllLegible (depth + 1) (resources g s) := by
  have hamounts (memory cpu : Option Nat) :
      Mapping.AllLegible depth (amount "memory" "Mi" memory ++ amount "cpu" "m" cpu) :=
    (allLegible_amount (by decide) (by decide) memory).append (allLegible_amount (by decide) (by decide) cpu)
  rw [resources, hs, if_neg (by simp), plainResources]
  exact .append (.ite (fun _ => .nil) fun _ => .single (by decide) (.entries (hamounts _ _)))
    (.ite (fun _ => .nil) fun _ => .single (by decide) (.entries (hamounts _ _)))

/-- The security context holds flags and the added capabilities, which come from the manifest. -/
theorem allLegible_securityContext (hs : s.chart = false) (h : ∀ t ∈ g.addedCapabilities, TextLegible t) :
    Mapping.AllLegible (depth + 2) (securityContext g s) := by
  unfold securityContext
  unfold Group.addedCapabilities at h
  simp only [hs, Bool.not_false, if_true]
  split
  · exact .single (by decide) (legible_flag true)
  · next hall =>
    rw [if_neg hall] at h
    refine .ite (fun _ => .nil) fun _ => .single (by decide) (.entries (.single (by decide) (.items ?_)))
    exact List.forall_mem_map.2 fun t ht => legible_string (h t ht)

/-! ## Probes -/

theorem legible_header {name value : String} (hname : TextLegible name) (hvalue : TextLegible value) :
    (header name value).Legible (depth + 1) :=
  .entries (.cons (by decide) (legible_string hname) (.single (by decide) (legible_string hvalue)))

/-- A login stands in base64 and is legible whatever it is. -/
theorem legible_authorization (a : Url.WebAddress) : ∀ n ∈ authorization a, n.Legible (depth + 1) := by
  have hname : TextLegible "Authorization" := textLegible_of_isNameChar (by decide)
  unfold authorization
  split
  · exact List.forall_mem_singleton.2 (legible_header hname (textLegible_basic _))
  split
  · exact nofun
  · exact List.forall_mem_singleton.2 (legible_header hname (textLegible_basic _))

/-- A request is legible if its texts are, and its port is one. -/
theorem allLegible_httpGet {secure : Bool} {a : Url.WebAddress} {headers : List (String × String)}
    (hport : ∀ k ∈ a.port, k ≤ 65535) (htexts : ∀ t ∈ requestTexts a headers, TextLegible t) :
    Mapping.AllLegible (depth + 2) (httpGet secure a headers) := by
  obtain ⟨haddress, hheaders⟩ := List.forall_mem_append.1 htexts
  obtain ⟨hhost, hpath, -⟩ := by simpa only [List.forall_mem_cons] using haddress
  have hscheme : TextLegible (if secure then "HTTPS" else "HTTP") :=
    textLegible_of_isNameChar (by cases secure <;> decide)
  have hnumber : a.port.getD (if secure then 443 else 80) < Nat.pow 2 64 := by
    cases h : a.port with
    | none => cases secure <;> decide
    | some k => exact Nat.lt_of_le_of_lt (hport k h) (by decide)
  have hlist : ∀ n ∈ authorization a ++ headers.map (fun (name, value) =>
      header (String.ofList (canonicalHeader name.toList)) value), n.Legible (depth + 1) := by
    refine List.forall_mem_append.2 ⟨legible_authorization a, List.forall_mem_map.2 fun pair hpair => ?_⟩
    refine legible_header (hheaders _ ?_) (hheaders _ ?_)
    · exact List.mem_flatMap.2 ⟨pair, hpair, List.mem_cons_self⟩
    · exact List.mem_flatMap.2 ⟨pair, hpair, List.mem_cons_of_mem _ List.mem_cons_self⟩
  unfold httpGet
  refine .append (.append (.append (.single (by decide) (legible_string hscheme)) ?_) ?_) ?_
  · exact .ite (fun _ => .nil) fun _ => .single (by decide) (legible_string hhost)
  · exact .cons (by decide) (legible_number hnumber) (.single (by decide) (legible_string hpath))
  · exact .ite (fun _ => .nil) fun _ => .single (by decide) (.items hlist)

/-- The timings of a probe are numbers, so their bound is all that is asked. -/
theorem allLegible_timings (kind : ProbeKind) {p : Probe} (h : ∀ k ∈ p.numbers, k < Nat.pow 2 64) :
    Mapping.AllLegible depth (timings kind p) := by
  simp only [Probe.numbers, List.forall_mem_append, List.forall_mem_cons] at h
  obtain ⟨-, hdelay, htimeout, hperiod, hsuccess, hfailure, -⟩ := h
  have hdelay' : (if kind = .liveness ∧ p.initialDelay = 0 then defaultLivenessDelay else p.initialDelay)
      < Nat.pow 2 64 := by
    split
    · decide
    · exact hdelay
  have hsuccess' : (if kind = .liveness then 0 else p.successThreshold) < Nat.pow 2 64 := by
    split
    · decide
    · exact hsuccess
  have hall : ∀ timing ∈ [("initialDelaySeconds",
        if kind = .liveness ∧ p.initialDelay = 0 then defaultLivenessDelay else p.initialDelay),
      ("timeoutSeconds", p.timeout), ("periodSeconds", p.period),
      ("successThreshold", if kind = .liveness then 0 else p.successThreshold),
      ("failureThreshold", p.failureThreshold)], NameLegible timing.1 ∧ timing.2 < Nat.pow 2 64 := by
    simp only [List.forall_mem_cons]
    exact ⟨⟨by decide, hdelay'⟩, ⟨by decide, htimeout⟩, ⟨by decide, hperiod⟩, ⟨by decide, hsuccess'⟩,
      ⟨by decide, hfailure⟩, nofun⟩
  unfold timings
  refine .of_forall (List.forall_mem_map.2 fun timing htiming => ?_)
  obtain ⟨hname, hnumber⟩ := hall timing (List.mem_filter.1 htiming).1
  exact ⟨hname, legible_number hnumber⟩

theorem legible_tcpSocket {port : Nat} (h : port < Nat.pow 2 64) :
    NameLegible (tcpSocket port).1 ∧ (tcpSocket port).2.Legible (depth + 1) :=
  ⟨(by decide : NameLegible "tcpSocket"), .entries (.single (by decide) (legible_number h))⟩

/-- What a probe does is legible if its texts are. -/
theorem legible_of_declaredAction? {kind : ProbeKind} {p : Probe} {action : String × Node}
    (htexts : ∀ t ∈ p.actionTexts, TextLegible t) (hnumbers : ∀ k ∈ p.numbers, k < Nat.pow 2 64)
    (h : declaredAction? g kind p = .ok (some action)) :
    NameLegible action.1 ∧ action.2.Legible (depth + 3) := by
  rcases declaredAction?_ok h with ⟨url, secure, a, hurl, hread, rfl⟩ | ⟨-, port, hport, rfl⟩ |
    ⟨hurl, hport, rfl⟩
  · simp only [Probe.actionTexts, hurl, hread] at htexts
    exact ⟨(by decide : NameLegible "httpGet"),
      .entries (allLegible_httpGet (Url.port_le_of_ofText hread) htexts)⟩
  · exact legible_tcpSocket (hnumbers port (List.mem_append_left _ (by simp [hport])))
  · simp only [Probe.actionTexts, hurl, hport] at htexts
    have hcommand : ∀ n ∈ p.command.map Node.string, n.Legible (depth + 1) :=
      List.forall_mem_map.2 fun t ht => legible_string (htexts t ht)
    exact ⟨(by decide : NameLegible "exec"), .entries (.single (by decide) (.items hcommand))⟩

/-- A supervised group is asked on a port. -/
theorem lt_of_ownPort? {kind : ProbeKind} {found : Option Nat} (h : ownPort? g kind = .ok found) :
    ∀ port ∈ found, port < Nat.pow 2 64 := by
  cases kind with
  | liveness =>
    cases h
    rintro _ ⟨⟩
    decide
  | readiness =>
    obtain ⟨definitions, hdefinitions, h⟩ := bind_eq_ok_iff.1 h
    obtain rfl := pure_eq_ok_iff.1 h
    intro port hport
    obtain ⟨d, hd, rfl⟩ := Option.map_eq_some_iff.1 hport
    obtain ⟨exposed, -, hok⟩ := exists_of_mem_mapM hdefinitions (List.mem_of_find?_eq_some hd)
    obtain ⟨-, horder, hlast⟩ := Port.Range.ofText_bounds (Port.Definition.ofExposed_ok hok).inside
    exact Nat.lt_of_le_of_lt (Nat.le_trans horder hlast) (by decide)

/-- A probe is legible if the texts of its action are and its numbers fit. -/
theorem legible_probe {kind : ProbeKind} (htexts : ∀ t ∈ (declaredProbe g kind).actionTexts, TextLegible t)
    (hnumbers : ∀ k ∈ (declaredProbe g kind).numbers, k < Nat.pow 2 64) {found : Option Node}
    (h : probe? g kind = .ok found) : ∀ node ∈ found, node.Legible (depth + 4) := by
  obtain ⟨action?, rfl, haction⟩ := probe?_ok h
  intro node hnode
  obtain ⟨action, hmem, rfl⟩ := Option.map_eq_some_iff.1 hnode
  obtain ⟨hname, hlegible⟩ : NameLegible action.1 ∧ action.2.Legible (depth + 3) := by
    rcases haction with hdeclared | ⟨-, own, hown, rfl⟩
    · exact legible_of_declaredAction? htexts hnumbers (hmem ▸ hdeclared)
    · obtain ⟨port, hport, rfl⟩ := Option.map_eq_some_iff.1 hmem
      exact legible_tcpSocket (lt_of_ownPort? hown port hport)
  exact .entries (.cons hname hlegible (allLegible_timings kind hnumbers))

/-! ## Containers -/

theorem allLegible_listEntry {name : String} (hname : NameLegible name) {nodes : List Node}
    (h : ∀ n ∈ nodes, n.Legible depth) : Mapping.AllLegible (depth + 1) (listEntry name nodes) :=
  .ite (fun _ => .nil) fun _ => .single hname (.items h)

theorem allLegible_mappingEntry {name : String} (hname : NameLegible name) {entries : Mapping}
    (h : entries.AllLegible depth) : Mapping.AllLegible (depth + 1) (mappingEntry name entries) :=
  .ite (fun _ => .nil) fun _ => .single hname (.entries h)

/-- So is the entry that holds the probe, and there is none without a probe. -/
theorem allLegible_probeEntry {kind : ProbeKind}
    (htexts : ∀ t ∈ (declaredProbe g kind).actionTexts, TextLegible t)
    (hnumbers : ∀ k ∈ (declaredProbe g kind).numbers, k < Nat.pow 2 64) {entries : Mapping}
    (h : probeEntry g kind = .ok entries) : entries.AllLegible (depth + 4) := by
  obtain ⟨found, hfound, h⟩ := bind_eq_ok_iff.1 h
  obtain rfl := pure_eq_ok_iff.1 h
  have hfield : NameLegible kind.field := by cases kind <;> decide
  exact .of_forall (List.forall_mem_map.2 fun node hnode =>
    ⟨hfield, legible_probe htexts hnumbers hfound node (Option.mem_toList.1 hnode)⟩)

theorem legible_lifecycle : lifecycle.Legible (depth + 4) := by
  have hscript : TextLegible preStopScript := textLegible_of_isNameChar (by decide)
  exact .entries (.single (by decide) (.entries (.single (by decide) (.entries (.single (by decide)
    (.items (List.forall_mem_singleton.2 (legible_string hscript))))))))

/-- Outside of a chart a container is legible if nothing in it can be mistaken. -/
theorem legible_container (hs : s.chart = false) (h : Unmistaken m s g) {c : Node}
    (hc : container m s g = .ok c) : c.Legible (depth + 5) := by
  have hmounts : ∀ n ∈ mounts g, n.Legible (depth + 3) := by
    refine List.forall_mem_map.2 fun v hv => ?_
    obtain ⟨hpath, htag⟩ := h.volume hv
    exact legible_mount hpath htag
  obtain ⟨image, ports, env, liveness, readiness, himage, hports, henv, hl, hr, rfl⟩ := container_ok hc
  refine .entries (.append (.append (.append (.append (.append (.append (.append (.append ?_ ?_) ?_) ?_) ?_) ?_)
    ?_) ?_) ?_)
  · exact .cons (by decide) (legible_string h.name) (.single (by decide) (legible_verbatim (h.image image himage)))
  · exact allLegible_listEntry (by decide) (legible_containerPorts hs (fun _ => h.protocol) hports)
  · exact .single (by decide) (.items (legible_environment hs (fun _ => h.entry) h.values henv))
  · exact allLegible_listEntry (by decide) hmounts
  · exact allLegible_mappingEntry (by decide) (allLegible_resources hs g)
  · exact allLegible_mappingEntry (by decide) (allLegible_securityContext hs fun _ => h.capability)
  · exact allLegible_probeEntry (h.action .liveness) (h.numbers .liveness) hl
  · exact allLegible_probeEntry (h.action .readiness) (h.numbers .readiness) hr
  · exact .single (by decide) legible_lifecycle

/-! ## What stands in a container -/

/-- The timings of a probe hide nothing that stands under another name. -/
theorem lookup?_timings (kind : ProbeKind) (p : Probe) {name : String} (h : name ∉ timingNames) :
    Mapping.lookup? (timings kind p) name = none :=
  (Mapping.lookup?_eq_none_iff _ _).2 fun hn => h ((among_timings kind p).names.subset hn)

section Fields

variable {c : Node} {kind : ProbeKind} (hc : container m s g = .ok c)

include hc

/-- A probe with neither a URL nor a port runs the declared command, if there is one. -/
theorem listAt_command (hurl : (declaredProbe g kind).url = none) (hport : (declaredProbe g kind).port = none) :
    c.listAt [kind.field, "exec", "command"] = (declaredProbe g kind).command.map Node.string := by
  obtain ⟨found, hfound, hget⟩ := get?_probe hc kind
  obtain ⟨action?, rfl, haction⟩ := probe?_ok hfound
  have hdeclared : declaredAction? g kind (declaredProbe g kind) = .ok (if (declaredProbe g kind).command.isEmpty
      then none
      else some ("exec", .entries [("command", .items ((declaredProbe g kind).command.map Node.string))])) := by
    simp only [declaredAction?, hurl, hport]
  rw [hdeclared] at haction
  rw [Node.listAt, hget]
  cases hcommand : (declaredProbe g kind).command with
  | nil =>
    -- without a command the port of the group may be asked, and then there is nothing to run either
    rw [hcommand] at haction
    rcases haction with haction | ⟨-, own, -, rfl⟩
    · obtain rfl := Except.ok.inj haction
      rfl
    · have htimings : Mapping.lookup? (timings kind (declaredProbe g kind)) "exec" = none :=
        lookup?_timings _ _ (by decide)
      cases own with
      | none => rfl
      | some port => simp [tcpSocket, htimings]
  | cons word words =>
    rw [hcommand] at haction
    rcases haction with haction | ⟨haction, -⟩
    · obtain rfl := Except.ok.inj haction
      simp
    · cases haction

/-- A probe of an address sends the login of the address and then the declared headers. -/
theorem listAt_headers {url : String} {secure : Bool} {a : Url.WebAddress}
    (hurl : (declaredProbe g kind).url = some url) (hread : Url.Locator.ofText url = .ok (.web secure a)) :
    c.listAt [kind.field, "httpGet", "httpHeaders"] = authorization a
      ++ (declaredProbe g kind).headers.map fun (name, value) =>
        header (String.ofList (canonicalHeader name.toList)) value := by
  obtain ⟨found, hfound, hget⟩ := get?_probe hc kind
  obtain ⟨action?, rfl, haction⟩ := probe?_ok hfound
  have hdeclared : declaredAction? g kind (declaredProbe g kind)
      = .ok (some ("httpGet", .entries (httpGet secure a (declaredProbe g kind).headers))) := by
    simp only [declaredAction?, hurl, hread]
  rw [hdeclared] at haction
  rcases haction with haction | ⟨haction, -⟩
  · obtain rfl := Except.ok.inj haction
    rw [← listAt_httpHeaders secure a, Node.listAt, hget]
    simp [Node.listAt]
  · cases haction

end Fields

/-! ## What is read -/

/-- A header as it is read. -/
def headerValue (name value : String) : Value :=
  .mapping [(.string "name", .string name), (.string "value", .string value)]

/-- A mount as it is read. -/
def mountValue (v : Volume) : Value :=
  .mapping [(.string "mountPath", .string v.path), (.string "name", .string v.tag),
    (.string "readOnly", .bool false)]

theorem content_header {name value : String} (hname : TextLegible name) (hvalue : TextLegible value) :
    (header name value).content = headerValue name value := by
  simp [header, headerValue, content_string hname, content_string hvalue]

theorem content_mount {v : Volume} (hpath : TextLegible v.path) (htag : TextLegible v.tag) :
    (mount v).content = mountValue v := by
  simp [mount, mountValue, content_string hpath, content_string htag, content_flag]

/-- A container outside of a chart is read back if nothing in it can be mistaken and no lines of it are joined:
a probe runs exactly the words of the declared command, a request sends exactly the declared headers behind the
login of its address, and every volume is mounted exactly at its path, whatever braces are in these texts. -/
theorem ofText_render_container (hs : s.chart = false) {c : Node} (hc : container m s g = .ok c)
    (h : Unmistaken m s g) (hjoins : closesOnLines ((rootLines defaultStep c).map Line.row) = true) :
    ∃ v, Value.ofText (render c) = .ok v ∧
      (∀ kind, (declaredProbe g kind).url = none → (declaredProbe g kind).port = none →
        v.listAt [kind.field, "exec", "command"] = (declaredProbe g kind).command.map Value.string) ∧
      (∀ kind url secure a, (declaredProbe g kind).url = some url →
        Url.Locator.ofText url = .ok (.web secure a) →
        v.listAt [kind.field, "httpGet", "httpHeaders"] = (authorization a).map Node.content
          ++ (declaredProbe g kind).headers.map fun (name, value) =>
            headerValue (String.ofList (canonicalHeader name.toList)) value) ∧
      v.listAt ["volumeMounts"] = (mountOrder.flatMap g.volumesOf).map mountValue := by
  have hlegible : c.Legible maxDepth := legible_container hs h hc
  -- at the margin stand the names of a container only, and none of them begins like the mark of a document
  have hmargin : ∀ spelling ∈ c.outline.margin, Yaml.marksDocument spelling.chars = false := by
    intro spelling hspelling
    obtain ⟨entries, rfl, hentries⟩ := among_container hc
    obtain ⟨name, hname, rfl⟩ := Node.mem_margin_entries hspelling
    exact (by decide : ∀ name ∈ containerNames, Yaml.marksDocument (keySpelling name.toList).chars = false) name
      (hentries.names.subset hname)
  refine ⟨c.content, ofText_render_of_legible hlegible (distinct_container hc) hmargin hjoins, ?_, ?_, ?_⟩
  · intro kind hurl hport
    have haction := h.action kind
    simp only [Probe.actionTexts, hurl, hport] at haction
    rw [Node.listAt_content, listAt_command hc hurl hport, List.map_map]
    exact List.map_congr_left fun t ht => content_string (haction t ht)
  · intro kind url secure a hurl hread
    have haction := h.action kind
    simp only [Probe.actionTexts, requestTexts, hurl, hread, List.forall_mem_append, List.forall_mem_flatMap,
      List.forall_mem_cons] at haction
    rw [Node.listAt_content, listAt_headers hc hurl hread, List.map_append, List.map_map]
    refine congrArg _ (List.map_congr_left fun pair hpair => ?_)
    obtain ⟨hname, hvalue, -⟩ := haction.2 pair hpair
    exact content_header hname hvalue
  · rw [Node.listAt_content, listAt_volumeMounts hc, mounts, List.map_map]
    refine List.map_congr_left fun v hv => ?_
    obtain ⟨hpath, htag⟩ := h.volume hv
    exact content_mount hpath htag

/-- A group with braces in the texts of its probes and in the path of a volume, some of them doubled. -/
def bracedGroup : Group where
  name := "api"
  run := {
    volumes := [{ kind := .persistent, tag := "data", path := "/a\x7b\x7bb\x7d\x7d/\x7bc\x7d" }]
    healthCheck := some {
      liveness := some { command := ["test", "a\x7b\x7bb\x7d\x7d", "\x7bx\x7d: y"] }
      readiness := some {
        url := some "http://u@container-ip/?\x7b\x7bq\x7d\x7d"
        headers := [("x-probe", "v\x7b\x7bw\x7d\x7d"), ("x-note", "# \x7by\x7d")] } } }

/-- All texts of this group are printable, and those with doubled braces need no quotes. -/
theorem unmistaken_bracedGroup : Unmistaken { groups := [bracedGroup] } {} bracedGroup := by
  have htexts : ∀ t ∈ bracedGroup.containerTexts { groups := [bracedGroup] } {},
      t.toList.all isPrintable = true ∧ (isTemplated t.toList = true → needsQuotes t.toList = false) := by
    decide +kernel
  have himage : ∀ image ∈ (imageReference bracedGroup {}).toOption,
      image.toList.all isPrintable = true ∧ needsQuotes image.toList = false := by decide +kernel
  refine ⟨fun t ht => ?_, ?_, fun image hok => ?_, ?_⟩
  · obtain ⟨hprintable, hplain⟩ := htexts t ht
    exact ⟨hprintable, fun htemplated => standsPlain_of_needsQuotes hprintable (hplain htemplated)⟩
  · decide +kernel
  · obtain ⟨hprintable, hplain⟩ := himage image (toOption_eq_some_iff.2 hok)
    exact standsPlain_of_needsQuotes hprintable hplain
  · intro kind
    cases kind <;> decide

theorem ofText_render_container_braced :
    ({} : Settings).chart = false ∧ Unmistaken { groups := [bracedGroup] } {} bracedGroup ∧
      ∃ c, container { groups := [bracedGroup] } {} bracedGroup = .ok c ∧
        closesOnLines ((rootLines defaultStep c).map Line.row) = true ∧
        ∃ v, Value.ofText (render c) = .ok v ∧
          v.listAt ["livenessProbe", "exec", "command"]
            = [.string "test", .string "a\x7b\x7bb\x7d\x7d", .string "\x7bx\x7d: y"] ∧
          (v.listAt ["readinessProbe", "httpGet", "httpHeaders"]).drop 1
            = [headerValue "X-Probe" "v\x7b\x7bw\x7d\x7d", headerValue "X-Note" "# \x7by\x7d"] ∧
          (v.listAt ["volumeMounts"]).map (·.get? ["mountPath"])
            = [some (.string "/a\x7b\x7bb\x7d\x7d/\x7bc\x7d")] := by
  obtain ⟨c, hc, hjoins⟩ : ∃ c, container { groups := [bracedGroup] } {} bracedGroup = .ok c ∧
      closesOnLines ((rootLines defaultStep c).map Line.row) = true := by
    have hrows : (container { groups := [bracedGroup] } {} bracedGroup).toOption.any (fun c =>
        closesOnLines ((rootLines defaultStep c).map Line.row)) = true := by decide +kernel
    obtain ⟨c, hc, hjoins⟩ := (Option.any_eq_true _ _).1 hrows
    exact ⟨c, toOption_eq_some_iff.1 hc, hjoins⟩
  have hread : Url.Locator.ofText "http://u@container-ip/?\x7b\x7bq\x7d\x7d" = .ok (.web false
      { username := "u", host := "container-ip", path := "/", query := some "\x7b\x7bq\x7d\x7d" }) :=
    toOption_eq_some_iff.1 (by decide +kernel)
  have hfield : ProbeKind.readiness.field = "readinessProbe" := by decide
  obtain ⟨v, hv, hcommand, hheaders, hmounts⟩ := ofText_render_container rfl hc unmistaken_bracedGroup hjoins
  have hsent := hheaders .readiness _ _ _ rfl hread
  rw [hfield] at hsent
  refine ⟨rfl, unmistaken_bracedGroup, c, hc, hjoins, v, hv, hcommand .liveness rfl rfl, ?_, ?_⟩
  · rw [hsent]
    rfl
  · rw [hmounts]
    rfl

end Pod

end RoleChart
