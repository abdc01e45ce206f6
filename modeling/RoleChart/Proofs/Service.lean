import Mathlib.Data.List.Forall2
import RoleChart.Proofs.Pod.Fields
import RoleChart.Proofs.Port
import RoleChart.Proofs.Template.Reading
import RoleChart.Service

/-!
# Services reach the ports of containers

The entries of a container and of the services of its group come from the same declarations, by
separate ways. Declaration by declaration they stand for the same ports: the names agree, and so does
how often a chart repeats them. The numbers are read from the written entries.

## Main statements

* `reach_container` — where the container of a group is built, its services are, and they lead to it
-/

namespace RoleChart.Service

open RoleChart.Document RoleChart.Built

/-! ## What entries say -/

/-- The ports that a service lists. A service that is not there lists none. -/
def listed (service : Option Node) : List Node :=
  service.elim [] fun node => node.listAt ["spec", "ports"]

/-- How a sum with the counter begins. -/
def sumHead : List Char := "\x7b\x7b add ".toList

/-- The number that a text stands for at a counter of a chart. A sum adds the counter, and digits
stand for themselves. -/
def numberAt? (counter : Nat) (text : String) : Option Nat :=
  match Text.dropPrefix? sumHead text.toList with
  | some sum => do
    let (first, rest) ← Template.readDigits? sum
    if rest = " $i \x7d\x7d".toList then some (first + counter) else none
  | none => Text.ofDigits? 10 text.toList

/-- The number under a name of an entry, at a counter. -/
def entryNumber? (field : String) (entry : Node) (counter : Nat) : Option Nat :=
  (entry.get? [field]).bind fun node => node.scalar?.bind (numberAt? counter)

/-- The numbers of the ports that an entry makes where a chart configures `configured` ports: an entry
in a block comes once for each counter, any other entry once. -/
def numbers (field : String) (configured : Nat) (entry : Node) : List (Option Nat) :=
  if entry.blocks = [] then [entryNumber? field entry 0]
  else (List.range configured).map (entryNumber? field entry)

/-- An entry of a service that leads to the port of a container by its name. -/
structure Targets (container service : Node) : Prop where
  blocks : service.blocks = container.blocks
  protocol : ∃ p, container.get? ["protocol"] = some p ∧ service.get? ["protocol"] = some p
  target : ∃ name, container.get? ["name"] = some name ∧ service.get? ["targetPort"] = some name

/-- An entry of a service that shows the port of a container as it is, and leads to the pods. -/
structure Shows (container service : Node) : Prop where
  blocks : service.blocks = container.blocks
  protocol : ∃ p, container.get? ["protocol"] = some p ∧ service.get? ["protocol"] = some p
  number : ∃ n, container.get? ["containerPort"] = some n ∧ service.get? ["port"] = some n
  target : service.get? ["targetPort"] = some (.number 0)

/-! ## Declarations -/

/-- The ranges that a declaration writes. Without one outside, it is the range inside. -/
structure Declares (p : ExposedPort) (inside outside : Port.Range) : Prop where
  readsInside : Port.Range.ofText p.internal.toText = .ok inside
  readsOutside : Port.Range.ofText (p.external.getD p.internal).toText = .ok outside
  sameCount : outside.count = inside.count

/-- Whether a chart takes the number of ports of a declaration from its values. -/
def isCounted (s : Settings) (p : ExposedPort) : Bool := s.chart && p.countIsConfigurable

/-- The blocks of the entries of a declaration: a count is taken from the sizing of the group. -/
def entryBlocks (g : Group) (s : Settings) (p : ExposedPort) : List String :=
  if isCounted s p then
    [Template.countBlock (sizingPath g.varName ("ports." ++ varName p.name ++ ".count"))]
  else []

/-- What one declaration makes in a container, in the services that target it, and in the service of
the single pods. -/
structure Part where
  declared : ExposedPort
  container : List Node
  targeting : List Node
  direct : List Node

/-- The entries of a declaration stand for the same ports: as many as the range has or the chart
configures, counted up from the first number inside, or outside for what targets the container. -/
structure Part.Agrees (g : Group) (s : Settings) (part : Part) : Prop where
  blocks : ∀ entry ∈ part.container, entry.blocks = entryBlocks g s part.declared
  targets : List.Forall₂ Targets part.container part.targeting
  shows : List.Forall₂ Shows part.container part.direct
  numbers : ∃ inside outside, Declares part.declared inside outside ∧
    ∀ configured count,
      count = (if isCounted s part.declared then configured else inside.count) →
      part.container.flatMap (numbers "containerPort" configured)
          = (List.range count).map (fun i => some (inside.first + i)) ∧
        part.targeting.flatMap (numbers "port" configured)
          = (List.range count).map (fun i => some (outside.first + i)) ∧
        part.direct.flatMap (numbers "port" configured)
          = (List.range count).map (fun i => some (inside.first + i))

variable {m : Manifest} {g : Group} {s : Settings} {p : ExposedPort} {d : Port.Definition}

/-- What a checked declaration is made of. -/
theorem ofExposed_ok (h : Port.Definition.ofExposed p = .ok d) :
    Declares p d.internal d.external ∧ d.isPublic = p.isPublic ∧ d.name = p.name ∧
      Pod.isCounted s d = isCounted s p := by
  have hkeeps := Port.Definition.ofExposed_ok h
  have hcount : d.external.count = d.internal.count :=
    congrArg (· + 1) (Port.Definition.ofExposed_width p d h)
  refine ⟨⟨hkeeps.inside, hkeeps.outside, hcount⟩, hkeeps.isPublic, hkeeps.name, ?_⟩
  rw [Pod.isCounted, isCounted, hkeeps.countIsConfigurable]

/-! ## Numbers -/

/-- Digits do not begin like a sum. -/
theorem dropPrefix?_decimal (n : Nat) :
    Text.dropPrefix? sumHead (Text.decimal n) = none := by
  rcases Yaml.decimal_cases n with ⟨h, -⟩ | ⟨c, rest, h, hc, -⟩
  · rw [h]
    rfl
  · have hne : '\x7b' ≠ c := by
      rintro rfl
      exact absurd hc (by decide)
    rw [h]
    exact if_neg hne

@[simp] theorem numberAt?_decimal (counter n : Nat) :
    numberAt? counter (String.ofList (Text.decimal n)) = some n := by
  unfold numberAt?
  rw [String.toList_ofList, dropPrefix?_decimal]
  exact Yaml.ofDigits?_decimal n

@[simp] theorem numberAt?_counted (counter first : Nat) :
    numberAt? counter (Template.action ("add " ++ Template.digits first ++ " $i")) = some (first + counter) := by
  have hread := Template.readDigits?_append first (Template.stops_blank "$i \x7d\x7d".toList)
  have hcut : Text.dropPrefix? sumHead
      (Template.action ("add " ++ Template.digits first ++ " $i")).toList
      = some ((Template.digits first).toList ++ ' ' :: "$i \x7d\x7d".toList) := by
    rw [Text.dropPrefix?_eq_some_iff]
    simp only [Template.action, String.toList_append, List.append_assoc]
    rfl
  unfold numberAt?
  simp only [hcut, hread, Option.bind_eq_bind, Option.bind_some]
  rfl

/-- Numbers that are written out, an entry for each. -/
theorem flatMap_numbers_plain {field : String} {entries : List Node} {ns : List Nat} (configured : Nat)
    (h : List.Forall₂ (fun entry n => entry.blocks = [] ∧ entry.get? [field] = some (.number n)) entries ns) :
    entries.flatMap (numbers field configured) = ns.map some := by
  induction h with
  | nil => rfl
  | cons hentry _ ih =>
    obtain ⟨hblocks, hnumber⟩ := hentry
    rw [List.flatMap_cons, List.map_cons, ih, numbers, if_pos hblocks, entryNumber?, hnumber]
    simp [Node.number, Node.scalar?]

/-- A number that is counted up in a block. -/
theorem flatMap_numbers_counted {field block : String} {entry : Node} {first : Nat} (configured : Nat)
    (h : entry.get? [field] = some (Pod.countedPort first)) :
    [entry.withBlock block].flatMap (numbers field configured)
      = (List.range configured).map fun i => some (first + i) := by
  have hblocks : (entry.withBlock block).blocks ≠ [] := by simp
  have hget : (entry.withBlock block).get? [field] = some (Pod.countedPort first) := by
    rw [Node.get?_withBlock, h]
  rw [List.flatMap_singleton, numbers, if_neg hblocks]
  refine List.map_congr_left fun i _ => ?_
  rw [entryNumber?, hget]
  exact numberAt?_counted i first

/-! ## Entries -/

theorem targets_port {audience : Audience} (h : audience ≠ .pods) (inside outside name : Node)
    (protocol : String) :
    Targets (Pod.containerPort inside name protocol) (port audience name outside protocol) where
  blocks := rfl
  protocol := ⟨.string protocol, by simp [Pod.containerPort], by simp [port]⟩
  target := ⟨name, by simp [Pod.containerPort], by simp [port, h]⟩

theorem shows_port (inside name : Node) (protocol : String) :
    Shows (Pod.containerPort inside name protocol) (port .pods name inside protocol) where
  blocks := rfl
  protocol := ⟨.string protocol, by simp [Pod.containerPort], by simp [port]⟩
  number := ⟨inside, by simp [Pod.containerPort], by simp [port]⟩
  target := by simp [port]

theorem Targets.withBlock {container service : Node} (h : Targets container service) (block : String) :
    Targets (container.withBlock block) (service.withBlock block) where
  blocks := by rw [Node.blocks_withBlock, Node.blocks_withBlock, h.blocks]
  protocol := by simpa using h.protocol
  target := by simpa using h.target

theorem Shows.withBlock {container service : Node} (h : Shows container service) (block : String) :
    Shows (container.withBlock block) (service.withBlock block) where
  blocks := by rw [Node.blocks_withBlock, Node.blocks_withBlock, h.blocks]
  protocol := by simpa using h.protocol
  number := by simpa using h.number
  target := by simpa using h.target

/-! ## The entries of a declaration -/

/-- Numbers that are paired with as many names leave none of the names out, and none of the numbers. -/
theorem forall₂_zipWith {named : List Port.Named} {ports : List Nat} (h : named.length = ports.length) :
    List.Forall₂ (fun (a b : Port.Named) => b.name = a.name) named
        (named.zipWith (fun a port => ⟨a.name, port⟩) ports) ∧
      (named.zipWith (fun a port => (⟨a.name, port⟩ : Port.Named)) ports).map (·.port) = ports := by
  induction named generalizing ports with
  | nil =>
    obtain rfl := List.eq_nil_of_length_eq_zero h.symm
    exact ⟨.nil, rfl⟩
  | cons a named ih =>
    cases ports with
    | nil => exact absurd h (by simp)
    | cons port ports =>
      obtain ⟨hnames, hports⟩ := ih (Nat.succ.inj h)
      exact ⟨.cons rfl hnames, by simp [hports]⟩

/-- The entries of a declaration, each under its own number. -/
theorem flatMap_numbers_map {field : String} {f : Port.Named → Node} (configured : Nat)
    (hblocks : ∀ a, (f a).blocks = []) (hget : ∀ a, (f a).get? [field] = some (.number a.port))
    (named : List Port.Named) :
    (named.map f).flatMap (numbers field configured) = (named.map (·.port)).map some := by
  refine flatMap_numbers_plain configured ?_
  rw [List.forall₂_map_left_iff, List.forall₂_map_right_iff, List.forall₂_same]
  exact fun a _ => ⟨hblocks a, hget a⟩

/-- What a declaration makes where its ports are written out. -/
def plainPart (p : ExposedPort) (d : Port.Definition) (named served : List Port.Named) : Part where
  declared := p
  container := named.map fun a =>
    Pod.containerPort (.number a.port) (.string (String.ofList a.name)) d.protocol
  targeting := served.map fun a =>
    port .cluster (.string (String.ofList a.name)) (.number a.port) d.protocol
  direct := named.map fun a => port .pods (.string (String.ofList a.name)) (.number a.port) d.protocol

/-- What a declaration makes where a chart counts its ports. -/
def countedPart (p : ExposedPort) (d : Port.Definition) (name : Node) (block : String) : Part where
  declared := p
  container := [(Pod.containerPort (Pod.countedPort d.internal.first) name d.protocol).withBlock block]
  targeting := [(port .cluster name (Pod.countedPort d.external.first) d.protocol).withBlock block]
  direct := [(port .pods name (Pod.countedPort d.internal.first) d.protocol).withBlock block]

theorem agrees_plainPart (hd : Port.Definition.ofExposed p = .ok d) (hcounted : Pod.isCounted s d = false)
    {named : List Port.Named} (hnamed : d.containerPorts = .ok named) :
    (plainPart p d named (named.zipWith (fun a port => ⟨a.name, port⟩) d.external.ports)).Agrees g s := by
  obtain ⟨hdeclares, -, -, hsame⟩ := ofExposed_ok (s := s) hd
  have hplain : isCounted s p = false := hsame ▸ hcounted
  -- the named ports are the ones inside, and there are as many outside
  have hinside : named.map (·.port) = d.internal.ports :=
    Port.ports_named? (Port.Definition.named?_of_containerPorts hnamed)
  have hlength : named.length = d.external.ports.length := by
    rw [Port.Range.length_ports, hdeclares.sameCount, ← Port.Range.length_ports, ← hinside,
      List.length_map]
  obtain ⟨hnames, houtside⟩ := forall₂_zipWith hlength
  refine ⟨?_, ?_, ?_, d.internal, d.external, hdeclares, ?_⟩
  · rintro entry hentry
    obtain ⟨a, -, rfl⟩ := List.mem_map.1 hentry
    simp [entryBlocks, plainPart, hplain, Pod.containerPort]
  · rw [plainPart, List.forall₂_map_left_iff, List.forall₂_map_right_iff]
    refine hnames.imp fun a b hname => ?_
    rw [hname]
    exact targets_port (by decide) _ _ _ _
  · rw [plainPart, List.forall₂_map_left_iff, List.forall₂_map_right_iff, List.forall₂_same]
    exact fun a _ => shows_port _ _ _
  · rintro configured count rfl
    simp only [plainPart, hplain, Bool.false_eq_true, if_false]
    refine ⟨?_, ?_, ?_⟩
    · rw [flatMap_numbers_map configured (fun _ => rfl) (fun _ => by simp [Pod.containerPort]), hinside]
      simp [Port.Range.ports]
    · rw [flatMap_numbers_map configured (fun _ => rfl) (fun _ => by simp [port]), houtside]
      simp [Port.Range.ports, hdeclares.sameCount]
    · rw [flatMap_numbers_map configured (fun _ => rfl) (fun _ => by simp [port]), hinside]
      simp [Port.Range.ports]

theorem agrees_countedPart (hd : Port.Definition.ofExposed p = .ok d) (hcounted : Pod.isCounted s d = true)
    (name : Node) :
    (countedPart p d name (Template.countBlock (d.countPath g.varName))).Agrees g s := by
  obtain ⟨hdeclares, -, hname, hsame⟩ := ofExposed_ok (s := s) hd
  have hconfigured : isCounted s p = true := hsame ▸ hcounted
  refine ⟨?_, ?_, ?_, d.internal, d.external, hdeclares, ?_⟩
  · rintro entry hentry
    obtain rfl := List.mem_singleton.1 hentry
    simp [entryBlocks, countedPart, hconfigured, Pod.containerPort, Port.Definition.countPath, hname]
  · exact .cons ((targets_port (by decide) _ _ _ _).withBlock _) .nil
  · exact .cons ((shows_port _ _ _).withBlock _) .nil
  · rintro configured count rfl
    simp only [countedPart, hconfigured, if_true]
    refine ⟨?_, ?_, ?_⟩
    · exact flatMap_numbers_counted configured (by simp [Pod.containerPort])
    · exact flatMap_numbers_counted configured (by simp [port])
    · exact flatMap_numbers_counted configured (by simp [port])

/-- Outside of the cluster and inside of it, the ports of a definition are the same. -/
theorem definitionPorts_everyone (g : Group) (s : Settings) (d : Port.Definition) :
    definitionPorts g s .everyone d = definitionPorts g s .cluster d := rfl

/-- Where the entries of a declaration in the container are made, those of the services are. -/
theorem exists_part (hd : Port.Definition.ofExposed p = .ok d) {entries : List Node}
    (h : Pod.definitionPorts g s d = .ok entries) :
    ∃ part : Part, part.declared = p ∧ part.Agrees g s ∧ part.container = entries ∧
      definitionPorts g s .cluster d = .ok part.targeting ∧
      definitionPorts g s .pods d = .ok part.direct := by
  unfold Pod.definitionPorts at h
  cases hcounted : Pod.isCounted s d with
  | true =>
    rw [hcounted, if_pos rfl] at h
    obtain ⟨beginning, hbeginning, h⟩ := bind_eq_ok_iff.1 h
    obtain rfl := pure_eq_ok_iff.1 h
    -- a counted entry is one entry in a loop, and the same beginning of its name serves all
    have hmade (audience : Audience) : definitionPorts g s audience d = .ok
        [(port audience (Pod.countedName beginning) (Pod.countedPort (shownRange audience d).first)
          d.protocol).withBlock (Template.countBlock (d.countPath g.varName))] := by
      rw [definitionPorts, hcounted, if_pos rfl, hbeginning]
      rfl
    exact ⟨_, rfl, agrees_countedPart hd hcounted (Pod.countedName beginning), rfl, hmade .cluster,
      hmade .pods⟩
  | false =>
    rw [hcounted, if_neg Bool.false_ne_true] at h
    obtain ⟨named, hnamed, h⟩ := bind_eq_ok_iff.1 h
    obtain rfl := pure_eq_ok_iff.1 h
    -- the names are those of the ports inside; only the numbers are those outside
    have hserved : d.servicePorts
        = .ok (named.zipWith (fun a port => ⟨a.name, port⟩) d.external.ports) := by
      rw [Port.Definition.servicePorts, hnamed]
      rfl
    refine ⟨_, rfl, agrees_plainPart hd hcounted hnamed, rfl, ?_, ?_⟩
    · rw [definitionPorts, hcounted, if_neg Bool.false_ne_true, if_neg (by decide), hserved]
      rfl
    · rw [definitionPorts, hcounted, if_neg Bool.false_ne_true, if_pos rfl, hnamed]
      rfl

/-- Declaration by declaration, the container and the services stand for the same ports. -/
theorem exists_parts {declared : List ExposedPort} {ds : List Port.Definition} {made : List (List Node)}
    (hds : declared.mapM Port.Definition.ofExposed = .ok ds)
    (hmade : ds.mapM (Pod.definitionPorts g s) = .ok made) :
    ∃ parts : List Part, parts.map (·.declared) = declared ∧ (∀ part ∈ parts, part.Agrees g s) ∧
      parts.map (·.container) = made ∧
      ds.mapM (definitionPorts g s .cluster) = .ok (parts.map (·.targeting)) ∧
      ds.mapM (definitionPorts g s .pods) = .ok (parts.map (·.direct)) ∧
      (ds.filter (·.isPublic)).mapM (definitionPorts g s .everyone)
        = .ok ((parts.filter (·.declared.isPublic)).map (·.targeting)) := by
  induction declared generalizing ds made with
  | nil =>
    obtain rfl := mapM_nil_eq_ok_iff.1 hds
    obtain rfl := mapM_nil_eq_ok_iff.1 hmade
    exact ⟨[], rfl, nofun, rfl, rfl, rfl, rfl⟩
  | cons p declared ih =>
    obtain ⟨d, ds, hd, hrest, rfl⟩ := mapM_cons_eq_ok_iff.1 hds
    obtain ⟨entries, made, hentries, hothers, rfl⟩ := mapM_cons_eq_ok_iff.1 hmade
    obtain ⟨part, rfl, hagrees, rfl, hcluster, hpods⟩ := exists_part hd hentries
    obtain ⟨parts, rfl, hall, rfl, hclusters, hdirect, hpublic⟩ := ih hrest hothers
    refine ⟨part :: parts, rfl, ?_, rfl, ?_, ?_, ?_⟩
    · exact List.forall_mem_cons.2 ⟨hagrees, hall⟩
    · exact mapM_cons_eq_ok_iff.2 ⟨_, _, hcluster, hclusters, rfl⟩
    · exact mapM_cons_eq_ok_iff.2 ⟨_, _, hpods, hdirect, rfl⟩
    · -- the public service has the entries of those declarations that are public
      obtain ⟨-, hflag, -⟩ := ofExposed_ok (s := s) hd
      rw [List.filter_cons, List.filter_cons, hflag]
      split
      · have heveryone := (definitionPorts_everyone g s d).trans hcluster
        exact mapM_cons_eq_ok_iff.2 ⟨_, _, heveryone, hpublic, rfl⟩
      · exact hpublic

/-- Every declaration has an entry. -/
theorem Part.Agrees.targeting_ne_nil {part : Part} (h : part.Agrees g s) : part.targeting ≠ [] := by
  obtain ⟨inside, outside, -, hnumbers⟩ := h.numbers
  obtain ⟨-, htargeting, -⟩ := hnumbers 1 _ rfl
  intro hnil
  have hlength := congrArg List.length htargeting
  rw [hnil] at hlength
  simp only [List.flatMap_nil, List.length_nil, List.length_map, List.length_range] at hlength
  split at hlength
  · exact absurd hlength (by decide)
  · exact absurd hlength (Nat.succ_ne_zero _).symm

/-! ## Services -/

theorem listAt_ports {c : Node} (h : Pod.container m s g = .ok c) :
    Pod.containerPorts g s = .ok (c.listAt ["ports"]) := by
  obtain ⟨image, ports, env, liveness, readiness, -, hports, -, hl, hr, rfl⟩ := Pod.container_ok h
  have hl' : Mapping.lookup? liveness "ports" = none := Pod.lookup?_probeEntry hl (by decide)
  have hr' : Mapping.lookup? readiness "ports" = none := Pod.lookup?_probeEntry hr (by decide)
  rw [hports]
  simp [Node.listAt, hl', hr']

theorem ports_ok {audience : Audience} {ds chosen : List Port.Definition} {parts : List Part}
    {entries : Part → List Node} (hds : g.portDefinitions = .ok ds)
    (hchosen : ds.filter (fun d => audience != .everyone || d.isPublic) = chosen)
    (h : chosen.mapM (definitionPorts g s audience) = .ok (parts.map entries)) :
    ports g s audience = .ok (parts.flatMap entries) := by
  unfold ports
  rw [hds]
  refine bind_eq_ok_iff.2 ⟨ds, rfl, bind_eq_ok_iff.2 ⟨parts.map entries, ?_, ?_⟩⟩
  · rw [hchosen]
    exact h
  · exact pure_eq_ok_iff.2 rfl

@[simp] theorem lookup?_access_ports (s : Settings) (audience : Audience) :
    Mapping.lookup? (access s audience) "ports" = none := by
  cases audience with
  | cluster => simp [access]
  | pods => simp [access]
  | everyone => cases hchart : s.chart <;> simp [access, hchart]

/-- A service lists its ports, and is not there where it would list none. -/
theorem service?_of_ports {audience : Audience} {entries : List Node} (h : ports g s audience = .ok entries) :
    ∃ service, service? g s audience = .ok service ∧ listed service = entries ∧
      (service = none ↔ entries = []) := by
  unfold service?
  rw [h]
  cases entries with
  | nil => exact ⟨none, rfl, rfl, by simp⟩
  | cons entry rest => exact ⟨_, rfl, by simp [listed, Node.listAt, newObject], by simp⟩

/-- How the services of a group are related to its container. -/
structure Serves (g : Group) (s : Settings) (container : Node) (inner outer pods : Option Node) : Prop where
  targets : List.Forall₂ Targets (container.listAt ["ports"]) (listed inner)
  shows : List.Forall₂ Shows (container.listAt ["ports"]) (listed pods)
  declared : ∃ parts : List Part, parts.map (·.declared) = g.run.ports ∧ (∀ part ∈ parts, part.Agrees g s) ∧
    container.listAt ["ports"] = parts.flatMap (·.container) ∧
    listed inner = parts.flatMap (·.targeting) ∧ listed pods = parts.flatMap (·.direct) ∧
    listed outer = (parts.filter (·.declared.isPublic)).flatMap (·.targeting)
  absent : outer = none ↔ ∀ p ∈ g.run.ports, p.isPublic = false

theorem forall₂_flatMap {parts : List Part} {R : Node → Node → Prop} {a b : Part → List Node}
    (h : ∀ part ∈ parts, List.Forall₂ R (a part) (b part)) :
    List.Forall₂ R (parts.flatMap a) (parts.flatMap b) := by
  induction parts with
  | nil => exact .nil
  | cons part parts ih =>
    obtain ⟨hpart, hparts⟩ := List.forall_mem_cons.1 h
    exact List.rel_append hpart (ih hparts)

/-- Where the container of a group is built, its services are built too, and they lead to the ports of
the container. -/
theorem reach_container {c : Node} (h : Pod.container m s g = .ok c) :
    ∃ inner outer pods, service? g s .cluster = .ok inner ∧ service? g s .everyone = .ok outer ∧
      service? g s .pods = .ok pods ∧ Serves g s c inner outer pods := by
  obtain ⟨ds, hds, hports⟩ := bind_eq_ok_iff.1 (listAt_ports h)
  obtain ⟨made, hmade, hports⟩ := bind_eq_ok_iff.1 hports
  have hflat : made.flatten = c.listAt ["ports"] := pure_eq_ok_iff.1 hports
  obtain ⟨parts, hdeclared, hall, rfl, hcluster, hpods, hpublic⟩ := exists_parts hds hmade
  have hinner : ports g s .cluster = .ok (parts.flatMap (·.targeting)) :=
    ports_ok hds (List.filter_true ds) hcluster
  have hdirect : ports g s .pods = .ok (parts.flatMap (·.direct)) :=
    ports_ok hds (List.filter_true ds) hpods
  have houter : ports g s .everyone = .ok ((parts.filter (·.declared.isPublic)).flatMap (·.targeting)) :=
    ports_ok hds rfl hpublic
  obtain ⟨inner, hinner, hlinner, -⟩ := service?_of_ports hinner
  obtain ⟨pods, hpods, hlpods, -⟩ := service?_of_ports hdirect
  obtain ⟨outer, houter, hlouter, habsent⟩ := service?_of_ports houter
  refine ⟨inner, outer, pods, hinner, houter, hpods, ?_, ?_, ?_, ?_⟩
  · rw [← hflat, hlinner]
    exact forall₂_flatMap fun part hpart => (hall part hpart).targets
  · rw [← hflat, hlpods]
    exact forall₂_flatMap fun part hpart => (hall part hpart).shows
  · exact ⟨parts, hdeclared, hall, hflat.symm, hlinner, hlpods, hlouter⟩
  · rw [habsent, List.flatMap_eq_nil_iff, ← hdeclared]
    simp only [List.mem_filter, List.forall_mem_map]
    constructor
    · intro hnone part hpart
      by_contra hflag
      have := (hall part hpart).targeting_ne_nil
      exact this (hnone part ⟨hpart, by simpa using hflag⟩)
    · rintro hnone part ⟨hpart, hflag⟩
      exact absurd hflag (by simp [hnone part hpart])

/-- A group with a public range that has other numbers outside, and with ports that a chart counts. -/
def webGroup : Group where
  name := "web"
  run := {
    ports := [
      { name := "https", internal := .text "8443-8444", external := some (.text "443-444"),
        isPublic := true },
      { name := "worker", internal := .text "7000-7003", countIsConfigurable := true }] }

theorem reach_container_web :
    ∃ c, Pod.container {} { chart := true } webGroup = .ok c ∧
      ∃ inner outer pods, service? webGroup { chart := true } .cluster = .ok inner ∧
        service? webGroup { chart := true } .everyone = .ok outer ∧
        service? webGroup { chart := true } .pods = .ok pods ∧
        Serves webGroup { chart := true } c inner outer pods := by
  have hc : ∃ c, Pod.container {} { chart := true } webGroup = .ok c := by
    unfold Pod.container
    rw [Pod.environment_of_no_jobs _ _ rfl]
    exact ⟨_, rfl⟩
  obtain ⟨c, hc⟩ := hc
  exact ⟨c, hc, reach_container hc⟩

end RoleChart.Service
