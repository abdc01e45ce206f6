import RoleChart.Proofs.Chart.Supply
import RoleChart.Proofs.Document.Written
import RoleChart.Proofs.Pod.Legible
import RoleChart.Proofs.Port.Exponent
import RoleChart.Proofs.Service
import RoleChart.Proofs.Template.Counter
import RoleChart.Proofs.Template.Free

/-!
# Counted ports

A chart writes the ports of a definition as one entry that is counted up to a number from its values. Without a
chart each port has its own entry. With the default of that number the entry is expanded to the same ports, in the
container and in every service. Only the quotes around a name are lost, and with them some names: a reader takes
what is left of `"1e-0"` for a number.

## Main statements

* `Place.copies?_countedEntry` — what the entry of a chart is expanded to
* `Place.content_expandedEntries_eq_iff` — when a reader finds the same ports in it as where they are written out
* `counted_read_iff` — for a group of a manifest, up to the default in the values of its chart
-/

namespace RoleChart.Service

open RoleChart.Document RoleChart.Built
open Template (copies? nodeAt? textAt?)

/-! ## Places -/

/-- Where ports are listed. -/
inductive Place where
  | container
  | service (audience : Audience)

namespace Place

/-- What a place lists for a group. -/
def listed (m : Manifest) (s : Settings) (g : Group) : Place → Built (List Node)
  | container => (Pod.container m s g).map fun c => c.listAt ["ports"]
  | service audience => (service? g s audience).map Service.listed

/-- Whether a place lists the ports of a definition. -/
def shows (d : Port.Definition) : Place → Bool
  | container => true
  | service audience => audience != .everyone || d.isPublic

/-- What one definition makes in a place. -/
def entries (g : Group) (s : Settings) (d : Port.Definition) : Place → Built (List Node)
  | container => Pod.definitionPorts g s d
  | service audience => Service.definitionPorts g s audience d

/-- The first number that a place shows of a definition. -/
def first (d : Port.Definition) : Place → Nat
  | container => d.internal.first
  | service audience => (shownRange audience d).first

/-- The entry of a port in a place. -/
def entry (d : Port.Definition) (number name : Node) : Place → Node
  | container => Pod.containerPort number name d.protocol
  | service audience => Service.port audience name number d.protocol

end Place

/-- The name of a port behind a beginning. -/
def numberedName (base : List Char) (i : Nat) : String := String.ofList (base ++ '-' :: Text.decimal i)

variable {m : Manifest} {s : Settings} {g : Group} {p : ExposedPort} {d : Port.Definition} {place : Place}
  {base : List Char} {made : List Node}

/-! ## Entries -/

/-- What a chart makes of a definition that it counts. -/
def Place.countedEntry (g : Group) (d : Port.Definition) (base : List Char) (place : Place) : Node :=
  (place.entry d (Pod.countedPort (place.first d)) (Pod.countedName (String.ofList base))).withBlock
    (Template.countBlock (d.countPath g.varName))

/-- The entries of a definition whose ports are written out. -/
def Place.writtenEntries (d : Port.Definition) (base : List Char) (place : Place) : List Node :=
  (List.range d.count).map fun i =>
    place.entry d (.number (place.first d + i)) (.string (numberedName base i))

theorem exists_of_namePrefix {beginning : String} (h : d.namePrefix = .ok beginning) :
    ∃ base, Port.rangePrefix? d.name.toList d.count = some base ∧ beginning = String.ofList base := by
  obtain ⟨base, hbase, rfl⟩ := map_eq_ok_iff.1 h
  unfold Port.Definition.named at hbase
  split at hbase
  · next found hfound =>
    obtain rfl := Except.ok.inj hbase
    exact ⟨_, hfound, rfl⟩
  · cases hbase

/-- A chart counts the ports of a definition in one entry. -/
theorem Place.entries_of_counted (hcounted : Pod.isCounted s d = true) (h : place.entries g s d = .ok made) :
    ∃ base, Port.rangePrefix? d.name.toList d.count = some base ∧ made = [place.countedEntry g d base] := by
  cases place with
  | container =>
    rw [entries, Pod.definitionPorts, if_pos hcounted] at h
    obtain ⟨beginning, hbeginning, h⟩ := bind_eq_ok_iff.1 h
    obtain ⟨base, hbase, rfl⟩ := exists_of_namePrefix hbeginning
    exact ⟨base, hbase, (pure_eq_ok_iff.1 h).symm⟩
  | service audience =>
    rw [entries, Service.definitionPorts, if_pos hcounted] at h
    obtain ⟨beginning, hbeginning, h⟩ := bind_eq_ok_iff.1 h
    obtain ⟨base, hbase, rfl⟩ := exists_of_namePrefix hbeginning
    exact ⟨base, hbase, (pure_eq_ok_iff.1 h).symm⟩

/-- The ports of a definition with more than one port are named behind one beginning. -/
theorem exists_of_containerPorts (hmany : 2 ≤ d.count) {named : List Port.Named}
    (h : d.containerPorts = .ok named) :
    ∃ base, Port.rangePrefix? d.name.toList d.count = some base ∧
      named = (List.range d.count).map fun i => ⟨base ++ '-' :: Text.decimal i, d.internal.first + i⟩ := by
  have hnamed := Port.Definition.named?_of_containerPorts h
  have hne : d.internal.first ≠ d.internal.last := by
    intro hsame
    rw [Port.Definition.count, Port.Range.count, hsame] at hmany
    omega
  rw [Port.named?, if_neg hne] at hnamed
  obtain ⟨base, hbase, rfl⟩ := Option.map_eq_some_iff.1 hnamed
  exact ⟨base, hbase, rfl⟩

/-- Without a chart, each port of a definition has its own entry. -/
theorem Place.entries_of_written (hcounted : Pod.isCounted s d = false) (hd : Port.Definition.ofExposed p = .ok d)
    (hmany : 2 ≤ d.count) (h : place.entries g s d = .ok made) :
    ∃ base, Port.rangePrefix? d.name.toList d.count = some base ∧ made = place.writtenEntries d base := by
  cases place with
  | container =>
    rw [entries, Pod.definitionPorts, if_neg (by simp [hcounted])] at h
    obtain ⟨named, hnamed, h⟩ := bind_eq_ok_iff.1 h
    obtain ⟨base, hbase, rfl⟩ := exists_of_containerPorts hmany hnamed
    obtain rfl := pure_eq_ok_iff.1 h
    exact ⟨base, hbase, List.map_map⟩
  | service audience =>
    rw [entries, Service.definitionPorts, if_neg (by simp [hcounted])] at h
    by_cases hpods : audience = .pods
    · subst hpods
      obtain ⟨named, hnamed, h⟩ := bind_eq_ok_iff.1 h
      obtain ⟨base, hbase, rfl⟩ := exists_of_containerPorts hmany hnamed
      obtain rfl := pure_eq_ok_iff.1 h
      exact ⟨base, hbase, List.map_map⟩
    · rw [if_neg hpods] at h
      obtain ⟨named, hnamed, h⟩ := bind_eq_ok_iff.1 h
      obtain ⟨inner, hinner, hzip⟩ := bind_eq_ok_iff.1 hnamed
      obtain ⟨base, hbase, rfl⟩ := exists_of_containerPorts hmany hinner
      obtain rfl := pure_eq_ok_iff.1 hzip
      obtain rfl := pure_eq_ok_iff.1 h
      refine ⟨base, hbase, ?_⟩
      -- the range outside has as many ports
      have houtside : d.external.count = d.count := congrArg (· + 1) (Port.Definition.ofExposed_width p d hd)
      rw [Port.Range.ports, houtside, List.zipWith_map, List.zipWith_self, List.map_map]
      simp only [writtenEntries, Place.first, shownRange, if_neg hpods]
      rfl

/-! ## What is listed -/

/-- A place lists what the definitions make that it shows. -/
theorem Place.listed_ok (h : place.listed m s g = .ok made) : ∃ ds parts, g.portDefinitions = .ok ds ∧
    (ds.filter fun d => place.shows d).mapM (fun d => place.entries g s d) = .ok parts ∧ parts.flatten = made := by
  cases place with
  | container =>
    obtain ⟨c, hc, rfl⟩ := map_eq_ok_iff.1 h
    obtain ⟨ds, hds, hports⟩ := bind_eq_ok_iff.1 (listAt_ports hc)
    obtain ⟨parts, hparts, hports⟩ := bind_eq_ok_iff.1 hports
    refine ⟨ds, parts, hds, ?_, pure_eq_ok_iff.1 hports⟩
    have hall : ds.filter (fun d => container.shows d) = ds := List.filter_eq_self.2 fun _ _ => rfl
    rw [hall]
    exact hparts
  | service audience =>
    obtain ⟨service, hservice, rfl⟩ := map_eq_ok_iff.1 h
    obtain ⟨made, hmade, -⟩ := bind_eq_ok_iff.1 hservice
    obtain ⟨same, hsame, hlisted, -⟩ := service?_of_ports hmade
    obtain rfl : service = same := Except.ok.inj (hservice.symm.trans hsame)
    obtain ⟨ds, hds, hports⟩ := bind_eq_ok_iff.1 hmade
    obtain ⟨parts, hparts, hports⟩ := bind_eq_ok_iff.1 hports
    exact ⟨ds, parts, hds, hparts, (pure_eq_ok_iff.1 hports).trans hlisted.symm⟩

/-- What a definition makes is among what a place lists that shows it. -/
theorem Place.exists_infix_listed (h : place.listed m s g = .ok made) (hp : p ∈ g.run.ports)
    (hd : Port.Definition.ofExposed p = .ok d) (hshows : place.shows d = true) :
    ∃ own, place.entries g s d = .ok own ∧ own <:+: made := by
  obtain ⟨ds, parts, hds, hparts, rfl⟩ := listed_ok h
  obtain ⟨same, hmem, hsame⟩ := exists_mem_of_mapM hds hp
  obtain rfl : d = same := Except.ok.inj (hd.symm.trans hsame)
  obtain ⟨own, hown, hentries⟩ := exists_mem_of_mapM hparts (List.mem_filter.2 ⟨hmem, hshows⟩)
  exact ⟨own, hentries, List.infix_of_mem_flatten hown⟩

/-! ## Copies -/

/-- What a counted entry is expanded to: the ports of the written entries, with names that are not quoted. -/
def Place.expandedEntries (d : Port.Definition) (base : List Char) (place : Place) : List Node :=
  (List.range d.count).map fun i =>
    place.entry d (.number (place.first d + i)) (.verbatim (numberedName base i))

section Copies

variable {i : Nat}

theorem nodeAt?_number (n i : Nat) : nodeAt? i (.number n) = some (.number n) := by
  have hopening : ¬ Template.opening <:+: Text.decimal n := fun hinner =>
    absurd (Yaml.isDigit_decimal (hinner.subset (List.mem_cons_self : '\x7b' ∈ Template.opening))) (by decide)
  rw [Node.number, nodeAt?, String.toList_ofList, Template.textAt?_of_free hopening]
  rfl

theorem nodeAt?_countedPort (first i : Nat) : nodeAt? i (Pod.countedPort first) = some (.number (first + i)) := by
  rw [Pod.countedPort, Node.verbatim, nodeAt?, Template.textAt?_sum]
  rfl

theorem nodeAt?_countedName (hbase : '\x7b' ∉ base) (i : Nat) :
    nodeAt? i (Pod.countedName (String.ofList base)) = some (.verbatim (numberedName base i)) := by
  have htext : (String.ofList base ++ "-" ++ Template.action "$i").toList
      = (base ++ ['-']) ++ (Template.action "$i").toList := by simp
  have hfront : '\x7b' ∉ base ++ ['-'] := by simpa using hbase
  rw [Pod.countedName, Node.verbatim, nodeAt?, htext, Template.textAt?_counter hfront]
  simp [numberedName, Node.verbatim]

/-- A text without template expressions stays. -/
theorem nodeAt?_string {t : String} (h : isTemplated t.toList = false) (i : Nat) :
    nodeAt? i (.string t) = some (.string t) := by
  have hopening : ¬ Template.opening <:+: quote t.toList := by
    intro hinner
    have hfound : isTemplated (quote t.toList) = true := (Text.occurs_iff _ _).2 hinner
    rw [isTemplated_quote, h] at hfound
    cases hfound
  rw [Node.string, nodeAt?, String.toList_ofList, Template.textAt?_of_free hopening]
  rfl

/-- Template expressions in capitals do not read the counter. -/
theorem nodeAt?_capitals {t : List Char} (h : isTemplated (Text.upper t) = true) (i : Nat) :
    nodeAt? i (.string (String.ofList (Text.upper t))) = none := by
  have hopening : Template.opening <:+: quote (Text.upper t) :=
    (Text.occurs_iff _ _).1 ((isTemplated_quote _).trans h)
  have hname : 'i' ∉ quote (Text.upper t) := Template.not_mem_quote (by decide) fun hmem =>
    absurd (Text.not_small_of_mem_upper hmem) (by decide)
  rw [Node.string, nodeAt?, String.toList_ofList, String.toList_ofList, Template.textAt?_eq_none hopening hname]
  rfl

/-- The entry of a port is made of its number, its name and its protocol. -/
theorem Place.nodeAt?_entry {number number' name name' : Node} (hnumber : nodeAt? i number = some number')
    (hname : nodeAt? i name = some name') (hprotocol : nodeAt? i (.string d.protocol) = some (.string d.protocol))
    (place : Place) : nodeAt? i (place.entry d number name) = some (place.entry d number' name') := by
  cases place with
  | container =>
    simp [entry, Pod.containerPort, Node.entries, nodeAt?, Template.entriesAt?, hnumber, hname, hprotocol]
  | service audience =>
    have htarget : nodeAt? i (if audience = .pods then .number 0 else name)
        = some (if audience = .pods then .number 0 else name') := by
      split
      · exact nodeAt?_number 0 i
      · exact hname
    simp [entry, port, Node.entries, nodeAt?, Template.entriesAt?, hnumber, hname, hprotocol, htarget]

theorem Place.nodeAt?_entry_eq_none (hprotocol : nodeAt? i (.string d.protocol) = none) (number name : Node)
    (place : Place) : nodeAt? i (place.entry d number name) = none := by
  cases place with
  | container =>
    cases hnumber : nodeAt? i number <;> cases hname : nodeAt? i name <;>
      simp [entry, Pod.containerPort, Node.entries, nodeAt?, Template.entriesAt?, hnumber, hname, hprotocol]
  | service audience =>
    cases hnumber : nodeAt? i number <;> cases hname : nodeAt? i name <;>
      simp [entry, port, Node.entries, nodeAt?, Template.entriesAt?, hnumber, hname, hprotocol]

/-- The copies of the entry of a chart are its ports. A protocol with a template expression of its own is no copy. -/
theorem Place.copies?_countedEntry (hd : Port.Definition.ofExposed p = .ok d) (hbase : '\x7b' ∉ base)
    (hcount : 0 < d.count) (place : Place) : copies? d.count (place.countedEntry g d base)
      = if isTemplated d.protocol.toList then none else some (place.expandedEntries d base) := by
  have hbare : (place.countedEntry g d base).withNotes { (place.countedEntry g d base).notes with blocks := [] }
      = place.entry d (Pod.countedPort (place.first d)) (Pod.countedName (String.ofList base)) := by
    cases place <;> rfl
  rw [copies?, hbare]
  split
  · next htemplated =>
    -- the counter has a small letter, so an expression in capitals cannot be read
    have hprotocol (i : Nat) : nodeAt? i (.string d.protocol) = none := by
      have hkeeps := Port.Definition.ofExposed_ok hd
      rw [hkeeps.protocol, String.toList_ofList] at htemplated
      rw [hkeeps.protocol]
      exact nodeAt?_capitals htemplated i
    obtain ⟨n, hn⟩ := Nat.exists_eq_succ_of_ne_zero (Nat.pos_iff_ne_zero.1 hcount)
    rw [hn, List.range_succ_eq_map, List.mapM_cons, place.nodeAt?_entry_eq_none (hprotocol 0)]
    rfl
  · next hplain =>
    have hmade (i : Nat) : nodeAt? i
        (place.entry d (Pod.countedPort (place.first d)) (Pod.countedName (String.ofList base)))
          = some (place.entry d (.number (place.first d + i)) (.verbatim (numberedName base i))) :=
      place.nodeAt?_entry (nodeAt?_countedPort _ i) (nodeAt?_countedName hbase i)
        (nodeAt?_string (Bool.not_eq_true _ ▸ hplain) i)
    simp only [hmade]
    exact List.mapM_pure

end Copies

/-! ## What a reader finds -/

section Reading

open Port (Worded Exponential)

variable {i : Nat}

/-- A reader finds the same entry if it finds the same name. -/
theorem Place.content_entry_inj {a b : Node} (number : Node) (place : Place) :
    (place.entry d number a).content = (place.entry d number b).content ↔ a.content = b.content := by
  constructor
  · intro h
    have hname (n : Node) : (place.entry d number n).content.get? ["name"] = some n.content := by
      rw [Node.get?_content]
      cases place <;> simp [entry, Pod.containerPort, port]
    have hsame := congrArg (Yaml.Value.get? · ["name"]) h
    simpa [hname] using hsame
  · intro h
    cases place with
    | container => simp [entry, Pod.containerPort, h]
    | service audience => cases audience <;> simp [entry, port, h]

theorem Place.entry_inj {a b : Node} (number : Node) (place : Place) :
    place.entry d number a = place.entry d number b ↔ a = b := by
  constructor
  · intro h
    have hname (n : Node) : (place.entry d number n).get? ["name"] = some n := by
      cases place <;> simp [entry, Pod.containerPort, port]
    have hsame := congrArg (Node.get? · ["name"]) h
    simpa [hname] using hsame
  · rintro rfl
    rfl

/-- Between quotes where they are needed, a name is read as itself. -/
theorem content_writtenName (h : Worded base) (i : Nat) :
    (Node.string (numberedName base i)).content = .string (numberedName base i) :=
  Node.content_string (Pod.textLegible_portName (h.numbered i).chars)

/-- Without quotes, a name is read as itself unless it writes a number with an exponent. -/
theorem content_expandedName_eq_iff (h : Worded base) (hlength : base.length ≤ Port.maxNameLength) (i : Nat) :
    (Node.verbatim (numberedName base i)).content = .string (numberedName base i) ↔ ¬ Exponential base := by
  have hcontent : (Node.verbatim (numberedName base i)).content
      = (Yaml.plainValue (numberedName base i)).toOption.getD .null := by
    have hhead : (base ++ '-' :: Text.decimal i).head? ≠ some '"' := (h.numbered i).head_ne (by decide)
    rw [Node.verbatim, Node.content, numberedName, String.toList_ofList, spelled, if_neg hhead, Yaml.Spelling.value]
  rw [hcontent]
  by_cases hbase : Exponential base
  · obtain ⟨x, hx⟩ := Port.plainValue_exponential h hbase hlength i
    rw [numberedName, hx]
    simp [Except.toOption, hbase]
  · rw [numberedName, Port.plainValue_numbered h hbase i]
    simp [Except.toOption, hbase]

/-- A reader finds the same ports in the copies and in the written entries, unless the names write numbers. -/
theorem Place.content_expandedEntries_eq_iff (h : Worded base) (hlength : base.length ≤ Port.maxNameLength)
    (hcount : 0 < d.count) (place : Place) :
    (place.expandedEntries d base).map Node.content = (place.writtenEntries d base).map Node.content
      ↔ ¬ Exponential base := by
  have hname (i : Nat) : (Node.verbatim (numberedName base i)).content = (Node.string (numberedName base i)).content
      ↔ ¬ Exponential base := by
    rw [content_writtenName h i, content_expandedName_eq_iff h hlength i]
  rw [expandedEntries, writtenEntries, List.map_map, List.map_map, List.map_inj_left]
  simp only [Function.comp_apply, content_entry_inj, hname, List.mem_range]
  exact ⟨fun hall => hall 0 hcount, fun hbase i _ => hbase⟩

/-- The copies are the written entries if no name needs quotes. -/
theorem Place.expandedEntries_eq_iff (h : Worded base) (place : Place) :
    place.expandedEntries d base = place.writtenEntries d base
      ↔ ∀ i < d.count, needsQuotes (numberedName base i).toList = false := by
  have hplain (i : Nat) : isTemplated (numberedName base i).toList = false := by
    rw [isTemplated, Bool.eq_false_iff, ne_eq, Text.occurs_iff, numberedName, String.toList_ofList]
    intro hinner
    exact absurd ((h.numbered i).chars '\x7b' (hinner.subset List.mem_cons_self)) (by decide)
  have hname (i : Nat) : Node.verbatim (numberedName base i) = Node.string (numberedName base i)
      ↔ needsQuotes (numberedName base i).toList = false := by
    rw [← quote_eq_self_iff _ (hplain i), Node.verbatim, Node.string, Node.scalar.injEq, String.ext_iff,
      String.toList_ofList]
    simp [eq_comm]
  rw [expandedEntries, writtenEntries, List.map_inj_left]
  simp only [entry_inj, hname, List.mem_range]

end Reading

/-! ## Charts and what is written without one -/

/-- What a chart counts up in a place where each port is written out otherwise. -/
structure Place.Counts (g : Group) (d : Port.Definition) (base : List Char) (entry : Node) (written : List Node)
    (place : Place) : Prop where
  block : entry.blocks = [Template.countBlock (d.countPath g.varName)]
  written : written = place.writtenEntries d base
  copies : copies? d.count entry
    = if isTemplated d.protocol.toList then none else some (place.expandedEntries d base)

namespace Place.Counts

variable {entry : Node} {written : List Node}

/-- The copies are what is written exactly if there is nothing else to expand and no name needs quotes. -/
theorem copies_eq_iff (h : place.Counts g d base entry written) (hbase : Port.Worded base) :
    copies? d.count entry = some written ↔ isTemplated d.protocol.toList = false ∧
      ∀ i < d.count, needsQuotes (numberedName base i).toList = false := by
  rw [h.copies, h.written, ← expandedEntries_eq_iff hbase place]
  cases isTemplated d.protocol.toList <;> simp

/-- A reader finds the same ports exactly if there is nothing else to expand and the names write no numbers. -/
theorem contents_eq_iff (h : place.Counts g d base entry written) (hbase : Port.Worded base)
    (hlength : base.length ≤ Port.maxNameLength) (hcount : 0 < d.count) :
    (copies? d.count entry).map (·.map Node.content) = some (written.map Node.content)
      ↔ isTemplated d.protocol.toList = false ∧ ¬ Port.Exponential base := by
  rw [h.copies, h.written, ← content_expandedEntries_eq_iff hbase hlength hcount place]
  cases isTemplated d.protocol.toList <;> simp

end Place.Counts

/-- The range of a definition has no more ports than there are. -/
theorem count_le (hd : Port.Definition.ofExposed p = .ok d) : d.count ≤ Nat.pow 2 32 := by
  obtain ⟨-, horder, hlast⟩ := Port.Range.ofText_bounds (Port.Definition.ofExposed_ok hd).inside
  have hmax : Port.maxPort = 65535 := rfl
  have hpow : 65536 ≤ Nat.pow 2 32 := by decide
  rw [Port.Definition.count, Port.Range.count]
  omega

/-- What a chart makes of a definition that it counts, beside what is made without a chart. -/
theorem Place.exists_counts {s' : Settings} {own written : List Node} (hs : s.chart = true) (hs' : s'.chart = false)
    (hd : Port.Definition.ofExposed p = .ok d) (hcounted : d.countIsConfigurable = true) (hmany : 2 ≤ d.count)
    (hown : place.entries g s d = .ok own) (hwritten : place.entries g s' d = .ok written) :
    ∃ base entry, Port.rangePrefix? d.name.toList d.count = some base ∧ own = [entry] ∧
      place.Counts g d base entry written := by
  have hchart : Pod.isCounted s d = true := by rw [Pod.isCounted, hs, hcounted]; rfl
  have hplain : Pod.isCounted s' d = false := by rw [Pod.isCounted, hs']; rfl
  obtain ⟨base, hbase, rfl⟩ := entries_of_counted hchart hown
  obtain ⟨same, hsame, heq⟩ := entries_of_written hplain hd hmany hwritten
  obtain rfl : base = same := Option.some.inj (hbase.symm.trans hsame)
  have hbrace : '\x7b' ∉ base := fun hmem => absurd (Port.isPortChar_of_rangePrefix? hbase _ hmem) (by decide)
  refine ⟨base, _, hbase, rfl, ?_, heq, place.copies?_countedEntry hd hbrace (by omega)⟩
  cases place <;> rfl

/-- The values of a chart have the number of ports that it counts. -/
theorem get?_count {v : Node} {ds : List Port.Definition} (hv : Chart.values m s = .ok v) (hg : g ∈ m.groups)
    (hds : g.portDefinitions = .ok ds) (hp : p ∈ g.run.ports) (hd : Port.Definition.ofExposed p = .ok d)
    (hcounted : d.countIsConfigurable = true) :
    v.get? ["sizing", g.varName, "ports", varName p.name, "count"] = some (.number d.count) := by
  obtain ⟨sizes, hsizes, hfound⟩ := Chart.exists_sizing hv hg
  obtain ⟨same, hmem, hsame⟩ := exists_mem_of_mapM hds hp
  obtain rfl : d = same := Except.ok.inj (hd.symm.trans hsame)
  rw [hfound _ (List.cons_ne_nil _ _), ← (Port.Definition.ofExposed_ok hd).name]
  exact Chart.get?_portCount hsizes hds hmem hcounted

/-- A chart counts several ports of a definition up to the number in its values, and without a chart they are
written out. With the default of that number a reader finds the same ports in the container and in every service,
unless the names write numbers, like `1e-0`, or the protocol holds template expressions. -/
theorem counted_read_iff {s' : Settings} {v : Node} {charted plain : List Node} (hs : s.chart = true)
    (hs' : s'.chart = false) (hv : Chart.values m s = .ok v) (hg : g ∈ m.groups)
    (hcharted : place.listed m s g = .ok charted) (hplain : place.listed m s' g = .ok plain)
    (hp : p ∈ g.run.ports) (hcounted : p.countIsConfigurable = true)
    (hd : Port.Definition.ofExposed p = .ok d) (hmany : 2 ≤ d.count) (hshows : place.shows d = true) :
    ∃ base entry written, Port.rangePrefix? d.name.toList d.count = some base ∧
      v.get? ["sizing", g.varName, "ports", varName p.name, "count"] = some (.number d.count) ∧
      place.entries g s d = .ok [entry] ∧ [entry] <:+: charted ∧
      place.entries g s' d = .ok written ∧ written <:+: plain ∧ place.Counts g d base entry written ∧
      (copies? d.count entry = some written ↔ isTemplated d.protocol.toList = false ∧
        ∀ i < d.count, needsQuotes (numberedName base i).toList = false) ∧
      ((copies? d.count entry).map (·.map Node.content) = some (written.map Node.content)
        ↔ isTemplated d.protocol.toList = false ∧ ¬ Port.Exponential base) := by
  have hconfigurable : d.countIsConfigurable = true :=
    (Port.Definition.ofExposed_ok hd).countIsConfigurable.trans hcounted
  obtain ⟨ds, -, hds, -, -⟩ := Place.listed_ok hcharted
  obtain ⟨own, hown, hinner⟩ := Place.exists_infix_listed hcharted hp hd hshows
  obtain ⟨written, hwritten, hinner'⟩ := Place.exists_infix_listed hplain hp hd hshows
  obtain ⟨base, entry, hbase, rfl, hcounts⟩ := Place.exists_counts hs hs' hd hconfigurable hmany hown hwritten
  obtain ⟨hworded, hroom⟩ := Port.worded_of_rangePrefix? hbase (count_le hd)
  exact ⟨base, entry, written, hbase, get?_count hv hg hds hp hd hconfigurable, hown, hinner, hwritten, hinner',
    hcounts, hcounts.copies_eq_iff hworded, hcounts.contents_eq_iff hworded (by omega) (by omega)⟩

/-- A public port whose numbered names write numbers. -/
def exponentPort : ExposedPort where
  name := "_1e"
  internal := .text "1-2"
  isPublic := true
  countIsConfigurable := true

/-- A group with such a port. -/
def exponentGroup : Group where
  name := "web"
  run := { ports := [exponentPort] }

/-- A manifest with the group. -/
def exponentManifest : Manifest where
  groups := [exponentGroup]

theorem exists_values_exponent : ∃ v, Chart.values exponentManifest { chart := true } = .ok v := by
  have hnone : exponentManifest.sortedVariables = [] := by simp [Manifest.sortedVariables, exponentManifest]
  unfold Chart.values
  simp only [Chart.environmentValues, Chart.secretValues, hnone]
  exact ⟨_, rfl⟩

/-- In either mode the group has its container and its services. -/
theorem exists_listed_exponent (chart : Bool) (place : Place) :
    ∃ made, place.listed exponentManifest { chart } exponentGroup = .ok made := by
  cases place with
  | container =>
    unfold Place.listed Pod.container
    rw [Pod.environment_of_no_jobs _ _ rfl]
    cases chart <;> exact ⟨_, rfl⟩
  | service audience => cases chart <;> cases audience <;> exact ⟨_, rfl⟩

/-- The names `1e-0` and `1e-1` are texts without a chart. What a chart counts up is two numbers, in each place. -/
theorem counted_read_exponent : ∃ v, Chart.values exponentManifest { chart := true } = .ok v ∧
    ∀ place : Place, ∃ charted plain entry written,
      place.listed exponentManifest { chart := true } exponentGroup = .ok charted ∧
      place.listed exponentManifest {} exponentGroup = .ok plain ∧
      v.get? ["sizing", exponentGroup.varName, "ports", varName "_1e", "count"] = some (.number 2) ∧
      [entry] <:+: charted ∧ written <:+: plain ∧
      (copies? 2 entry).map (·.map Node.content) ≠ some (written.map Node.content) := by
  have hd : Port.Definition.ofExposed exponentPort = .ok ⟨"_1e", "TCP", ⟨1, 2⟩, ⟨1, 2⟩, true, true⟩ := by
    decide +kernel
  obtain ⟨v, hv⟩ := exists_values_exponent
  refine ⟨v, hv, fun place => ?_⟩
  obtain ⟨charted, hcharted⟩ := exists_listed_exponent true place
  obtain ⟨plain, hplain⟩ := exists_listed_exponent false place
  have hshows : place.shows ⟨"_1e", "TCP", ⟨1, 2⟩, ⟨1, 2⟩, true, true⟩ = true := by
    cases place with
    | container => rfl
    | service audience => exact Bool.or_true _
  obtain ⟨base, entry, written, hbase, hcount, -, hinner, -, hinner', -, -, hread⟩ :=
    counted_read_iff rfl rfl hv List.mem_cons_self hcharted hplain List.mem_cons_self rfl hd (by decide) hshows
  have hexponent : Port.Exponential base := by
    have hfound : Port.rangePrefix? "_1e".toList 2 = some ['1', 'e'] := by decide +kernel
    obtain rfl := Option.some.inj (hbase.symm.trans hfound)
    exact ⟨['1'], 'e', rfl, by decide, by decide, .inl rfl⟩
  exact ⟨charted, plain, entry, written, hcharted, hplain, hcount, hinner, hinner',
    fun hsame => (hread.1 hsame).2 hexponent⟩

end RoleChart.Service
