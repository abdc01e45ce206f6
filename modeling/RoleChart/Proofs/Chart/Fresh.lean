import RoleChart.Proofs.Chart.Environment
import RoleChart.Proofs.Collisions
import RoleChart.Proofs.Files
import RoleChart.Proofs.Workload.Replicas

/-!
# Fresh charts

A chart comes with values of its own, and a release that changes none of them reaches the guards with these.
Here the guards of all controllers are evaluated on what the document with the values has at their paths.

## Main statements

* `anyM_movedChecks` — no value is found at an old place, also where a group has the name of one
* `anyM_replicaGuards` — the guards of a group refuse just what breaks its bounds, of the numbers that the values have
* `fresh_checks` — the guards of a fresh chart fail only for groups with dots in their names
-/

namespace RoleChart

open RoleChart.Document RoleChart.Built
open Template (Term Value Values Legible ifBlock holds? stands?)

/-! ## What a release finds in the values -/

/-- What a scalar without quotes stands for. -/
def Template.Value.ofScalar (text : String) : Value :=
  if text.isEmpty || Yaml.isNullWord text then .missing
  else
    match Text.ofDigits? 10 text.toList, Yaml.bool? text with
    | some n, _ => .number n
    | none, some b => .flag b
    | none, none => .text text

/-- The steps of a path: what stands between its dots, behind the name of all values. -/
def Template.pathSteps (path : String) : List String :=
  (Text.splitOn '.' (path.toList.drop Template.valuesPrefix.length)).map String.ofList

namespace Document.Node

/-- What a release finds where the values have a node. A list or a mapping is no number, and counts as a text
that is empty if it has no entries. -/
def releaseValue : Node → Value
  | scalar _ text => .ofScalar text
  | list _ nodes => .text (if nodes.isEmpty then "" else "list")
  | mapping _ m => .text (if m.isEmpty then "" else "map")

/-- What a release finds at a path. -/
def valueAt (values : Node) (path : String) : Value :=
  ((values.get? (Template.pathSteps path)).map releaseValue).getD .missing

/-- What a release finds at some paths. -/
def valuesAt (values : Node) (paths : List String) : Values := paths.map fun path => (path, values.valueAt path)

@[simp] theorem releaseValue_withComment (comment : String) (node : Node) :
    (node.withComment comment).releaseValue = node.releaseValue := by
  cases node <;> rfl

@[simp] theorem releaseValue_number (n : Nat) : (Node.number n).releaseValue = .number n := by
  have htext : Node.number n = Node.verbatim (String.ofList (Text.decimalInt n)) := by
    rw [Text.decimalInt, if_neg (Int.not_lt.2 (Int.natCast_nonneg n)), Int.natAbs_natCast]
    rfl
  have hdecimal : Text.decimalInt n = Text.decimal n := by
    rw [Text.decimalInt, if_neg (Int.not_lt.2 (Int.natCast_nonneg n)), Int.natAbs_natCast]
  have hreserved := hdecimal ▸ Yaml.isReserved_decimalInt n
  have hne := hdecimal ▸ Yaml.decimalInt_ne_nil n
  rw [number, releaseValue, Template.Value.ofScalar, Yaml.isEmpty_ofList hne,
    Yaml.isNullWord_of_not_reserved hreserved, String.toList_ofList, Yaml.ofDigits?_decimal]
  rfl

theorem paths_valuesAt (values : Node) (paths : List String) : (values.valuesAt paths).map Prod.fst = paths := by
  simp [valuesAt, Function.comp_def]

theorem lookup_valuesAt (values : Node) {paths : List String} {path : String} (h : path ∈ paths) :
    (values.valuesAt paths).lookup path = some (values.valueAt path) := by
  induction paths with
  | nil => cases h
  | cons first rest ih =>
    rw [valuesAt, List.map_cons, List.lookup_cons]
    by_cases hfirst : path = first
    · rw [hfirst, beq_self_eq_true]
    · rw [beq_false_of_ne hfirst]
      exact ih ((List.mem_cons.1 h).resolve_left hfirst)

end Document.Node

/-! ## Checks that pass -/

section Checks

variable {values values' : Values} {guard : Guard}

theorem anyM_eq_false {α : Type} {f : α → Option Bool} {xs : List α} (h : ∀ x ∈ xs, f x = some false) :
    xs.anyM f = some false := by
  induction xs with
  | nil => rfl
  | cons x xs ih =>
    rw [List.anyM, h x List.mem_cons_self]
    exact ih fun y hy => h y (List.mem_cons_of_mem x hy)

theorem anyM_congr {α : Type} {f f' : α → Option Bool} {xs : List α} (h : ∀ x ∈ xs, f x = f' x) :
    xs.anyM f = xs.anyM f' := by
  induction xs with
  | nil => rfl
  | cons x xs ih =>
    rw [List.anyM, List.anyM, h x List.mem_cons_self, ih fun y hy => h y (List.mem_cons_of_mem x hy)]

/-- A condition that is read has the truth of its term. -/
theorem fails?_of_condition {paths : List String} (hpaths : values.map Prod.fst = paths) (hl : Legible paths)
    {t : Term} (hguard : guard.conditions = [t]) (hr : t.Readable paths) :
    fails? values guard.entry.2 = (t.eval? values).map Value.truth := by
  subst hpaths
  rw [fails?, Guard.blocks_entry, hguard, List.map_singleton, Template.stands?_singleton,
    Template.holds?_ifBlock hl hr, Guard.isFailure_entry]
  cases t.eval? values with
  | none => rfl
  | some v => cases h : v.truth <;> simp [h]

theorem holds?_path {v : Node} {paths : List String} (hl : Legible paths) {path : String} (h : path ∈ paths) :
    holds? (v.valuesAt paths) (ifBlock (.path path)) = some (v.valueAt path).truth := by
  have hpaths := v.paths_valuesAt paths
  rw [Template.holds?_ifBlock (by rwa [hpaths]) (by rwa [Term.Readable, hpaths]), Term.eval?_path,
    v.lookup_valuesAt h]
  rfl

/-- Blocks do not hold where the innermost one looks up a path without a value. -/
theorem stands?_of_missing {v : Node} {paths outer : List String} {last : String} (hl : Legible paths)
    (hmem : ∀ path ∈ outer ++ [last], path ∈ paths) (hlast : v.valueAt last = .missing) :
    stands? (v.valuesAt paths) ((outer ++ [last]).map fun path => ifBlock (.path path)) = some false := by
  induction outer with
  | nil =>
    rw [List.nil_append, List.map_singleton, Template.stands?_singleton, holds?_path hl (hmem last (by simp)),
      hlast]
    rfl
  | cons first rest ih =>
    rw [List.cons_append, List.map_cons, stands?, holds?_path hl (hmem first List.mem_cons_self),
      ih fun path hpath => hmem path (List.mem_cons_of_mem _ hpath)]
    cases (v.valueAt first).truth <;> rfl

end Checks

/-! ## Old places -/

/-- The paths that the guards on moved keys look up. -/
def movedPaths : List String :=
  movedKeys.flatMap fun key => (key.dropLast ++ [".".intercalate key]).map (".Values.sizing." ++ ·)

/-- The guards on moved keys in the controller. -/
def GroupResources.movedChecks (r : GroupResources) : List Node :=
  ((r.controller.mapping?.getD []).filter fun entry => (movedGuards.map (·.name)).contains entry.1).map Prod.snd

theorem legible_movedPaths : Legible movedPaths where
  dot := by decide
  apart := by
    have happart : ∀ p ∈ movedPaths, ∀ q ∈ movedPaths, p.toList.take q.toList.length = q.toList →
        Template.stops (p.toList.drop q.toList.length) = true → p = q := by
      decide
    intro p hp q hq rest h hstops
    refine happart p hp q hq ?_ ?_
    · rw [h, List.take_left]
    · rwa [h, List.drop_left]

namespace Chart

variable {m : Manifest} {s : Settings} {g : Group} {v : Node}

theorem varName_ne_HA {name : String} (h : Text.lower name.toList = name.toList) : varName name ≠ "HA" := by
  intro hname
  have hchars := congrArg String.toList hname
  rw [varName, String.toList_ofList] at hchars
  have hletter {c letter : Char} (hother : letter ≠ '_') (hc : (if c = '-' then '_' else c) = letter) :
      c = letter := by
    split at hc
    · exact absurd hc.symm hother
    · exact hc
  obtain ⟨a, rest, hrest, ha, hchars⟩ := List.map_eq_cons_iff.1 hchars
  obtain ⟨b, rest, rfl, hb, hchars⟩ := List.map_eq_cons_iff.1 hchars
  obtain rfl := List.map_eq_nil_iff.1 hchars
  obtain rfl := hletter (by decide) ha
  obtain rfl := hletter (by decide) hb
  rw [hrest] at h
  exact absurd h (by decide)

/-- No group has sizing values under the second step of a moved key. -/
theorem lookup?_groupSizing_eq_none {sizes : Mapping} (h : groupSizing g = .ok sizes) {name : String}
    (hname : name ∈ ["limits", "requests"]) : Mapping.lookup? sizes name = none := by
  obtain ⟨disks, -, h⟩ := bind_eq_ok_iff.1 h
  obtain ⟨ports, -, h⟩ := bind_eq_ok_iff.1 h
  have hne : ∀ other ∈ ["affinity", "capabilities", "count", "cpu", "disk_sizes", "memory", "ports"],
      other ≠ name := by
    have hapart : ∀ other ∈ ["affinity", "capabilities", "count", "cpu", "disk_sizes", "memory", "ports"],
        other ∉ ["limits", "requests"] := by decide
    rintro other hother rfl
    exact hapart other hother hname
  simp only [List.forall_mem_cons] at hne
  obtain ⟨haffinity, hcapabilities, hcount, hcpu, hdisks, hmemory, hports, -⟩ := hne
  rw [← pure_eq_ok_iff.1 h]
  simp only [Mapping.lookup?_append, lookup?_unless _ hdisks, lookup?_unless _ hports]
  cases g.isManaged <;> simp [haffinity, hcapabilities, hcount, hcpu, hmemory]

/-- The values have nothing at the place of a moved key. -/
theorem get?_moved (hlower : ∀ g ∈ m.groups, Text.lower g.name.toList = g.name.toList)
    (hv : values m s = .ok v) : ∀ key ∈ movedKeys, v.get? ("sizing" :: key) = none := by
  obtain ⟨environment, cluster, secrets, sizes, -, -, -, hsizes, rfl⟩ := values_ok hv
  have hnested {kind level : String} (hlevel : level ∈ ["limits", "requests"]) :
      (Mapping.lookup? sizes kind).bind (fun node => node.get? [level]) = none := by
    cases hfound : Mapping.lookup? sizes kind with
    | none => rfl
    | some node =>
      obtain ⟨g, -, -, entries, comment, hentries, rfl⟩ := exists_of_lookup?_sizing hsizes hfound
      simp [Node.withComment, lookup?_groupSizing_eq_none hentries hlevel]
  have hHA : Mapping.lookup? sizes "HA" = none := by
    cases hfound : Mapping.lookup? sizes "HA" with
    | none => rfl
    | some node =>
      obtain ⟨g, hg, hname, -⟩ := exists_of_lookup?_sizing hsizes hfound
      exact absurd hname (varName_ne_HA (hlower g hg))
  simp [movedKeys, hHA, hnested]

theorem pathSteps_countPath {name : String} (h : '.' ∉ name.toList) :
    Template.pathSteps (countPath name) = ["sizing", name, "count"] := by
  have hdots : ∀ part ∈ ["sizing", name, "count"].map String.toList, '.' ∉ part := by
    simp only [List.map_cons, List.map_nil, List.forall_mem_cons]
    exact ⟨by decide, h, by decide, by simp⟩
  have hpath : (countPath name).toList
      = Template.valuesPrefix ++ Text.join ['.'] (["sizing", name, "count"].map String.toList) := by
    unfold countPath sizingPath
    simp only [String.toList_append, List.append_assoc, List.map_cons, List.map_nil, Text.join]
    rfl
  rw [Template.pathSteps, hpath, List.drop_left, Text.splitOn_join (by simp) hdots]
  simp

theorem dot_not_mem_varName {name : String} (h : '.' ∉ name.toList) : '.' ∉ (varName name).toList := by
  rw [varName, String.toList_ofList, List.mem_map]
  rintro ⟨c, hc, hdot⟩
  split at hdot
  · exact absurd hdot (by decide)
  · exact h (hdot ▸ hc)

theorem valueAt_moved (hlower : ∀ g ∈ m.groups, Text.lower g.name.toList = g.name.toList)
    (hv : values m s = .ok v) {key : List String} (hkey : key ∈ movedKeys) :
    v.valueAt (".Values.sizing." ++ ".".intercalate key) = .missing := by
  have hsteps : ∀ key ∈ movedKeys,
      Template.pathSteps (".Values.sizing." ++ ".".intercalate key) = "sizing" :: key := by
    decide
  rw [Node.valueAt, hsteps key hkey, get?_moved hlower hv key hkey]
  rfl

/-- A release finds the least number of replicas for a group without dots in its name. -/
theorem valueAt_countPath (hv : values m s = .ok v) (hg : g ∈ m.groups) (hmanaged : g.isManaged = true)
    (hdots : '.' ∉ g.name.toList) : v.valueAt (countPath g.varName) = .number g.run.scaling.min := by
  have hsteps : Template.pathSteps (countPath g.varName) = ["sizing", g.varName, "count"] :=
    pathSteps_countPath (dot_not_mem_varName hdots)
  rw [Node.valueAt, hsteps, get?_sizing_count hv hg, if_pos hmanaged]
  simp

theorem valueAt_haSwitch (hv : values m s = .ok v) : v.valueAt ".Values.config.HA" = .flag false := by
  have hsteps : Template.pathSteps ".Values.config.HA" = ["config", "HA"] := by decide
  obtain ⟨environment, cluster, secrets, sizes, -, -, -, -, rfl⟩ := values_ok hv
  rw [Node.valueAt, hsteps]
  simp [configuration]
  rfl

end Chart

/-! ## Guards of a controller -/

namespace Group

variable {m : Manifest} {s : Settings} {g : Group} {r : GroupResources} {v : Node}

/-- Every controller opens with its guards. -/
theorem mapping?_controller (h : g.resources m s = .ok (some r)) : ∃ apiVersion kind name withReplicas spec,
    r.controller.mapping? = some (g.controllerHead s apiVersion kind name withReplicas
      ++ [("spec", .entries spec)]) ∧ (withReplicas = true ↔ r.workload ≠ .job) := by
  by_cases hw : r.workload = .job
  · have hworkload : g.workload? = some .job := by rw [← workload_resources h, Option.map_some, hw]
    unfold resources at h
    rw [hworkload] at h
    obtain ⟨r', hr, h⟩ := map_eq_ok_iff.1 h
    obtain rfl := Option.some.inj h
    obtain ⟨policy, -, hr⟩ := bind_eq_ok_iff.1 hr
    obtain ⟨template, -, hr⟩ := bind_eq_ok_iff.1 hr
    obtain ⟨restarting, -, hr⟩ := bind_eq_ok_iff.1 hr
    obtain rfl := pure_eq_ok_iff.1 hr
    exact ⟨"batch/v1", "Job", g.jobName s, false, _, rfl, by simp⟩
  · obtain ⟨apiVersion, kind, spec, audiences, hcontroller, -⟩ := scales_resources h hw
    refine ⟨apiVersion, kind, g.name, true, spec, ?_, by simp [hw]⟩
    rw [hcontroller, mapping?_gate]
    rfl

/-- Where the guards of some names stand in a controller. -/
theorem filter_controller (hs : s.chart = true) (h : g.resources m s = .ok (some r)) :
    ∃ withReplicas, (withReplicas = true ↔ r.workload ≠ .job) ∧ ∀ names : List String,
      (∀ name ∈ ["apiVersion", "kind", "metadata", "spec"], name ∉ names) →
      ((r.controller.mapping?.getD []).filter fun entry => names.contains entry.1).map Prod.snd
        = ((g.guards withReplicas).filter fun guard => names.contains guard.name).map (·.entry.2) := by
  obtain ⟨apiVersion, kind, name, withReplicas, spec, hcontroller, hreplicas⟩ := mapping?_controller h
  refine ⟨withReplicas, hreplicas, fun names hnames => ?_⟩
  rw [hcontroller, Option.getD_some]
  exact filter_controllerHead hs apiVersion kind name withReplicas spec hnames

/-- Every controller has all guards on moved keys. -/
theorem movedChecks_eq (hs : s.chart = true) (h : g.resources m s = .ok (some r)) :
    r.movedChecks = movedGuards.map (·.entry.2) := by
  obtain ⟨withReplicas, -, hfilter⟩ := filter_controller hs h
  have hapart : ∀ name ∈ "_hostpathAvailable" :: replicaGuardNames, name ∉ movedGuards.map (·.name) := by
    decide
  have hreplicas : (if withReplicas then g.replicaGuards else []).filter
      (fun guard => (movedGuards.map (·.name)).contains guard.name) = [] := by
    refine List.filter_eq_nil_iff.2 fun guard hguard => ?_
    rw [List.contains_iff_mem]
    split at hguard
    · exact hapart _ (List.mem_cons_of_mem _ (List.contains_iff_mem.1 (name_mem_replicaGuardNames hguard)))
    · cases hguard
  have hhost : g.hostPathGuards.filter (fun guard => (movedGuards.map (·.name)).contains guard.name) = [] :=
    filter_hostPathGuards (hapart _ List.mem_cons_self)
  have hmoved : movedGuards.filter (fun guard => (movedGuards.map (·.name)).contains guard.name)
      = movedGuards := rfl
  rw [GroupResources.movedChecks, hfilter _ (by decide), guards, List.filter_append, List.filter_append,
    hreplicas, hmoved, hhost, List.nil_append, List.append_nil]

/-- A job has no guards on the number of replicas. -/
theorem replicaChecks_of_job (hs : s.chart = true) (h : g.resources m s = .ok (some r))
    (hw : r.workload = .job) : r.replicaChecks = [] := by
  obtain ⟨withReplicas, hreplicas, hfilter⟩ := filter_controller hs h
  obtain rfl : withReplicas = false := Bool.eq_false_iff.2 fun htrue => hreplicas.1 htrue hw
  rw [GroupResources.replicaChecks, hfilter _ (by decide), filter_guards]
  rfl

/-- A moved key has no value in a fresh chart, so no guard on one fails. -/
theorem anyM_movedChecks (hs : s.chart = true) (h : g.resources m s = .ok (some r))
    (hlower : ∀ g ∈ m.groups, Text.lower g.name.toList = g.name.toList) (hv : Chart.values m s = .ok v) :
    r.movedChecks.anyM (fails? (v.valuesAt movedPaths)) = some false := by
  rw [movedChecks_eq hs h]
  refine anyM_eq_false (List.forall_mem_map.2 (List.forall_mem_map.2 fun key hkey => ?_))
  have hmem : ∀ path ∈ (key.dropLast ++ [".".intercalate key]).map (".Values.sizing." ++ ·),
      path ∈ movedPaths := fun path hpath => List.mem_flatMap.2 ⟨key, hkey, hpath⟩
  rw [List.map_append, List.map_singleton] at hmem
  have hstands := stands?_of_missing legible_movedPaths hmem (Chart.valueAt_moved hlower hv hkey)
  have hconditions : (movedGuard key).conditions.map ifBlock
      = (key.dropLast.map (".Values.sizing." ++ ·) ++ [".Values.sizing." ++ ".".intercalate key]).map
        fun path => ifBlock (.path path) := by
    simp only [movedGuard, List.map_append, List.map_map, List.map_singleton, Function.comp_def]
  rw [fails?, Guard.blocks_entry, hconditions, hstands]
  rfl

/-! ## Replicas -/

/-- The paths that the guards on the number of replicas look up. -/
def replicaPaths (g : Group) : List String := [countPath g.varName, ".Values.config.HA"]

theorem countPath_mem_replicaPaths (g : Group) : countPath g.varName ∈ g.replicaPaths := List.mem_cons_self

theorem haSwitch_mem_replicaPaths (g : Group) : ".Values.config.HA" ∈ g.replicaPaths :=
  List.mem_cons_of_mem _ List.mem_cons_self

/-- The guards on the number of replicas look up nothing but the number, as a whole one, and the switch for high
availability. -/
theorem condition_of_mem_replicaGuards {values values' : Values} {guard : Guard} (h : guard ∈ g.replicaGuards)
    (hcount : g.replicaCount.eval? values = g.replicaCount.eval? values')
    (hswitch : haSwitch.eval? values = haSwitch.eval? values') :
    ∃ t, guard.conditions = [t] ∧ t.Readable g.replicaPaths ∧ t.eval? values = t.eval? values' := by
  have hreadCount : g.replicaCount.Readable g.replicaPaths := g.countPath_mem_replicaPaths
  have hreadSwitch : haSwitch.Readable g.replicaPaths := g.haSwitch_mem_replicaPaths
  simp only [replicaGuards, List.mem_append, List.mem_singleton] at h
  rcases h with ((h | h) | rfl) | h
  · split at h
    · cases h
    · obtain rfl := List.mem_singleton.1 h
      exact ⟨_, rfl, ⟨hreadCount, trivial⟩, by simp only [Term.eval?_lt, hcount, Term.eval?_number]⟩
  · split at h
    · cases h
    · obtain rfl := List.mem_singleton.1 h
      refine ⟨_, rfl, ⟨hreadSwitch, ⟨hreadCount, trivial⟩, hreadCount, trivial⟩, ?_⟩
      simp only [Term.eval?_and, Term.eval?_ne, Term.eval?_lt, hcount, hswitch, Term.eval?_number]
  · exact ⟨_, rfl, ⟨hreadCount, trivial⟩, by simp only [Term.eval?_gt, hcount, Term.eval?_number]⟩
  · split at h
    · obtain rfl := List.mem_singleton.1 h
      refine ⟨_, rfl, ⟨⟨hreadCount, trivial⟩, trivial⟩, ?_⟩
      simp only [Term.eval?_eq, Term.eval?_mod, hcount, Term.eval?_number]
    · cases h

/-- With the number of replicas that the values have, the guards refuse what they should. -/
theorem anyM_replicaGuards (hv : Chart.values m s = .ok v) {n : Int}
    (hn : (v.valueAt (countPath g.varName)).toInt? = some n) :
    ∃ b, (g.replicaGuards.map (·.entry.2)).anyM (fails? (v.valuesAt g.replicaPaths)) = some b ∧
      (b = true ↔ g.run.scaling.Refuses n false) := by
  obtain ⟨b, hb, hiff⟩ := failJust_replicaGuards g n false
  refine ⟨b, (anyM_congr (List.forall_mem_map.2 fun guard hguard => ?_)).trans hb, hiff⟩
  have hlegible : Legible g.replicaPaths := g.legible_sizedValues n false
  have hcount : g.replicaCount.eval? (v.valuesAt g.replicaPaths)
      = g.replicaCount.eval? (g.sizedValues n false) := by
    rw [eval?_replicaCount, replicaCount, Term.eval?_int, Term.eval?_path,
      v.lookup_valuesAt g.countPath_mem_replicaPaths, Option.bind_some, hn]
    rfl
  have hswitch : haSwitch.eval? (v.valuesAt g.replicaPaths) = haSwitch.eval? (g.sizedValues n false) := by
    rw [eval?_haSwitch, haSwitch, Term.eval?_path, v.lookup_valuesAt g.haSwitch_mem_replicaPaths,
      Chart.valueAt_haSwitch hv]
  obtain ⟨t, hconditions, hread, heval⟩ := condition_of_mem_replicaGuards hguard hcount hswitch
  rw [fails?_of_condition (v.paths_valuesAt _) hlegible hconditions hread,
    fails?_of_condition (rfl : (g.sizedValues n false).map Prod.fst = g.replicaPaths) hlegible hconditions
      hread, heval]

end Group

/-- Whether the least number of replicas keeps the bounds. -/
structure Scaling.Orderly (bounds : Scaling) : Prop where
  most : bounds.min ≤ bounds.max
  odd : bounds.mustBeOdd = true → bounds.min % 2 = 1

theorem Scaling.Orderly.not_refuses {bounds : Scaling} (h : bounds.Orderly) :
    ¬ bounds.Refuses bounds.min false := by
  have hmost := h.most
  rintro (⟨-, hleast⟩ | hmore | ⟨hodd, heven⟩ | ⟨hswitch, -⟩)
  · omega
  · omega
  · have := h.odd hodd
    omega
  · cases hswitch

theorem Group.kind_of_workload {m : Manifest} {s : Settings} {g : Group} {r : GroupResources}
    (h : g.resources m s = .ok (some r)) (hw : r.workload ≠ .job) : g.kind = .service := by
  have hworkload := workload_resources h
  rw [Option.map_some, workload?] at hworkload
  split at hworkload
  · cases hworkload
  · exact absurd (Option.some.inj hworkload) hw
  · assumption

variable {m : Manifest} {s : Settings}

/-- The guards of a chart that is released with its own values. No guard on a moved key fails, also where a
group has the name of the first step of one. A job has no other guards on values of its own. For any other group
a guard on the number of replicas fails exactly if the number that is found at the path of the group, or zero
where there is nothing, breaks the declared bounds. Without dots in its name the group finds the least number,
and no guard fails. -/
theorem fresh_checks {out : List OutputFile} (h : outputFiles m s = .ok out) (hs : s.chart = true)
    (hlower : ∀ g ∈ m.groups, Text.lower g.name.toList = g.name.toList)
    (hbounds : ∀ g ∈ m.groups, g.kind = .service → g.run.scaling.Orderly) :
    ∃ v, Chart.values m s = .ok v ∧ ∀ g ∈ m.groups, ∀ r, g.resources m s = .ok (some r) →
      r.movedChecks.anyM (fails? (v.valuesAt movedPaths)) = some false ∧
      (r.workload = .job → r.replicaChecks = []) ∧
      (r.workload ≠ .job → ∀ n, (v.valueAt (countPath g.varName)).toInt? = some n →
        ∃ b, r.replicaChecks.anyM (fails? (v.valuesAt g.replicaPaths)) = some b ∧
          (b = true ↔ g.run.scaling.Refuses n false)) ∧
      ('.' ∉ g.name.toList → r.replicaChecks.anyM (fails? (v.valuesAt g.replicaPaths)) = some false) := by
  obtain ⟨_, v, -, hv⟩ := Chart.outputFiles_ok hs h
  refine ⟨v, hv, fun g hg r hr => ?_⟩
  have hservice (hw : r.workload ≠ .job) (n : Int) (hn : (v.valueAt (countPath g.varName)).toInt? = some n) :
      ∃ b, r.replicaChecks.anyM (fails? (v.valuesAt g.replicaPaths)) = some b ∧
        (b = true ↔ g.run.scaling.Refuses n false) := by
    rw [Group.replicaChecks_eq hs (Group.scales_resources hr hw)]
    exact Group.anyM_replicaGuards hv hn
  refine ⟨Group.anyM_movedChecks hs hr hlower hv, Group.replicaChecks_of_job hs hr, hservice, fun hdots => ?_⟩
  by_cases hw : r.workload = .job
  · rw [Group.replicaChecks_of_job hs hr hw]
    rfl
  · have hkind := Group.kind_of_workload hr hw
    have hmanaged : g.isManaged = true := by rw [Group.isManaged, hkind]; rfl
    have hcount := Chart.valueAt_countPath hv hg hmanaged hdots
    obtain ⟨b, hb, hiff⟩ := hservice hw g.run.scaling.min (by rw [hcount]; rfl)
    have hpasses : b = false := Bool.eq_false_iff.2 fun htrue => (hbounds g hg hkind).not_refuses (hiff.1 htrue)
    rw [hb, hpasses]

/-- A service with the name of a moved key's first step. -/
def cpuGroup : Group where
  name := "cpu"

/-- A service with a dot in its name. -/
def dottedGroup : Group where
  name := "log.api"

/-- A manifest with both services. -/
def dottedManifest : Manifest where
  groups := [cpuGroup, dottedGroup]

theorem bare_of_mem_dotted : ∀ g ∈ dottedManifest.groups, g.Bare := by
  rw [dottedManifest, List.forall_mem_cons, List.forall_mem_singleton]
  exact ⟨Group.bare_named _, Group.bare_named _⟩

theorem apart_dotted : dottedManifest.Apart { chart := true } :=
  ⟨by decide, fun _ => ⟨by decide, by decide, by decide, by decide, by decide, by decide⟩⟩

theorem valueAt_dotted {v : Node} (hv : Chart.values dottedManifest { chart := true } = .ok v) :
    v.valueAt (countPath dottedGroup.varName) = .missing := by
  have hsteps : Template.pathSteps (countPath dottedGroup.varName) = ["sizing", "log", "api", "count"] := by
    decide
  obtain ⟨environment, cluster, secrets, sizes, -, -, -, hsizes, rfl⟩ := Chart.values_ok hv
  have hnames : ∀ g ∈ dottedManifest.groups, g.varName ≠ "log" := by decide
  have hnone : Mapping.lookup? sizes "log" = none := by
    cases hfound : Mapping.lookup? sizes "log" with
    | none => rfl
    | some node =>
      obtain ⟨g, hg, hname, -⟩ := Chart.exists_of_lookup?_sizing hsizes hfound
      exact absurd hname (hnames g hg)
  rw [Node.valueAt, hsteps]
  simp [hnone]

/-- The service with the name of a key passes, and the one with a dot finds no number and is refused. -/
theorem fresh_checks_dotted : ∃ out v, outputFiles dottedManifest { chart := true } = .ok out ∧
    (∀ g ∈ dottedManifest.groups, Text.lower g.name.toList = g.name.toList ∧ g.run.scaling.Orderly) ∧
    Chart.values dottedManifest { chart := true } = .ok v ∧
    (∃ r, cpuGroup.resources dottedManifest { chart := true } = .ok (some r) ∧
      r.movedChecks.anyM (fails? (v.valuesAt movedPaths)) = some false ∧
      r.replicaChecks.anyM (fails? (v.valuesAt cpuGroup.replicaPaths)) = some false) ∧
    ∃ r, dottedGroup.resources dottedManifest { chart := true } = .ok (some r) ∧
      r.replicaChecks.anyM (fails? (v.valuesAt dottedGroup.replicaPaths)) = some true := by
  have hbare := bare_of_mem_dotted
  obtain ⟨out, hout⟩ := exists_outputFiles_of_bare (s := { chart := true }) hbare ⟨_, rfl⟩ apart_dotted
  have hlower : ∀ g ∈ dottedManifest.groups, Text.lower g.name.toList = g.name.toList := by decide +kernel
  have hbounds : ∀ g ∈ dottedManifest.groups, g.run.scaling.Orderly := by
    simp only [dottedManifest, List.forall_mem_cons, List.not_mem_nil, false_imp_iff, implies_true, and_true]
    exact ⟨⟨by decide, nofun⟩, ⟨by decide, nofun⟩⟩
  have hcpu : cpuGroup ∈ dottedManifest.groups := List.mem_cons_self
  have hdotted : dottedGroup ∈ dottedManifest.groups := List.mem_cons_of_mem _ List.mem_cons_self
  obtain ⟨v, hv, hchecks⟩ := fresh_checks hout rfl hlower fun g hg _ => hbounds g hg
  obtain ⟨r, hr, -⟩ := (hbare _ hcpu).exists_resources (s := { chart := true }) dottedManifest ⟨_, rfl⟩
  obtain ⟨r', hr', hw⟩ := (hbare _ hdotted).exists_resources (s := { chart := true }) dottedManifest ⟨_, rfl⟩
  obtain ⟨hmoved, -, -, hreplicas⟩ := hchecks _ hcpu r hr
  obtain ⟨b, hb, hiff⟩ := (hchecks _ hdotted r' hr').2.2.1 hw 0 (by rw [valueAt_dotted hv]; rfl)
  have hrefused : dottedGroup.run.scaling.Refuses 0 false := .inl ⟨by decide, by decide⟩
  exact ⟨out, v, hout, fun g hg => ⟨hlower g hg, hbounds g hg⟩, hv, ⟨r, hr, hmoved, hreplicas (by decide)⟩,
    r', hr', hb.trans (congrArg some (hiff.2 hrefused))⟩

end RoleChart
