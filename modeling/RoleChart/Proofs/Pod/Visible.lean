import Mathlib.Data.List.Forall2
import Mathlib.Data.List.Sort
import RoleChart.Proofs.Pod.Environment

/-!
# What a container sees

The environment of a container has an entry for each declared variable that a job of the group refers to, in the order
of their names. A variable that is internal has none, nor has, outside of a chart, one that nothing gives a value. What
can go wrong is a number of replicas of a group that is not there.

## Main statements

* `sizingTarget?_eq_some_iff` — which names are those of numbers of replicas
* `envEntry_ok`, `envEntry_eq_error_iff` — which variables have an entry, and which cannot have one
* `environment_complete` — what the environment of a container lists, and when there is none
-/

namespace RoleChart

open RoleChart.Document RoleChart.Built

/-- Names in ascending order that are those of a list are its sorted union. -/
theorem sortedUnion_eq {names sorted : List String} (h : sorted.Pairwise (· < ·))
    (hmem : ∀ name, name ∈ names ↔ name ∈ sorted) : sortedUnion names = sorted :=
  (pairwise_sortedUnion names).eq_of_mem_iff h fun name => (mem_sortedUnion names name).trans (hmem name)

/-! ## Lists of results -/

namespace Built

variable {ε α β : Type}

/-- Arguments and results go in pairs. -/
theorem forall₂_of_mapM {f : α → Except ε β} {xs : List α} {ys : List β} (h : xs.mapM f = .ok ys) :
    List.Forall₂ (fun x y => f x = .ok y) xs ys := by
  induction xs generalizing ys with
  | nil => exact mapM_nil_eq_ok_iff.1 h ▸ .nil
  | cons x xs ih =>
    obtain ⟨y, rest, hy, hrest, rfl⟩ := mapM_cons_eq_ok_iff.1 h
    exact .cons hy (ih hrest)

/-- Of pairs with a result, those stay that have a member in it. -/
theorem forall₂_filter_filterMap {R : α → Option β → Prop} {p : α → Prop} [DecidablePred p]
    (hp : ∀ a b, R a b → (b.isSome = true ↔ p a)) {as : List α} {bs : List (Option β)}
    (h : List.Forall₂ R as bs) :
    List.Forall₂ (fun a b => R a (some b)) (as.filter fun a => p a) (bs.filterMap id) := by
  induction h with
  | nil => exact .nil
  | @cons a b as bs hab _ ih =>
    by_cases hpa : p a
    · obtain ⟨b, rfl⟩ := Option.isSome_iff_exists.1 ((hp a b hab).2 hpa)
      rw [List.filter_cons_of_pos (by simpa using hpa)]
      exact .cons hab ih
    · obtain rfl : b = none := by
        rw [← Option.not_isSome_iff_eq_none, hp a b hab]
        exact hpa
      rw [List.filter_cons_of_neg (by simpa using hpa)]
      exact ih

end Built

namespace Pod

variable {m : Manifest} {s : Settings} {g : Group}

/-! ## Numbers of replicas -/

/-- Whether a name is that of the number of replicas of a target. -/
def CountsOf (name target : String) : Prop :=
  target ≠ "" ∧ name = "KUBE_SIZING_" ++ target ++ "_COUNT"

theorem sizingTarget?_eq_some_iff {name target : String} :
    sizingTarget? name = some target ↔ CountsOf name target := by
  have hname : name = "KUBE_SIZING_" ++ target ++ "_COUNT" ↔
      name.toList = "KUBE_SIZING_".toList ++ (target.toList ++ "_COUNT".toList) := by
    rw [← String.toList_inj, String.toList_append, String.toList_append, List.append_assoc]
  have hempty : target ≠ "" ↔ target.toList.isEmpty = false := by
    rw [ne_eq, ← String.toList_inj, List.isEmpty_eq_false_iff]
    rfl
  rw [CountsOf, hname, hempty, sizingTarget?]
  simp only [Option.bind_eq_some_iff, Text.dropPrefix?_eq_some_iff, Text.dropSuffix?_eq_some_iff]
  constructor
  · rintro ⟨rest, hrest, chars, rfl, h⟩
    split at h
    · cases h
    · next hchars =>
      obtain rfl := Option.some.inj h
      rw [String.toList_ofList]
      exact ⟨by simpa using hchars, hrest⟩
  · rintro ⟨hchars, h⟩
    refine ⟨_, h, target.toList, rfl, ?_⟩
    rw [hchars, String.ofList_toList]
    rfl

/-- Whether a variable is for the number of replicas of a target that no group is. -/
def Unsized (m : Manifest) (v : Variable) (target : String) : Prop :=
  CountsOf v.name target ∧ ∀ g ∈ m.groups, String.ofList (Text.upper g.varName.toList) ≠ target

theorem groupByEnvName?_eq_none_iff {target : String} :
    m.groupByEnvName? target = none ↔ ∀ g ∈ m.groups, String.ofList (Text.upper g.varName.toList) ≠ target := by
  simp only [Manifest.groupByEnvName?, List.find?_eq_none, beq_iff_eq, ne_eq]

/-! ## Entries -/

/-- Whether a variable has an entry. In a chart each one has. Outside of it there must be something to stand in the
entry: a number of replicas, a reference to a secret, or a value of the defaults or of the declaration. -/
def HasEntry (s : Settings) (v : Variable) : Prop :=
  s.chart = true ∨ (∃ target, CountsOf v.name target) ∨ v.secret = true ∨ (s.default? v.name).isSome = true
    ∨ v.defaultText?.isSome = true

/-- What the entry of a variable holds: its name and, outside of a chart, if it is neither a number of replicas nor a
secret, the value that the defaults have for it or else that of its declaration. -/
structure EntryOf (s : Settings) (v : Variable) (entry : Node) : Prop where
  name : entry.get? ["name"] = some (.string v.name)
  value : s.chart = false → v.secret = false → (∀ target, ¬ CountsOf v.name target) →
    ∃ text, (s.default? v.name).or v.defaultText? = some text ∧ entry.get? ["value"] = some (.literal text)

theorem get?_name_envValue (name : String) (value : Node) :
    (envValue name value).get? ["name"] = some (.string name) := by
  simp [envValue]

theorem not_countsOf {name : String} (h : sizingTarget? name = none) (target : String) : ¬ CountsOf name target :=
  fun hcounts => by cases (sizingTarget?_eq_some_iff.2 hcounts).symm.trans h

/-- A variable that the environment can hold has an entry there if it should. -/
theorem envEntry_ok {v : Variable} {found : Option Node} (h : envEntry m s v = .ok found) :
    (found.isSome = true ↔ HasEntry s v) ∧ ∀ entry ∈ found, EntryOf s v entry := by
  have hcases := envEntry_cases m s v
  rw [h] at hcases
  cases hcases with
  | @sized target counted htarget =>
    have hcounts := sizingTarget?_eq_some_iff.1 htarget
    refine ⟨iff_of_true rfl (.inr (.inl ⟨target, hcounts⟩)), ?_⟩
    rintro entry ⟨⟩
    exact ⟨get?_name_envValue _ _, fun _ _ hno => absurd hcounts (hno target)⟩
  | secret _ hsecret =>
    refine ⟨iff_of_true rfl (.inr (.inr (.inl hsecret))), ?_⟩
    rintro entry ⟨⟩
    exact ⟨by simp [envSecret], fun _ hpublic => by cases hpublic.symm.trans hsecret⟩
  | chart _ _ hchart =>
    refine ⟨iff_of_true rfl (.inl hchart), ?_⟩
    rintro entry ⟨⟩
    exact ⟨get?_name_envValue _ _, fun hplain => by cases hplain.symm.trans hchart⟩
  | plain hcount hsecret hchart =>
    refine ⟨?_, fun entry hentry => ?_⟩
    · simp [HasEntry, hchart, hsecret, not_countsOf hcount, Variable.plainText?]
    · obtain ⟨text, htext, rfl⟩ := Option.map_eq_some_iff.1 hentry
      exact ⟨get?_name_envValue _ _, fun _ _ _ => ⟨text, htext, by simp [envValue]⟩⟩

/-- The entry of a variable cannot be made just where it counts the replicas of no group. -/
theorem envEntry_eq_error_iff {v : Variable} {e : Fault} :
    envEntry m s v = .error e ↔ ∃ target, Unsized m v target ∧ e = .unknownSizingGroup v.name target := by
  constructor
  · intro h
    have hcases := envEntry_cases m s v
    rw [h] at hcases
    cases hcases with
    | @unsized target htarget hnone =>
      exact ⟨target, ⟨sizingTarget?_eq_some_iff.1 htarget, groupByEnvName?_eq_none_iff.1 hnone⟩, rfl⟩
  · rintro ⟨target, ⟨hcounts, hno⟩, rfl⟩
    have hnone := groupByEnvName?_eq_none_iff.2 hno
    rw [envEntry, sizingTarget?_eq_some_iff.2 hcounts]
    simp only [hnone]
    rfl

/-! ## Environments -/

/-- Whether a group sees a variable: one of its jobs refers to it, the manifest declares no other one of this name in
front of it, and it is not internal. -/
def Sees (m : Manifest) (g : Group) (v : Variable) : Prop :=
  (∃ job ∈ g.jobs, v.name ∈ job.references) ∧ m.declared? v.name = some v ∧ v.internal = false

theorem mem_variablesOf_iff {v : Variable} :
    v ∈ m.variablesOf g ↔ (∃ job ∈ g.jobs, v.name ∈ job.references) ∧ m.declared? v.name = some v := by
  have hname : v.name ∈ g.variableNames ↔ ∃ job ∈ g.jobs, v.name ∈ job.references := by
    rw [Group.variableNames, mem_sortedUnion, List.mem_flatMap]
  rw [← hname]
  constructor
  · intro h
    have hdeclared := declared?_of_mem_variablesOf h
    obtain ⟨name, hmem, hv⟩ := List.mem_filterMap.1 h
    exact ⟨name_of_declared? hv ▸ hmem, hdeclared⟩
  · rintro ⟨hmem, hdeclared⟩
    exact List.mem_filterMap.2 ⟨v.name, hmem, hdeclared⟩

theorem mem_visible_iff {v : Variable} : v ∈ (m.variablesOf g).filter (!·.internal) ↔ Sees m g v := by
  rw [List.mem_filter, mem_variablesOf_iff, and_assoc, Bool.not_eq_true']
  rfl

/-- The variables of a group stand in the order of their names, and no name stands twice. -/
theorem pairwise_variablesOf (m : Manifest) (g : Group) :
    (m.variablesOf g).Pairwise fun v w => v.name < w.name := by
  rw [Manifest.variablesOf, List.pairwise_filterMap]
  refine (pairwise_sortedUnion _).imp fun {a b} hab v hv w hw => ?_
  rwa [name_of_declared? hv, name_of_declared? hw]

/-- The fault of an environment names a variable that the group sees. -/
theorem exists_of_environment_eq_error {e : Fault} (h : environment m s g = .error e) :
    ∃ v target, Sees m g v ∧ Unsized m v target ∧ e = .unknownSizingGroup v.name target := by
  rcases bind_eq_error_iff.1 h with h | ⟨_, -, h⟩
  · obtain ⟨v, hv, hentry⟩ := exists_of_mapM_eq_error h
    obtain ⟨target, hunsized, he⟩ := envEntry_eq_error_iff.1 hentry
    exact ⟨v, target, mem_visible_iff.1 hv, hunsized, he⟩
  · cases h

/-- An environment holds no variable that counts the replicas of no group. -/
theorem not_unsized_of_environment {env : List Node} (h : environment m s g = .ok env) {v : Variable}
    (hv : Sees m g v) (target : String) : ¬ Unsized m v target := by
  intro hunsized
  obtain ⟨found, hfound, -⟩ := bind_eq_ok_iff.1 h
  obtain ⟨_, -, hok⟩ := exists_mem_of_mapM hfound (mem_visible_iff.2 hv)
  cases (envEntry_eq_error_iff.2 ⟨target, hunsized, rfl⟩).symm.trans hok

/-- The environment of a container lists the variables that its group sees and that have an entry, in ascending order
of their names and each once, and the namespace behind them. There is none just when the group sees a variable that
counts the replicas of a target that no group is, and the fault names such a variable and its target. -/
theorem environment_complete (m : Manifest) (s : Settings) (g : Group) :
    (∀ env, environment m s g = .ok env → ∃ vs entries,
      env = entries ++ [namespaceEntry]
      ∧ namespaceEntry.get? ["name"] = some (.string "KUBERNETES_NAMESPACE")
      ∧ (vs.map (·.name)).Pairwise (· < ·)
      ∧ (∀ v, v ∈ vs ↔ Sees m g v ∧ HasEntry s v)
      ∧ List.Forall₂ (EntryOf s) vs entries)
    ∧ ((∃ e, environment m s g = .error e) ↔ ∃ v target, Sees m g v ∧ Unsized m v target)
    ∧ ∀ e, environment m s g = .error e →
        ∃ v target, Sees m g v ∧ Unsized m v target ∧ e = .unknownSizingGroup v.name target := by
  classical
  refine ⟨fun env h => ?_, ⟨fun ⟨e, h⟩ => ?_, ?_⟩, fun e => exists_of_environment_eq_error⟩
  · obtain ⟨found, hfound, h⟩ := bind_eq_ok_iff.1 h
    obtain rfl := pure_eq_ok_iff.1 h
    have hpairs := forall₂_filter_filterMap (p := HasEntry s) (fun _ _ hv => (envEntry_ok hv).1)
      (forall₂_of_mapM hfound)
    refine ⟨_, found.filterMap id, rfl, by simp [namespaceEntry], ?_, fun v => ?_,
      hpairs.imp fun _ entry hv => (envEntry_ok hv).2 entry rfl⟩
    · exact List.pairwise_map.2 (((pairwise_variablesOf m g).filter _).filter _)
    · rw [List.mem_filter, mem_visible_iff, decide_eq_true_eq]
  · obtain ⟨v, target, hv, hunsized, -⟩ := exists_of_environment_eq_error h
    exact ⟨v, target, hv, hunsized⟩
  · rintro ⟨v, target, hv, hunsized⟩
    cases h : environment m s g with
    | error e => exact ⟨e, rfl⟩
    | ok env => exact absurd hunsized (not_unsized_of_environment h hv target)

/-! ## Two jobs -/

/-- A group with two jobs. They refer to some variables twice and to one that is not declared. -/
def twoJobsGroup : Group where
  name := "api"
  run := { scaling := { min := 3 } }
  jobs := [{ name := "api", references := ["TZ", "KUBE_SIZING_API_COUNT", "DB_PASSWORD", "PAGER"] },
    { name := "log", references := ["LOG_LEVEL", "TZ", "DEBUG", "HOST"] }]

/-- A manifest of groups with the variables of these jobs. Of the last name the first declaration counts. -/
def twoJobsManifest (groups : List Group) : Manifest where
  groups := groups
  declarations := [passwordVariable, { name := "DEBUG", internal := true }, { name := "HOST" },
    { name := "KUBE_SIZING_API_COUNT" }, { name := "LOG_LEVEL", default := some (.string "info") },
    { name := "TZ", default := some (.string "UTC") }, { name := "TZ", internal := true }]

/-- Settings with a value for one of the variables. -/
def twoJobsSettings : Settings where
  defaults := [("LOG_LEVEL", "debug")]

theorem visible_twoJobs (groups : List Group) :
    ((twoJobsManifest groups).variablesOf twoJobsGroup).filter (!·.internal)
      = [passwordVariable, { name := "HOST" }, { name := "KUBE_SIZING_API_COUNT" },
        { name := "LOG_LEVEL", default := some (.string "info") },
        { name := "TZ", default := some (.string "UTC") }] := by
  have hnames : twoJobsGroup.variableNames
      = ["DB_PASSWORD", "DEBUG", "HOST", "KUBE_SIZING_API_COUNT", "LOG_LEVEL", "PAGER", "TZ"] := by
    refine sortedUnion_eq (by decide) fun name => ?_
    simp only [twoJobsGroup, List.flatMap_cons, List.flatMap_nil, List.mem_cons, List.mem_append, List.not_mem_nil]
    grind
  rw [Manifest.variablesOf, hnames]
  rfl

theorem environment_twoJobs :
    environment (twoJobsManifest [twoJobsGroup]) twoJobsSettings twoJobsGroup
      = .ok [envSecret twoJobsSettings passwordVariable,
        envValue "KUBE_SIZING_API_COUNT" (.string (Template.digits 3)), envValue "LOG_LEVEL" (.literal "debug"),
        envValue "TZ" (.literal "UTC"), namespaceEntry] := by
  have htarget : sizingTarget? "KUBE_SIZING_API_COUNT" = some "API" := by decide
  have hgroup : (twoJobsManifest [twoJobsGroup]).groupByEnvName? "API" = some twoJobsGroup := by
    have hupper : Text.upper twoJobsGroup.varName.toList = "API".toList := by
      rw [Text.upper_of_ascii _ (by decide)]
      decide
    rw [Manifest.groupByEnvName?, twoJobsManifest, List.find?_cons_of_pos]
    rw [hupper]
    rfl
  have hcount : envEntry (twoJobsManifest [twoJobsGroup]) twoJobsSettings { name := "KUBE_SIZING_API_COUNT" }
      = .ok (some (envValue "KUBE_SIZING_API_COUNT" (.string (Template.digits 3)))) := by
    unfold envEntry
    rw [htarget]
    simp only [hgroup]
    rfl
  rw [environment, visible_twoJobs]
  simp only [List.mapM_cons, hcount]
  rfl

theorem environment_twoJobs_alone :
    environment (twoJobsManifest []) twoJobsSettings twoJobsGroup
      = .error (.unknownSizingGroup "KUBE_SIZING_API_COUNT" "API") := by
  rw [environment, visible_twoJobs]
  rfl

theorem environment_complete_twoJobs :
    (∃ env, environment (twoJobsManifest [twoJobsGroup]) twoJobsSettings twoJobsGroup = .ok env ∧
      ∃ vs entries, env = entries ++ [namespaceEntry]
        ∧ namespaceEntry.get? ["name"] = some (.string "KUBERNETES_NAMESPACE")
        ∧ (vs.map (·.name)).Pairwise (· < ·)
        ∧ (∀ v, v ∈ vs ↔ Sees (twoJobsManifest [twoJobsGroup]) twoJobsGroup v ∧ HasEntry twoJobsSettings v)
        ∧ List.Forall₂ (EntryOf twoJobsSettings) vs entries)
    ∧ ∃ e, environment (twoJobsManifest []) twoJobsSettings twoJobsGroup = .error e ∧
        ∃ v target, Sees (twoJobsManifest []) twoJobsGroup v ∧ Unsized (twoJobsManifest []) v target
          ∧ e = .unknownSizingGroup v.name target :=
  ⟨⟨_, environment_twoJobs, (environment_complete _ _ _).1 _ environment_twoJobs⟩,
    _, environment_twoJobs_alone, (environment_complete _ _ _).2.2 _ environment_twoJobs_alone⟩

end Pod

end RoleChart
