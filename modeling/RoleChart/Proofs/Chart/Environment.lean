import RoleChart.Proofs.Chart.Values
import RoleChart.Proofs.Pod.Environment
import RoleChart.Proofs.Template.Paths
import RoleChart.Proofs.Yaml.PlainText

/-!
# Environments and the values of a chart

In a chart, a container takes its variables from the values of a release. A variable that must be given
makes the release fail without a value. Every other one is looked up as it is, so the document with the
values has to have an entry for it.

## Main statements

* `environment_supplied_iff` — for which variables the values answer what an environment looks up
-/

namespace RoleChart.Chart

open RoleChart.Document RoleChart.Built
open Template (action valuePaths valuesPrefix IsStep)
open Pod (sizingTarget? envEntry envValue envSecret environment container)

variable {m : Manifest} {s : Settings} {g : Group} {v : Node}

/-! ## What is looked up -/

/-- Whether a text makes the release fail without the value that it looks up. -/
def isRequired (text : String) : Bool := "\x7b\x7b required \"".toList.isPrefixOf text.toList

/-- Whether the values have what a text looks up, and it is not null. -/
def Supplies (values : Node) (text : String) : Prop :=
  ∃ path node, valuePaths text.toList = [path] ∧ values.get? path = some node ∧
    node.scalar? ≠ Node.null.scalar?

/-- Whether a container finds all values of its environment: each one is required, or it is there. -/
def Supplied (values container : Node) : Prop :=
  ∀ entry ∈ container.listAt ["env"], ∀ text, (entry.get? ["value"]).bind Node.scalar? = some text →
    isTemplated text.toList = true → isRequired text = true ∨ Supplies values text

/-- Whether the values of a chart answer for a variable. The number of replicas is a value of services
alone. A plain variable is left out of the values if its name begins like that of a number of replicas,
and it is null there if its default has no text. -/
def Answers (m : Manifest) (x : Variable) : Prop :=
  match sizingTarget? x.name with
  | some target => ∀ g, m.groupByEnvName? target = some g → g.kind = .service
  | none => x.secret = false → x.mustBeGiven = false →
      isSizingName x.name = false ∧ x.defaultText?.isSome = true

/-! ## Entries of an environment -/

/-- The text of the value that a plain variable looks up. -/
def plainText (x : Variable) : String :=
  let path := ".Values.env." ++ x.name
  action ((if x.mustBeGiven then Template.requiredValue x.name path else path) ++ " | quote")

/-- The entry of a variable in a chart. -/
theorem envEntry_of_chart (hs : s.chart = true) {x : Variable} {found : Option Node}
    (h : envEntry m s x = .ok found) :
    (∃ target g, sizingTarget? x.name = some target ∧ m.groupByEnvName? target = some g ∧
      found = some (envValue x.name (.verbatim (action (countPath g.varName ++ " | quote"))))) ∨
    (sizingTarget? x.name = none ∧ x.secret = true ∧ found = some (envSecret s x)) ∨
    (sizingTarget? x.name = none ∧ x.secret = false ∧
      found = some (envValue x.name (.verbatim (plainText x)))) := by
  have hcases := Pod.envEntry_cases m s x
  rw [h] at hcases
  cases hcases with
  | @sized target g htarget hg => exact .inl ⟨target, g, htarget, hg, by rw [if_pos hs]⟩
  | secret hcount hsecret => exact .inr (.inl ⟨hcount, hsecret, rfl⟩)
  | chart hcount hsecret => exact .inr (.inr ⟨hcount, hsecret, rfl⟩)
  | plain _ _ hchart => cases hchart.symm.trans hs

@[simp] theorem get?_value_envValue (name : String) (value : Node) :
    (envValue name value).get? ["value"] = some value := by
  simp [envValue]

/-- A reference to a secret has no value of its own. -/
@[simp] theorem get?_value_envSecret (x : Variable) : (envSecret s x).get? ["value"] = none := by
  simp [envSecret]

/-- What a variable looks up, if it looks up anything. -/
theorem mem_environment_iff (hs : s.chart = true) {env : List Node} (h : environment m s g = .ok env)
    {text : String} :
    (∃ entry ∈ env, (entry.get? ["value"]).bind Node.scalar? = some text) ↔
      ∃ x ∈ m.variablesOf g, x.internal = false ∧
        ((∃ target g, sizingTarget? x.name = some target ∧ m.groupByEnvName? target = some g ∧
          text = action (countPath g.varName ++ " | quote")) ∨
        (sizingTarget? x.name = none ∧ x.secret = false ∧ text = plainText x)) := by
  constructor
  · rintro ⟨entry, hentry, htext⟩
    -- the entries of secrets and of the namespace refer to something and have no value
    rcases Pod.exists_of_mem_environment h hentry with ⟨x, hx, hinternal, he⟩ | rfl
    · refine ⟨x, hx, hinternal, ?_⟩
      rcases envEntry_of_chart hs he with ⟨target, g, htarget, hg, he⟩ | ⟨-, -, he⟩ | ⟨htarget, hsecret, he⟩
      · obtain rfl := Option.some.inj he
        exact .inl ⟨target, g, htarget, hg, by simpa [Node.verbatim, Node.scalar?] using htext.symm⟩
      · obtain rfl := Option.some.inj he
        simp at htext
      · obtain rfl := Option.some.inj he
        exact .inr ⟨htarget, hsecret, by simpa [Node.verbatim, Node.scalar?] using htext.symm⟩
    · simp [Pod.namespaceEntry] at htext
  · rintro ⟨x, hx, hinternal, hcases⟩
    obtain ⟨entries, hentries, h⟩ := bind_eq_ok_iff.1 h
    obtain rfl := pure_eq_ok_iff.1 h
    obtain ⟨found, hfound, he⟩ :=
      exists_mem_of_mapM hentries (List.mem_filter.2 ⟨hx, by simp [hinternal]⟩)
    have hmem : ∀ node, found = some node → node ∈ entries.filterMap id ++ [Pod.namespaceEntry] := by
      rintro node rfl
      exact List.mem_append_left _ (List.mem_filterMap.2 ⟨_, hfound, rfl⟩)
    rcases envEntry_of_chart hs he with ⟨target, g, htarget, hg, he⟩ | ⟨htarget, hsecret, -⟩ |
      ⟨htarget, hsecret, he⟩
    · refine ⟨_, hmem _ he, ?_⟩
      rcases hcases with ⟨target', g', htarget', hg', rfl⟩ | ⟨hnone, -⟩
      · obtain rfl := Option.some.inj (htarget.symm.trans htarget')
        obtain rfl := Option.some.inj (hg.symm.trans hg')
        simp [Node.verbatim, Node.scalar?]
      · rw [htarget] at hnone
        cases hnone
    · rcases hcases with ⟨target', g', htarget', -⟩ | ⟨-, hplain, -⟩
      · rw [htarget] at htarget'
        cases htarget'
      · rw [hsecret] at hplain
        cases hplain
    · refine ⟨_, hmem _ he, ?_⟩
      rcases hcases with ⟨target', g', htarget', -⟩ | ⟨-, -, rfl⟩
      · rw [htarget] at htarget'
        cases htarget'
      · simp [Node.verbatim, Node.scalar?]

/-! ## The paths that are looked up -/

/-- Quoting looks up nothing. -/
theorem valuePaths_quoted (path : String) :
    valuePaths (action (path ++ " | quote")).toList = valuePaths path.toList := by
  have hpipe : valuePaths " | quote".toList = [] := by decide
  rw [Template.valuePaths_action, String.toList_append, Template.valuePaths_append (.inr rfl), hpipe,
    List.append_nil]

/-- The number of replicas of a group is looked up at one path. -/
theorem valuePaths_countPath {name : String} (h : IsStep name) :
    valuePaths (countPath name).toList = [["sizing", name, "count"]] := by
  have htext : (countPath name).toList
      = valuesPrefix ++ Text.join ['.'] (["sizing", name, "count"].map String.toList) := by
    unfold countPath sizingPath
    simp only [String.toList_append, List.append_assoc, List.map_cons, List.map_nil, Text.join]
    rfl
  have hsteps : ∀ step ∈ ["sizing", name, "count"], IsStep step := by
    simp only [List.forall_mem_cons]
    exact ⟨by decide, h, by decide, by simp⟩
  rw [htext, Template.valuePaths_steps (by simp) hsteps]

/-- A variable that need not be given is looked up at the path of its name. -/
theorem valuePaths_plainText {x : Variable} (hx : IsStep x.name) (hgiven : x.mustBeGiven = false) :
    valuePaths (plainText x).toList = [["env", x.name]] := by
  have htext : (".Values.env." ++ x.name).toList
      = valuesPrefix ++ Text.join ['.'] (["env", x.name].map String.toList) := by
    simp only [String.toList_append, List.append_assoc, List.map_cons, List.map_nil, Text.join]
    rfl
  have hsteps : ∀ step ∈ ["env", x.name], IsStep step := by
    simp only [List.forall_mem_cons]
    exact ⟨by decide, hx, by simp⟩
  rw [plainText, hgiven]
  simp only [Bool.false_eq_true, if_false]
  rw [valuePaths_quoted, htext, Template.valuePaths_steps (by simp) hsteps]

theorem isTemplated_action (body : String) : isTemplated (action body).toList = true := by
  rw [isTemplated, Text.occurs_iff, action, String.toList_append, String.toList_append]
  exact ⟨[], ' ' :: body.toList ++ " \x7d\x7d".toList, rfl⟩

/-! ## What the values have -/

/-- The values have the number of replicas of each managed group, and of no other. -/
theorem get?_sizing_count (hv : values m s = .ok v) {target : Group} (ht : target ∈ m.groups) :
    v.get? ["sizing", target.varName, "count"] = if target.isManaged then
      some ((Node.number target.run.scaling.min).withComment (countComment target)) else none := by
  obtain ⟨environment, cluster, secrets, sizes, -, -, -, hsizes, rfl⟩ := values_ok hv
  obtain ⟨node, ⟨entries, comment, hentries, rfl⟩, hfound⟩ := sizing_ok hsizes target ht
  rw [← lookup?_count hentries]
  simp [hfound, Node.withComment]

/-- The section of plain variables is what is found at its path. -/
theorem get?_env (hv : values m s = .ok v) (name : String) :
    ∃ environment, Adds (plainVariables m) (·.name) DefaultOf environment ∧
      v.get? ["env", name] = Mapping.lookup? environment name := by
  obtain ⟨environment, cluster, secrets, sizes, henvironment, -, -, -, rfl⟩ := values_ok hv
  exact ⟨environment, adds_environmentValues henvironment, by simp⟩

@[simp] theorem scalar?_withComment (comment : String) (node : Node) :
    (node.withComment comment).scalar? = node.scalar? := by
  cases node <;> rfl

/-! ## Null -/

theorem number_ne_null (n : Nat) : (Node.number n).scalar? ≠ Node.null.scalar? := by
  intro h
  have hdigits : Text.decimal n = ['~'] := by
    simpa using congrArg String.toList (Option.some.inj h)
  have hc : Text.isDigit '~' = true := Yaml.isDigit_decimal (hdigits ▸ List.mem_singleton_self _)
  exact absurd hc (by decide)

theorem literal_ne_null (text : String) : (Node.literal text).scalar? ≠ Node.null.scalar? := by
  intro h
  have hquoted : quoteLiteral text.toList = ['~'] := by
    simpa using congrArg String.toList (Option.some.inj h)
  rw [quoteLiteral] at hquoted
  split at hquoted
  · simp [doubleQuoted] at hquoted
  · next hplain =>
    -- a text that stays as it is needs no quotes, and the null marker does
    rw [hquoted] at hplain
    exact hplain (by decide)

/-- A default is null exactly if it has no text. -/
theorem defaultNode_ne_null_iff (x : Variable) :
    (defaultNode x).scalar? ≠ Node.null.scalar? ↔ x.defaultText?.isSome = true := by
  rw [defaultNode]
  cases x.defaultText? with
  | none => simp
  | some text => simp [literal_ne_null]

/-! ## Which variables the values answer for -/

/-- The values have a number of replicas for services alone. -/
theorem supplies_count_iff (hgroups : ∀ g ∈ m.groups, IsStep g.name) (hv : values m s = .ok v)
    {target : Group} (ht : target ∈ m.groups) :
    Supplies v (action (countPath target.varName ++ " | quote")) ↔ target.kind = .service := by
  have hpaths : valuePaths (action (countPath target.varName ++ " | quote")).toList
      = [["sizing", target.varName, "count"]] := by
    rw [valuePaths_quoted]
    exact valuePaths_countPath (Template.isStep_varName (hgroups target ht))
  have hget := get?_sizing_count hv ht
  constructor
  · rintro ⟨path, node, hpath, hnode, -⟩
    obtain rfl := (List.cons.inj (hpaths.symm.trans hpath)).1
    rw [hget] at hnode
    split at hnode
    · next hmanaged => simpa [Group.isManaged] using hmanaged
    · cases hnode
  · intro hservice
    refine ⟨_, _, hpaths, hget.trans (if_pos (by simp [Group.isManaged, hservice])), ?_⟩
    rw [scalar?_withComment]
    exact number_ne_null _

/-- The values have a plain variable exactly if it does not look like a number of replicas and its default has a
text. -/
theorem supplies_plainText_iff (hv : values m s = .ok v) {x : Variable} (hx : x ∈ m.declarations)
    (hstep : IsStep x.name) (hinternal : x.internal = false) (hsecret : x.secret = false)
    (hgiven : x.mustBeGiven = false) :
    Supplies v (plainText x) ↔ isSizingName x.name = false ∧ x.defaultText?.isSome = true := by
  have hpaths := valuePaths_plainText hstep hgiven
  obtain ⟨environment, hadds, hget⟩ := get?_env hv x.name
  have hmem : isSizingName x.name = false → x ∈ plainVariables m := by
    intro hname
    refine List.mem_filter.2 ⟨List.mem_mergeSort.2 hx, ?_⟩
    simp [hinternal, hsecret, hname]
  constructor
  · rintro ⟨path, node, hpath, hnode, hnull⟩
    obtain rfl := (List.cons.inj (hpaths.symm.trans hpath)).1
    rw [hget] at hnode
    -- some plain variable of this name has the entry, so the name is not one of sizing
    obtain ⟨y, hy, hname⟩ := hadds.exists_of_lookup? (Option.isSome_of_eq_some hnode)
    have hsizing : isSizingName x.name = false := by
      have hkept := (List.mem_filter.1 hy).2
      rw [← hname]
      simpa using (Bool.and_eq_true_iff.1 hkept).2
    obtain ⟨_, ⟨comment, rfl⟩, hfound⟩ := hadds.found x (hmem hsizing)
    obtain rfl := Option.some.inj (hfound.symm.trans hnode)
    rw [scalar?_withComment, defaultNode_ne_null_iff] at hnull
    exact ⟨hsizing, hnull⟩
  · rintro ⟨hsizing, hdefault⟩
    obtain ⟨_, ⟨comment, rfl⟩, hfound⟩ := hadds.found x (hmem hsizing)
    refine ⟨_, _, hpaths, hget.trans hfound, ?_⟩
    rw [scalar?_withComment]
    exact (defaultNode_ne_null_iff x).2 hdefault

/-- A text begins with the word exactly if the variable must be given. -/
theorem isRequired_plainText (x : Variable) : isRequired (plainText x) = x.mustBeGiven := by
  unfold isRequired plainText
  cases hgiven : x.mustBeGiven with
  | true => simp [action, Template.requiredValue, Template.quoted, List.isPrefixOf]
  | false => simp [action, List.isPrefixOf]

/-- A number of replicas is never required. -/
theorem isRequired_count (name : String) :
    isRequired (action (countPath name ++ " | quote")) = false := by
  unfold isRequired countPath sizingPath
  simp [action, List.isPrefixOf]

/-- For which variables the values answer what an environment looks up: a container finds all values of
its environment if and only if each number of replicas in it is that of a service, and each plain
variable that need not be given has a default with a text and a name that does not begin like that of a
number of replicas. -/
theorem environment_supplied_iff (hs : s.chart = true) (hnames : ∀ x ∈ m.declarations, IsStep x.name)
    (hgroups : ∀ g ∈ m.groups, IsStep g.name) {c : Node} (hc : container m s g = .ok c)
    (hv : values m s = .ok v) :
    Supplied v c ↔ ∀ x ∈ m.variablesOf g, x.internal = false → Answers m x := by
  have henv := Pod.listAt_env hc
  have hdeclared : ∀ x ∈ m.variablesOf g, x ∈ m.declarations := fun x hx =>
    List.mem_of_find?_eq_some (Pod.declared?_of_mem_variablesOf hx)
  constructor
  · intro hsupplied x hx hinternal
    -- the text of the variable stands in some entry
    have hlooked : ∀ text, isTemplated text.toList = true →
        ((∃ target g, sizingTarget? x.name = some target ∧ m.groupByEnvName? target = some g ∧
          text = action (countPath g.varName ++ " | quote")) ∨
        (sizingTarget? x.name = none ∧ x.secret = false ∧ text = plainText x)) →
        isRequired text = true ∨ Supplies v text := by
      intro text htemplated hcases
      obtain ⟨entry, hentry, htext⟩ := (mem_environment_iff hs henv).2 ⟨x, hx, hinternal, hcases⟩
      exact hsupplied entry hentry text htext htemplated
    unfold Answers
    split
    · next target htarget =>
      intro g hg
      rcases hlooked _ (isTemplated_action _) (.inl ⟨target, g, htarget, hg, rfl⟩) with h | h
      · rw [isRequired_count] at h
        cases h
      · exact (supplies_count_iff hgroups hv (List.mem_of_find?_eq_some hg)).1 h
    · next htarget =>
      intro hsecret hgiven
      rcases hlooked (plainText x) (isTemplated_action _) (.inr ⟨htarget, hsecret, rfl⟩) with h | h
      · rw [isRequired_plainText, hgiven] at h
        cases h
      · exact (supplies_plainText_iff hv (hdeclared x hx) (hnames x (hdeclared x hx)) hinternal hsecret
          hgiven).1 h
  · intro hanswers entry hentry text htext _
    obtain ⟨x, hx, hinternal, hcases⟩ := (mem_environment_iff hs henv).1 ⟨entry, hentry, htext⟩
    have hanswer := hanswers x hx hinternal
    unfold Answers at hanswer
    rcases hcases with ⟨target, g, htarget, hg, rfl⟩ | ⟨htarget, hsecret, rfl⟩
    · rw [htarget] at hanswer
      exact .inr ((supplies_count_iff hgroups hv (List.mem_of_find?_eq_some hg)).2 (hanswer g hg))
    · rw [htarget] at hanswer
      cases hgiven : x.mustBeGiven with
      | true => exact .inl ((isRequired_plainText x).trans hgiven)
      | false =>
        exact .inr ((supplies_plainText_iff hv (hdeclared x hx) (hnames x (hdeclared x hx)) hinternal
          hsecret hgiven).2 (hanswer hsecret hgiven))

/-! ## A task that is counted -/

/-- The number of replicas of a task. -/
def countVariable : Variable where
  name := "KUBE_SIZING_MIGRATE_COUNT"

/-- A service that needs it. -/
def countingGroup : Group where
  name := "api"
  jobs := [{ name := "api", references := ["KUBE_SIZING_MIGRATE_COUNT"] }]

/-- The task. -/
def migrateGroup : Group where
  name := "migrate"
  kind := .task

/-- A manifest with the three. -/
def countingManifest : Manifest where
  groups := [countingGroup, migrateGroup]
  declarations := [countVariable]

/-- The service takes the one variable that its job refers to. -/
theorem variablesOf_counting : countingManifest.variablesOf countingGroup = [countVariable] := by
  have hnames : countingGroup.variableNames = ["KUBE_SIZING_MIGRATE_COUNT"] := by
    simp [Group.variableNames, countingGroup, sortedUnion, List.eraseDups_cons]
  rw [Manifest.variablesOf, hnames]
  rfl

/-- The variable names the task. -/
theorem groupByEnvName?_counting : countingManifest.groupByEnvName? "MIGRATE" = some migrateGroup := by
  have hascii : ∀ g ∈ [countingGroup, migrateGroup], ∀ c ∈ g.varName.toList, c.toNat < 0x80 := by
    simp [countingGroup, migrateGroup, Group.varName, varName]
  have hapi : Text.upper countingGroup.varName.toList = "API".toList := by
    rw [Text.upper_of_ascii _ (hascii countingGroup (by simp))]
    decide
  have hmigrate : Text.upper migrateGroup.varName.toList = "MIGRATE".toList := by
    rw [Text.upper_of_ascii _ (hascii migrateGroup (by simp))]
    decide
  simp [Manifest.groupByEnvName?, countingManifest, hapi, hmigrate]

/-- The environment of the service has the number and the namespace. -/
theorem environment_counting : environment countingManifest { chart := true } countingGroup
    = .ok [envValue "KUBE_SIZING_MIGRATE_COUNT"
      (.verbatim (action (countPath "migrate" ++ " | quote"))), Pod.namespaceEntry] := by
  have htarget : sizingTarget? countVariable.name = some "MIGRATE" := by decide
  have hentry : envEntry countingManifest { chart := true } countVariable
      = .ok (some (envValue "KUBE_SIZING_MIGRATE_COUNT"
        (.verbatim (action (countPath "migrate" ++ " | quote"))))) := by
    unfold envEntry
    rw [htarget]
    simp only [groupByEnvName?_counting]
    rfl
  have hentries : [countVariable].mapM (envEntry countingManifest { chart := true })
      = .ok [some (envValue "KUBE_SIZING_MIGRATE_COUNT"
        (.verbatim (action (countPath "migrate" ++ " | quote"))))] :=
    mapM_cons_eq_ok_iff.2 ⟨_, [], hentry, rfl, rfl⟩
  have hplain : [countVariable].filter (!·.internal) = [countVariable] := rfl
  rw [environment, variablesOf_counting, hplain, hentries]
  rfl

/-- The values of a chart have no number of replicas of a task, and a service looks it up. -/
theorem not_supplied_counting : ∃ c v, container countingManifest { chart := true } countingGroup = .ok c ∧
    values countingManifest { chart := true } = .ok v ∧
    (∀ x ∈ countingManifest.declarations, IsStep x.name) ∧
    (∀ g ∈ countingManifest.groups, IsStep g.name) ∧ ¬ Supplied v c := by
  have hc : ∃ c, container countingManifest { chart := true } countingGroup = .ok c := by
    unfold container
    rw [environment_counting]
    exact ⟨_, rfl⟩
  have hv : ∃ v, values countingManifest { chart := true } = .ok v := by
    have hvariables : countingManifest.sortedVariables = [countVariable] := by
      simp [Manifest.sortedVariables, countingManifest]
    unfold values environmentValues secretValues
    rw [hvariables]
    exact ⟨_, rfl⟩
  obtain ⟨c, hc⟩ := hc
  obtain ⟨v, hv⟩ := hv
  have hnames : ∀ x ∈ countingManifest.declarations, IsStep x.name := by decide
  have hgroups : ∀ g ∈ countingManifest.groups, IsStep g.name := by decide
  refine ⟨c, v, hc, hv, hnames, hgroups, fun hsupplied => ?_⟩
  have hanswers := (environment_supplied_iff rfl hnames hgroups hc hv).1 hsupplied countVariable
    (by simp [variablesOf_counting]) rfl
  have htarget : sizingTarget? countVariable.name = some "MIGRATE" := by decide
  rw [Answers, htarget] at hanswers
  exact absurd (hanswers migrateGroup groupByEnvName?_counting) (by decide)

end RoleChart.Chart
