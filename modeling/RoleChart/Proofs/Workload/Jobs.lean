import RoleChart.Proofs.Building
import RoleChart.Proofs.Distinct
import RoleChart.Proofs.Document.Differing
import RoleChart.Workload.Basic

/-!
# Jobs and their templates

The pods of a job have the template of all pods but for the policy that says when they are started again. That policy
comes from the stage of the group, and nothing else of a job does: the template is the same for groups that differ in
their stage alone, also where the manifest around them differs so.

## Main statements

* `Pod.podTemplate_unstaged` — templates do not depend on stages
* `Group.job_of_podTemplate` — a job is made wherever a policy and a template are, and the template differs at the
  policy alone
* `Group.job_differs_at_policy` — all of it, with what the stage changes
-/

namespace RoleChart

open Document
open Built

/-! ## Stages -/

/-- The group with the stage of a group that declares none. -/
def Group.unstaged (g : Group) : Group := { g with run := { g.run with stage := .flight } }

/-- The manifest with the same stage for all groups. -/
def Manifest.unstaged (m : Manifest) : Manifest := { m with groups := m.groups.map Group.unstaged }

namespace Manifest

variable (m : Manifest)

theorem group?_unstaged (name : String) : m.unstaged.group? name = (m.group? name).map Group.unstaged :=
  List.find?_map

theorem groupByEnvName?_unstaged (name : String) :
    m.unstaged.groupByEnvName? name = (m.groupByEnvName? name).map Group.unstaged :=
  List.find?_map

end Manifest

namespace Pod

variable (m : Manifest) (s : Settings) (g : Group)

/-! ## Templates -/

/-- The count of another group has nothing to do with its stage. -/
theorem envEntry_unstaged (v : Variable) : envEntry m.unstaged s v = envEntry m s v := by
  unfold envEntry
  cases sizingTarget? v.name with
  | none => rfl
  | some target =>
    simp only [m.groupByEnvName?_unstaged]
    cases m.groupByEnvName? target with
    | none => rfl
    | some other => rfl

theorem environment_unstaged : environment m.unstaged s g.unstaged = environment m s g := by
  have hentry : envEntry m.unstaged s = envEntry m s := funext (envEntry_unstaged m s)
  have hvariables : m.unstaged.variablesOf g.unstaged = m.variablesOf g := rfl
  rw [environment, environment, hentry, hvariables]

theorem container_unstaged : container m.unstaged s g.unstaged = container m s g := by
  rw [container, container, environment_unstaged]
  rfl

theorem colocatedGroups_unstaged :
    colocatedGroups m.unstaged g.unstaged = (colocatedGroups m g).map (List.map Group.unstaged) := by
  refine mapM_eq_map (fun name => ?_) g.colocated
  rw [m.group?_unstaged]
  cases m.group? name with
  | none => rfl
  | some other => rfl

/-- The pods of a group run the same containers with the same volumes, whatever the stages are. -/
theorem podSpec_unstaged : podSpec m.unstaged s g.unstaged = podSpec m s g := by
  have hcontainers (groups : List Group) :
      (groups.map Group.unstaged).mapM (container m.unstaged s) = groups.mapM (container m s) := by
    have hcontainer : container m.unstaged s ∘ Group.unstaged = container m s := funext (container_unstaged m s)
    rw [List.mapM_map, hcontainer]
  have hvolumes (groups : List Group) : podVolumes (groups.map Group.unstaged) = podVolumes groups := by
    rw [podVolumes, podVolumes, List.flatMap_map]
    rfl
  rw [podSpec, podSpec, colocatedGroups_unstaged]
  cases colocatedGroups m g with
  | error e => rfl
  | ok others =>
    have hc := hcontainers (g :: others)
    have hv := hvolumes (g :: others)
    rw [List.map_cons] at hc hv
    simp only [Except.map, bind, Except.bind, hc, hv]
    rfl

theorem podTemplate_unstaged : podTemplate m.unstaged s g.unstaged = podTemplate m s g := by
  rw [podTemplate, podTemplate, podSpec_unstaged]
  rfl

/-- The pods of groups that differ in their stages alone have one template. -/
theorem podTemplate_eq_of_unstaged {m m' : Manifest} {g g' : Group} (hm : m'.unstaged = m.unstaged)
    (hg : g'.unstaged = g.unstaged) : podTemplate m' s g' = podTemplate m s g := by
  rw [← podTemplate_unstaged, ← podTemplate_unstaged m s g, hm, hg]

end Pod

namespace Group

variable {m : Manifest} {s : Settings} {g : Group} {policy : String} {template : Mapping}

/-! ## Jobs -/

/-- The controller of a job around the template of its pods. -/
def jobController (g : Group) (s : Settings) (template : Mapping) : Node :=
  .entries (g.controllerHead s "batch/v1" "Job" (g.jobName s) false
    ++ [("spec", .entries [("template", .entries template)])])

/-- The head of a controller knows nothing of the stage. -/
theorem jobController_unstaged (g : Group) (s : Settings) : g.unstaged.jobController s = g.jobController s := rfl

/-- Two controllers differ where their templates do. -/
theorem differAt_jobController (g : Group) (s : Settings) {x y : Node} {path : List String} {a b : Mapping}
    (h : Node.DifferAt x y path (.entries a) (.entries b)) :
    Node.DifferAt x y ("spec" :: "template" :: path) (g.jobController s a) (g.jobController s b) := by
  have hhead : "spec" ∉ Mapping.names (g.controllerHead s "batch/v1" "Job" (g.jobName s) false) := fun hmem =>
    absurd ((among_controllerHead g s _ _ _ false).names.mem hmem) (by decide)
  have hfirst : "template" ∉ Mapping.names [] := List.not_mem_nil
  exact .under hhead (.under hfirst h)

/-- Where there are a policy and a template, there is a job. Its template has the policy for the one of all pods. -/
theorem job_of_podTemplate (hpolicy : g.restartPolicy = .ok policy)
    (htemplate : Pod.podTemplate m s g = .ok template) :
    ∃ changed, g.job m s = .ok ⟨.job, g.jobController s changed, []⟩ ∧
      Node.DifferAt (.string "Always") (.string policy) ["spec", "restartPolicy"] (.entries template)
        (.entries changed) := by
  obtain ⟨changed, hset, hdiffer⟩ := Mapping.exists_setPath (Pod.get?_restartPolicy htemplate)
    (List.cons_ne_nil _ _) (.string policy)
  refine ⟨changed, ?_, hdiffer⟩
  rw [job, hpolicy, htemplate]
  simp only [bind, Except.bind, hset]
  rfl

/-- A job is the template of its pods with one field changed. Wherever a policy and a template can be made, the job can,
and its template differs from the other one at the policy alone. Another known stage, for the group or for others of the
manifest, changes nothing else of the controller. -/
theorem job_differs_at_policy (hpolicy : g.restartPolicy = .ok policy)
    (htemplate : Pod.podTemplate m s g = .ok template) :
    (policy = if g.run.stage = .manual then "Never" else "OnFailure") ∧
      ∃ r, g.job m s = .ok r ∧
        (∃ changed, r.controller.get? ["spec", "template"] = some changed ∧
          Node.SameBut ["spec", "restartPolicy"] (.string "Always") (.string policy) (.entries template) changed) ∧
        ∀ (m' : Manifest) (g' : Group), m'.unstaged = m.unstaged → g'.unstaged = g.unstaged →
          (∀ name, g'.run.stage ≠ .other name) →
          ∃ policy' r', g'.restartPolicy = .ok policy' ∧ g'.job m' s = .ok r' ∧
            r'.workload = r.workload ∧ r'.services = r.services ∧
            Node.SameBut ["spec", "template", "spec", "restartPolicy"] (.string policy) (.string policy')
              r.controller r'.controller := by
  obtain ⟨changed, hjob, hdiffer⟩ := job_of_podTemplate hpolicy htemplate
  refine ⟨(restartPolicy_eq_ok_iff.1 hpolicy).2, _, hjob, ⟨.entries changed, ?_, hdiffer.sameBut⟩, ?_⟩
  · -- the controller leads to its template, whatever that is
    have hself := (differAt_jobController g s (a := changed) (b := changed) .here).get?_left []
    rwa [List.append_nil, Node.get?_nil] at hself
  · intro m' g' hm hg hknown
    obtain ⟨policy', hpolicy'⟩ : ∃ policy', g'.restartPolicy = .ok policy' :=
      ⟨_, restartPolicy_eq_ok_iff.2 ⟨hknown, rfl⟩⟩
    have htemplate' := (Pod.podTemplate_eq_of_unstaged s hm hg).trans htemplate
    obtain ⟨changed', hjob', hdiffer'⟩ := job_of_podTemplate hpolicy' htemplate'
    refine ⟨policy', _, hpolicy', hjob', rfl, rfl, ?_⟩
    rw [← jobController_unstaged g', hg, jobController_unstaged]
    exact (differAt_jobController g s (hdiffer.right_right hdiffer')).sameBut

/-- A task that runs beside a logger. -/
def migration (stage : FlightStage) : Group where
  name := "migrate"
  kind := .task
  colocated := ["logger"]
  run := { stage := stage, volumes := [⟨.emptyDir, "scratch", "/var/scratch", 0, none⟩] }

/-- The manifest of the task and its logger. -/
def migrations (stage : FlightStage) : Manifest where
  groups := [migration stage, { name := "logger", kind := .colocated }]

theorem job_differs_at_policy_migration :
    (migration .manual).restartPolicy = .ok "Never" ∧
      ∃ template r r', Pod.podTemplate (migrations .manual) {} (migration .manual) = .ok template ∧
        (migration .manual).job (migrations .manual) {} = .ok r ∧
        (migration .preFlight).job (migrations .preFlight) {} = .ok r' ∧
        Node.SameBut ["spec", "template", "spec", "restartPolicy"] (.string "Never") (.string "OnFailure")
          r.controller r'.controller := by
  have hpolicy : (migration .manual).restartPolicy = .ok "Never" := rfl
  have hmade : (Pod.podTemplate (migrations .manual) {} (migration .manual)).isOk = true := by decide +kernel
  cases htemplate : Pod.podTemplate (migrations .manual) {} (migration .manual) with
  | error e =>
    rw [htemplate] at hmade
    cases hmade
  | ok template =>
    obtain ⟨-, r, hjob, -, hothers⟩ := job_differs_at_policy hpolicy htemplate
    obtain ⟨policy', r', hpolicy', hjob', -, -, hsame⟩ :=
      hothers (migrations .preFlight) (migration .preFlight) rfl rfl (by rintro name ⟨⟩)
    obtain rfl : "OnFailure" = policy' := Except.ok.inj hpolicy'
    exact ⟨hpolicy, template, r, r', rfl, hjob, hjob', hsame⟩

end Group

end RoleChart
