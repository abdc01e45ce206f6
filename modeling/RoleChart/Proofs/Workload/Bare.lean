import RoleChart.Proofs.Pod.Fields
import RoleChart.Workload.Basic

/-!
# Services without requirements

Nothing can be wrong with a service that runs no jobs, has no ports and no probes, and names neither other
groups nor constraints: whatever its name, its volumes and its replicas are, it has resources.

## Main statements

* `Group.Bare.exists_resources` — a bare service has resources in every manifest
-/

namespace RoleChart

open RoleChart.Document RoleChart.Built

/-- Whether a group is a service without jobs, ports, probes, constraints and colocated groups. -/
structure Group.Bare (g : Group) : Prop where
  kind : g.kind = .service
  jobs : g.jobs = []
  colocated : g.colocated = []
  ports : g.run.ports = []
  healthCheck : g.run.healthCheck = none
  affinity : g.run.affinity = none

/-- A service that has nothing but a name. -/
theorem Group.bare_named (name : String) : Group.Bare { name := name } := ⟨rfl, rfl, rfl, rfl, rfl, rfl⟩

variable {m : Manifest} {s : Settings} {g : Group}

namespace Group.Bare

theorem portDefinitions (h : g.Bare) : g.portDefinitions = .ok [] := by
  unfold Group.portDefinitions
  rw [h.ports]
  rfl

theorem exists_probeEntry (h : g.Bare) (kind : Pod.ProbeKind) :
    ∃ entries, Pod.probeEntry g kind = .ok entries := by
  have hdeclared : Pod.declaredProbe g kind = {} := by
    unfold Pod.declaredProbe
    rw [h.healthCheck]
    cases kind <;> rfl
  have haction : Pod.declaredAction? g kind {} = .ok none := rfl
  have hown : ∃ port?, Pod.ownPort? g kind = .ok port? := by
    cases kind with
    | liveness => exact ⟨_, rfl⟩
    | readiness =>
      unfold Pod.ownPort?
      rw [h.portDefinitions]
      exact ⟨_, rfl⟩
  obtain ⟨port?, hport⟩ := hown
  have hmanaged : g.isManaged = true := by rw [Group.isManaged, h.kind]; rfl
  unfold Pod.probeEntry Pod.probe?
  simp only [hdeclared, haction, hmanaged, hport, if_true]
  exact ⟨_, rfl⟩

theorem exists_container (h : g.Bare) (hopinions : ∃ text, s.opinions.text = .ok text) :
    ∃ c, Pod.container m s g = .ok c := by
  obtain ⟨text, htext⟩ := hopinions
  obtain ⟨liveness, hliveness⟩ := h.exists_probeEntry .liveness
  obtain ⟨readiness, hreadiness⟩ := h.exists_probeEntry .readiness
  unfold Pod.container Pod.containerPorts Pod.imageReference Pod.imageTag
  rw [Pod.environment_of_no_jobs _ _ h.jobs, h.portDefinitions, hliveness, hreadiness, htext]
  exact ⟨_, rfl⟩

theorem exists_podTemplate (h : g.Bare) (hopinions : ∃ text, s.opinions.text = .ok text) :
    ∃ template, Pod.podTemplate m s g = .ok template := by
  obtain ⟨c, hc⟩ := h.exists_container (m := m) hopinions
  have hcolocated : Pod.colocatedGroups m g = .ok [] := by
    unfold Pod.colocatedGroups
    rw [h.colocated]
    rfl
  have hcontainers : [g].mapM (Pod.container m s) = .ok [c] :=
    mapM_cons_eq_ok_iff.2 ⟨c, [], hc, mapM_nil_eq_ok_iff.2 rfl, rfl⟩
  have haffinity : ∃ found, Pod.affinity? g s = .ok found := by
    unfold Pod.affinity?
    rw [h.affinity]
    exact ⟨_, rfl⟩
  obtain ⟨found, hfound⟩ := haffinity
  unfold Pod.podTemplate Pod.podSpec
  rw [hcolocated]
  simp only [bind, Except.bind, hcontainers, hfound]
  exact ⟨_, rfl⟩

theorem service? (h : g.Bare) (audience : Audience) : service? g s audience = .ok none := by
  unfold RoleChart.service? Service.ports
  rw [h.portDefinitions]
  rfl

theorem services (h : g.Bare) (audiences : List Audience) : ∃ nodes, g.services s audiences = .ok nodes := by
  have hnone : ∀ audience ∈ audiences, ∃ found, RoleChart.service? g s audience = .ok found :=
    fun audience _ => ⟨none, h.service? audience⟩
  obtain ⟨found, hfound⟩ := exists_mapM hnone
  unfold Group.services
  rw [hfound]
  exact ⟨_, rfl⟩

/-- A bare service has resources. -/
theorem exists_resources (h : g.Bare) (m : Manifest) (hopinions : ∃ text, s.opinions.text = .ok text) :
    ∃ r, g.resources m s = .ok (some r) ∧ r.workload ≠ .job := by
  obtain ⟨template, htemplate⟩ := h.exists_podTemplate (m := m) hopinions
  obtain ⟨services, hservices⟩ := h.services (s := s) [.cluster, .everyone]
  obtain ⟨more, hmore⟩ := h.services (s := s) [.cluster, .everyone, .pods]
  unfold Group.resources Group.workload?
  rw [h.kind]
  by_cases hclaims : (!g.claimVolumes.isEmpty || g.hasTag clusteredTag) = true
  · simp only [hclaims, if_true]
    unfold Group.statefulSet
    simp only [bind, Except.bind, htemplate, hmore]
    exact ⟨_, rfl, nofun⟩
  · simp only [hclaims, Bool.false_eq_true, if_false]
    unfold Group.deployment
    simp only [bind, Except.bind, htemplate, hservices]
    exact ⟨_, rfl, nofun⟩

end Group.Bare

end RoleChart
