import RoleChart.Pod.Probe
import RoleChart.Proofs.Template.Free

/-!
# Texts of manifests

The texts of a manifest that stand in the documents of a chart as they are, apart from the names that
become steps of value paths. A manifest is regular if these names can be steps and no other text mentions
the values.
-/

namespace RoleChart

open Template (Free IsStep)

namespace Yaml.Value

mutual

/-- The texts in a value, those of its keys aside. -/
def texts : Value → List String
  | .string s => [s]
  | .sequence items => itemTexts items
  | .mapping entries => entryTexts entries
  | .tagged _ value => texts value
  | _ => []

/-- The texts in the items of a sequence. -/
def itemTexts : List Value → List String
  | [] => []
  | value :: items => texts value ++ itemTexts items

/-- The texts in the values of a mapping. -/
def entryTexts : List (Value × Value) → List String
  | [] => []
  | (_, value) :: entries => texts value ++ entryTexts entries

end

end Yaml.Value

/-- The texts of the address that a probe asks, as it is read. -/
def Probe.addressTexts (p : Probe) : List String :=
  match p.url.map Url.Locator.ofText with
  | some (.ok (.web _ address)) => [address.host, address.path] ++ address.query.toList
  | _ => []

/-- The texts of a probe. -/
def Probe.texts (p : Probe) : List String :=
  p.command ++ p.headers.map Prod.snd ++ p.addressTexts

/-- The texts of a volume. -/
def Volume.texts (v : Volume) : List String := v.path :: v.storageClass.toList

/-- The texts of a group. -/
def Group.texts (g : Group) : List String :=
  (g.run.affinity.bind (·.podAntiAffinity)).toList.flatMap Yaml.Value.texts
    ++ g.run.volumes.flatMap Volume.texts
    ++ (Pod.declaredProbe g .liveness).texts ++ (Pod.declaredProbe g .readiness).texts
    ++ g.run.account.toList

/-- The texts of a rule. -/
def AccessRule.texts (r : AccessRule) : List String :=
  r.apiGroups ++ r.resources ++ r.verbs ++ r.resourceNames

/-- The texts of the grants of an account. -/
def Grants.texts (g : Grants) : List String := g.roles ++ g.clusterRoles ++ g.podSecurityPolicy.toList

/-- The texts of an authorization section, the names of its policies aside. -/
def Authorization.texts (a : Authorization) : List String :=
  ((a.roles ++ a.clusterRoles).flatMap fun (name, rules) => name :: rules.flatMap AccessRule.texts)
    ++ (a.podSecurityPolicies.flatMap fun (_, spec) => spec.texts)
    ++ a.accounts.flatMap fun (name, grants) => name :: grants.texts

/-- A group whose names can be steps of value paths, and whose other texts do not mention the values. -/
structure Group.Regular (g : Group) : Prop where
  name : IsStep g.name
  ports : ∀ port ∈ g.run.ports, IsStep port.name
  tags : ∀ volume ∈ g.run.volumes, IsStep volume.tag
  texts : ∀ text ∈ g.texts, Free text.toList

namespace Group.Regular

variable {g : Group}

/-- The path of a volume and its storage class do not mention the values. -/
theorem volume (h : g.Regular) {v : Volume} (hv : v ∈ g.run.volumes) :
    Free v.path.toList ∧ ∀ name ∈ v.storageClass, Free name.toList := by
  have htexts : ∀ text ∈ v.texts, Free text.toList := by
    intro text htext
    refine h.texts text ?_
    simp only [Group.texts, List.mem_append, List.mem_flatMap]
    exact .inl (.inl (.inl (.inr ⟨v, hv, htext⟩)))
  simpa [Volume.texts] using htexts

/-- Nor do the texts of a probe, declared or not. -/
theorem probe (h : g.Regular) (kind : Pod.ProbeKind) :
    ∀ text ∈ (Pod.declaredProbe g kind).texts, Free text.toList := by
  intro text htext
  refine h.texts text ?_
  simp only [Group.texts, List.mem_append]
  cases kind with
  | liveness => exact .inl (.inl (.inr htext))
  | readiness => exact .inl (.inr htext)

theorem account (h : g.Regular) : ∀ account ∈ g.run.account, Free account.toList := by
  intro account haccount
  refine h.texts account ?_
  simp only [Group.texts, List.mem_append, Option.mem_toList]
  exact .inr haccount

/-- Nor does anything inside the constraint on other pods. -/
theorem podAntiAffinity (h : g.Regular) {constraint : Yaml.Value}
    (hc : g.run.affinity.bind (·.podAntiAffinity) = some constraint) :
    ∀ text ∈ constraint.texts, Free text.toList := by
  intro text htext
  refine h.texts text ?_
  simp only [Group.texts, List.mem_append, List.mem_flatMap, Option.mem_toList]
  exact .inl (.inl (.inl (.inl ⟨constraint, hc, htext⟩)))

end Group.Regular

/-- A manifest whose names can be steps of value paths, and whose other texts do not mention the values. -/
structure Manifest.Regular (m : Manifest) : Prop where
  groups : ∀ g ∈ m.groups, g.Regular
  declarations : ∀ x ∈ m.declarations, IsStep x.name
  policies : ∀ policy ∈ m.authorization.podSecurityPolicies, IsStep policy.1
  texts : ∀ text ∈ m.authorization.texts, Free text.toList

namespace Manifest.Regular

variable {m : Manifest}

/-- A role does not mention the values in its name or its rules, in either scope. -/
theorem role (h : m.Regular) {role : String × List AccessRule}
    (hrole : role ∈ m.authorization.roles ++ m.authorization.clusterRoles) :
    Free role.1.toList ∧ ∀ rule ∈ role.2, ∀ text ∈ rule.texts, Free text.toList := by
  have htexts : ∀ text ∈ role.1 :: role.2.flatMap AccessRule.texts, Free text.toList := by
    intro text htext
    refine h.texts text ?_
    rw [Authorization.texts, List.mem_append, List.mem_append]
    exact .inl (.inl (List.mem_flatMap.2 ⟨role, hrole, htext⟩))
  refine ⟨htexts _ List.mem_cons_self, fun rule hrule text htext => ?_⟩
  exact htexts text (List.mem_cons_of_mem _ (List.mem_flatMap.2 ⟨rule, hrule, htext⟩))

/-- Nor does a policy in anything it says. -/
theorem policySpec (h : m.Regular) {policy : String × Yaml.Value}
    (hpolicy : policy ∈ m.authorization.podSecurityPolicies) :
    ∀ text ∈ policy.2.texts, Free text.toList := by
  intro text htext
  refine h.texts text ?_
  rw [Authorization.texts, List.mem_append, List.mem_append]
  exact .inl (.inr (List.mem_flatMap.2 ⟨policy, hpolicy, htext⟩))

/-- Nor does an account in its name or in what it is granted. -/
theorem account (h : m.Regular) {account : String × Grants}
    (haccount : account ∈ m.authorization.accounts) :
    Free account.1.toList ∧ ∀ text ∈ account.2.texts, Free text.toList := by
  have htexts : ∀ text ∈ account.1 :: account.2.texts, Free text.toList := by
    intro text htext
    refine h.texts text ?_
    rw [Authorization.texts, List.mem_append]
    exact .inr (List.mem_flatMap.2 ⟨account, haccount, htext⟩)
  exact ⟨htexts _ List.mem_cons_self, fun text htext => htexts text (List.mem_cons_of_mem _ htext)⟩

end Manifest.Regular

end RoleChart
