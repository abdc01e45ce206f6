import RoleChart.Proofs.Pod.Fields
import RoleChart.Proofs.Secret

/-!
# References to secrets

A container reads secret variables from an object in the cluster. The entry of the variable names the
object and the key in it. Both are chosen apart from the object that a build writes; here they are shown
to meet.

## Main statements

* `environment_secretKeyRef` — only secret variables are referred to
* `secretKeyRef_resolves` — every reference leads to the value of its variable
-/

namespace RoleChart.Pod

open RoleChart.Document RoleChart.Built

variable {m : Manifest} {s : Settings} {g : Group}

/-! ## Entries that refer to secrets -/

@[simp] theorem get?_valueFrom_envValue (name : String) (value : Node) (rest : List String) :
    (envValue name value).get? ("valueFrom" :: rest) = none := by
  simp [envValue]

/-- An entry with a reference is that of a secret variable. -/
theorem envEntry_secretKeyRef {v : Variable} {entry ref : Node}
    (h : envEntry m s v = .ok (some entry))
    (href : entry.get? ["valueFrom", "secretKeyRef"] = some ref) :
    v.secret = true ∧ entry = envSecret s v := by
  -- sizing variables come first, whether they are secret or not, and have a value
  have hcases := envEntry_cases m s v
  rw [h] at hcases
  generalize hfound : some entry = found at hcases
  cases hcases with
  | secret _ hsecret => exact ⟨hsecret, Option.some.inj hfound⟩
  | sized =>
    obtain rfl := Option.some.inj hfound
    simp at href
  | chart =>
    obtain rfl := Option.some.inj hfound
    simp at href
  | plain =>
    obtain ⟨value, -, rfl⟩ := Option.map_eq_some_iff.1 hfound.symm
    simp at href

theorem name_of_declared? {name : String} {v : Variable} (h : m.declared? name = some v) : v.name = name := by
  simpa using List.find?_some h

theorem declared?_of_mem_variablesOf {v : Variable} (h : v ∈ m.variablesOf g) :
    m.declared? v.name = some v := by
  obtain ⟨name, -, hv⟩ := List.mem_filterMap.1 h
  rw [name_of_declared? hv]
  exact hv

/-- Only external secrets are referred to, each as it is declared first. -/
theorem environment_secretKeyRef {env : List Node} (h : environment m s g = .ok env) {entry ref : Node}
    (hentry : entry ∈ env) (href : entry.get? ["valueFrom", "secretKeyRef"] = some ref) :
    ∃ v, m.declared? v.name = some v ∧ v.isExternalSecret = true ∧ entry = envSecret s v := by
  rcases exists_of_mem_environment h hentry with ⟨v, hv, hinternal, he⟩ | rfl
  · obtain ⟨hsecret, rfl⟩ := envEntry_secretKeyRef he href
    refine ⟨v, declared?_of_mem_variablesOf hv, ?_, rfl⟩
    rw [Variable.isExternalSecret, hsecret, hinternal]
    rfl
  · simp [namespaceEntry] at href

/-! ## What references lead to -/

/-- Whether a reference leads to the value of a variable in an object: it names the object and a key
that is there, and outside of a chart the entry of the key is the plain value in base64. -/
def Reads (s : Settings) (object ref : Node) (v : Variable) : Prop :=
  (∃ name, ref.get? ["name"] = some name ∧ object.get? ["metadata", "name"] = some name) ∧
    ∃ key value, ref.get? ["key"] = some (.string key) ∧ object.get? ["data", key] = some value ∧
      (s.chart = false → ∃ text, value.scalar? = (Node.literal text).scalar? ∧
        Base64.decode text.toList = some (bytes (((s.default? v.name).or v.defaultText?).getD "")))

/-- Whether a reference names the object that a generator maintains, for a variable that it generates. -/
def ReadsGenerated (s : Settings) (ref : Node) (v : Variable) : Prop :=
  s.secretsGenerator = true ∧ v.isGenerated = true ∧ ref.get? ["name"] = some (.string secretObject)

theorem get?_key_envSecret (v : Variable) {ref : Node}
    (href : (envSecret s v).get? ["valueFrom", "secretKeyRef"] = some ref) :
    ref.get? ["key"] = some (.string (secretKey v.name)) ∧
      ref.get? ["name"] = some (.string (v.secretName s)) := by
  simp only [envSecret, Node.get?_entries, Mapping.lookup?_cons, String.reduceEq, if_true, if_false,
    Option.bind_some, Node.get?_nil, Option.some.injEq] at href
  subst href
  simp

/-- Different keys of the declared secrets are different keys of the object. -/
theorem nodup_keys_sortedVariables
    (h : ((m.declarations.filter (·.secret)).map fun v => secretKey v.name).Nodup) :
    ((m.sortedVariables.filter (·.isExternalSecret)).map fun v => secretKey v.name).Nodup := by
  have hperm : m.sortedVariables.Perm m.declarations := List.mergeSort_perm _ _
  refine ((hperm.filter _).map _).nodup_iff.2 (h.sublist (List.Sublist.map _ ?_))
  have hsplit : m.declarations.filter (·.isExternalSecret)
      = (m.declarations.filter (·.secret)).filter (!·.internal) := by
    rw [List.filter_filter]
    refine List.filter_congr fun v _ => ?_
    rw [Variable.isExternalSecret, Bool.and_comm]
  rw [hsplit]
  exact List.filter_sublist

/-- An object that has the entry of a variable under its key answers the references to it. -/
theorem reads_of_secretNode? {v : Variable} {object ref node : Node}
    (hname : object.get? ["metadata", "name"] = some (.string (v.secretName s)))
    (hdata : object.get? ["data", secretKey v.name] = some (node.withComment (v.secretComment s)))
    (hnode : v.secretNode? s = some node)
    (href : (envSecret s v).get? ["valueFrom", "secretKeyRef"] = some ref) : Reads s object ref v := by
  obtain ⟨hkey, href⟩ := get?_key_envSecret v href
  refine ⟨⟨_, href, hname⟩, secretKey v.name, _, hkey, hdata, fun hplain => ?_⟩
  rw [v.secretNode?_of_plain hplain] at hnode
  obtain rfl := Option.some.inj hnode
  refine ⟨base64 ((v.plainText? s).getD ""), rfl, ?_⟩
  rw [base64, String.toList_ofList, Base64.decode_encode]
  rfl

/-- Every reference of a container to a secret leads to the value of its variable: in the object that a
build writes for the manifest, or in the one of the generator. -/
theorem secretKeyRef_resolves {c : Node}
    (hkeys : ((m.declarations.filter (·.secret)).map fun v => secretKey v.name).Nodup)
    (hc : container m s g = .ok c) :
    ∃ object, secret m.sortedVariables s = .ok object ∧
      ∀ entry ∈ c.listAt ["env"], ∀ ref, entry.get? ["valueFrom", "secretKeyRef"] = some ref →
        ∃ v, m.declared? v.name = some v ∧ entry.get? ["name"] = some (.string v.name) ∧
          (Reads s object ref v ∨ ReadsGenerated s ref v) := by
  obtain ⟨object, hobject, hname, hdata⟩ := secret_ok (s := s) (nodup_keys_sortedVariables hkeys)
  refine ⟨object, hobject, fun entry hentry ref href => ?_⟩
  obtain ⟨v, hv, hsecret, rfl⟩ := environment_secretKeyRef (listAt_env hc) hentry href
  refine ⟨v, hv, by simp [envSecret], ?_⟩
  -- the generator decides on the name of the object and on whether the build has an entry
  cases hgen : s.secretsGenerator && v.isGenerated with
  | true =>
    have hown : v.secretName s = secretObject := by rw [Variable.secretName, hgen]; rfl
    rw [Bool.and_eq_true] at hgen
    exact .inr ⟨hgen.1, hgen.2, hown ▸ (get?_key_envSecret v href).2⟩
  | false =>
    have hown : v.secretName s = secretName s := by rw [Variable.secretName, hgen]; rfl
    obtain ⟨node, hnode⟩ := Option.isSome_iff_exists.1 (Variable.isSome_secretNode? hgen)
    have hmem : v ∈ m.sortedVariables := List.mem_mergeSort.2 (List.mem_of_find?_eq_some hv)
    exact .inl (reads_of_secretNode? (hown ▸ hname) (hdata v hmem hsecret node hnode) hnode href)

/-! ## A password -/

/-- A secret variable with a default. -/
def passwordVariable : Variable where
  name := "DB_PASSWORD"
  secret := true
  default := some (.string "changeme")

/-- A group that needs it. -/
def passwordGroup : Group where
  name := "api"
  jobs := [{ name := "api", references := ["DB_PASSWORD"] }]

/-- A manifest with both. -/
def passwordManifest : Manifest where
  groups := [passwordGroup]
  declarations := [passwordVariable]

theorem environment_password :
    environment passwordManifest {} passwordGroup
      = .ok [envSecret {} passwordVariable, namespaceEntry] := by
  have hnames : passwordGroup.variableNames = ["DB_PASSWORD"] := by
    simp [Group.variableNames, passwordGroup, sortedUnion, List.eraseDups_cons]
  have hvariables : passwordManifest.variablesOf passwordGroup = [passwordVariable] := by
    rw [Manifest.variablesOf, hnames]
    rfl
  rw [environment, hvariables]
  rfl

theorem secretKeyRef_resolves_password :
    ((passwordManifest.declarations.filter (·.secret)).map fun v => secretKey v.name).Nodup ∧
      ∃ c, container passwordManifest {} passwordGroup = .ok c ∧
        envSecret {} passwordVariable ∈ c.listAt ["env"] ∧
        ∃ object, secret passwordManifest.sortedVariables {} = .ok object ∧
          ∀ entry ∈ c.listAt ["env"], ∀ ref, entry.get? ["valueFrom", "secretKeyRef"] = some ref →
            ∃ v, passwordManifest.declared? v.name = some v ∧
              entry.get? ["name"] = some (.string v.name) ∧
              (Reads {} object ref v ∨ ReadsGenerated {} ref v) := by
  have hkeys : ((passwordManifest.declarations.filter (·.secret)).map fun v => secretKey v.name).Nodup := by
    simp [passwordManifest, passwordVariable]
  have hc : ∃ c, container passwordManifest {} passwordGroup = .ok c := by
    unfold container
    rw [environment_password]
    exact ⟨_, rfl⟩
  obtain ⟨c, hc⟩ := hc
  have henv := listAt_env hc
  rw [environment_password] at henv
  refine ⟨hkeys, c, hc, ?_, secretKeyRef_resolves hkeys hc⟩
  rw [← Except.ok.inj henv]
  exact List.mem_cons_self

end RoleChart.Pod
