import RoleChart.Access
import RoleChart.Proofs.Pod.Coverage

/-!
# What secrets and authorization objects look up

A chart takes the values of secrets from its own values, and the login to the registry. Authorization objects
stand behind the condition that the cluster authorizes by roles, and a policy is left out where a value names
another one.

## Main statements

* `covered_secret`, `covered_registryCredentials` — the values have what the two secrets look up
* `covered_authFiles` — and what the authorization objects do
-/

namespace RoleChart.Chart

open RoleChart.Document RoleChart.Built
open Template (Free IsStep action)

variable {m : Manifest} {s : Settings} {v : Node}

/-! ## Secrets -/

/-- A secret value is looked up where the values have it, or it must be given. -/
theorem covered_secretNode (hs : s.chart = true) (hv : values m s = .ok v) {x : Variable}
    (hx : x ∈ m.declarations) (hname : IsStep x.name) (hsecret : x.isExternalSecret = true) :
    ∀ node ∈ x.secretNode? s, Covered v node := by
  have hpath := covers_secret hv hx hname hsecret
  have hencoded : Covers v " | b64enc | quote" := covers_of_unpromised (by decide)
  have hpassword : Covers v "randAlphaNum 32 | b64enc | quote" := covers_of_unpromised (by decide)
  intro node hnode
  unfold Variable.secretNode? at hnode
  simp only [hs, Bool.not_true, Bool.false_eq_true, if_false] at hnode
  split at hnode
  · cases hnode
  split at hnode
  · obtain rfl := Option.some.inj hnode
    exact covered_verbatim (covers_action hpassword)
  · obtain rfl := Option.some.inj hnode
    refine covered_verbatim (covers_action (covers_append ?_ hencoded (.inr rfl)))
    split
    · exact covers_requiredValue (Template.free_of_isStep hname) hpath
    · exact hpath

/-- So the data of the secret look up nothing that is missing. -/
theorem allCovered_secretData (hs : s.chart = true) (hm : m.Regular) (hv : values m s = .ok v)
    {data : Mapping} (h : secretData m.sortedVariables s = .ok data) : AllCovered v data := by
  refine foldlM_preserves (fun data x hx next hnext hdata => ?_) h .nil
  obtain ⟨hx, hsecret⟩ := List.mem_filter.1 hx
  have hdeclared : x ∈ m.declarations := List.mem_mergeSort.1 hx
  split at hnext
  · next node hnode =>
    obtain ⟨-, rfl⟩ := addNamed_eq_ok_iff.1 hnext
    have hnode := covered_secretNode hs hv hdeclared (hm.declarations x hdeclared) hsecret node hnode
    exact hdata.append (.single (hnode.withComment _))
  · obtain rfl := Except.ok.inj hnext
    exact hdata

/-- The values have what the object with the secret values looks up. -/
theorem covered_secret (hs : s.chart = true) (hm : m.Regular) (hv : values m s = .ok v) {node : Node}
    (h : secret m.sortedVariables s = .ok node) : Covered v node := by
  obtain ⟨data, hdata, h⟩ := bind_eq_ok_iff.1 h
  obtain rfl := pure_eq_ok_iff.1 h
  have hhead : AllCovered v (newObject "v1" "Secret" (objectMetadata s (secretName s) none)) :=
    allCovered_newObject (by decide) (by decide) (allCovered_objectMetadata s (free_secretName s) (by simp))
  have hopaque : Covered v (.string "Opaque") := covered_string (by decide)
  exact covered_entries (hhead.append (.cons hopaque
    (.single (covered_entries (allCovered_secretData hs hm hv hdata)))))

/-- The login of a registry takes the three values that are always there. -/
theorem covers_chartDockercfg (hv : values m s = .ok v) : Covers v chartDockercfg := by
  have hhost : Covers v (".Values.kube.registry." ++ "hostname") := covers_fixed hv (by decide)
  have huser : Covers v (".Values.kube.registry." ++ "username") := covers_fixed hv (by decide)
  have hpassword : Covers v (".Values.kube.registry." ++ "password") := covers_fixed hv (by decide)
  have hblank : Covers v " " := covers_of_unpromised (by decide)
  have hprintf : Covers v "printf " := covers_of_unpromised (by decide)
  have hinner : Covers v "(printf " := covers_of_unpromised (by decide)
  have hclose : Covers v " | b64enc)" := covers_of_unpromised (by decide)
  have hencoded : Covers v " | b64enc" := covers_of_unpromised (by decide)
  have hpair : Covers v (Template.quoted "%s:%s") := covers_quoted (by decide)
  have hformat : Covers v (Template.quoted
      "\x7b%q:\x7b\\\"username\\\":%q,\\\"password\\\":%q,\\\"auth\\\":%q\x7d\x7d") :=
    covers_quoted (by decide)
  have hlogin := covers_append hinner hpair (.inl rfl)
  have hlogin := covers_around " " hlogin huser hblank rfl rfl
  have hlogin := covers_around " " hlogin hpassword hblank rfl rfl
  have hlogin := covers_append hlogin hclose (.inr rfl)
  have hcall := covers_append hprintf hformat (.inl rfl)
  have hcall := covers_around " " hcall hhost hblank rfl rfl
  have hcall := covers_around " " hcall huser hblank rfl rfl
  have hcall := covers_around " " hcall hpassword hblank rfl rfl
  have hcall := covers_around " " hcall hlogin hblank rfl rfl
  exact covers_action (covers_append hcall hencoded (.inr rfl))

/-- The values have what the object with the registry login looks up. -/
theorem covered_registryCredentials (hs : s.chart = true) (hv : values m s = .ok v) :
    Covered v (registryCredentials s) := by
  have huser : Covers v ".Values.kube.registry.username" := covers_fixed hv (by decide)
  have hempty : Free "".toList := by decide
  have htype : Covered v (.string "kubernetes.io/dockercfg") := covered_string (by decide)
  have hlogin : AllCovered v [(".dockercfg", .verbatim chartDockercfg)] :=
    .single (covered_verbatim (covers_chartDockercfg hv))
  have hhead : AllCovered v
      (newObject "v1" "Secret" (objectMetadata s registryCredentialsName none)) :=
    allCovered_newObject (by decide) (by decide) (allCovered_objectMetadata s (by decide) (by simp))
  unfold registryCredentials
  simp only [hs, if_true]
  exact (covered_entries (hhead.append (.cons htype (.single (covered_entries hlogin))))).withBlock
    (covers_ifBlock ⟨huser, hempty⟩)

/-! ## Authorization objects -/

/-- The condition around an object looks up the mode of authorization. -/
theorem covered_gated (hv : values m s = .ok v) {entries : Mapping} (h : AllCovered v entries) :
    Covered v (Access.gated s entries) := by
  have hauth : Covers v ".Values.kube.auth" := covers_fixed hv (by decide)
  have hrbac : Free "rbac".toList := by decide
  unfold Access.gated
  simp only
  split
  · exact (covered_entries h).withBlock (covers_ifBlock ⟨hauth, hrbac⟩)
  · exact covered_entries h

/-- Words of the manifest are free of paths. -/
theorem covered_accessTexts {words : List String} (h : ∀ word ∈ words, Free word.toList) :
    Covered v (Access.texts words) := by
  refine covered_items fun node hnode => ?_
  obtain ⟨word, hword, rfl⟩ := List.mem_map.1 hnode
  exact covered_string (h word hword)

theorem covered_ruleNode {rule : AccessRule} (h : ∀ text ∈ rule.texts, Free text.toList) :
    Covered v (Access.ruleNode rule) := by
  simp only [AccessRule.texts, List.mem_append, or_imp, forall_and] at h
  obtain ⟨⟨⟨hgroups, hresources⟩, hverbs⟩, hnames⟩ := h
  exact covered_entries (.append (.cons (covered_accessTexts hgroups)
    (.cons (covered_accessTexts hresources) (.single (covered_accessTexts hverbs))))
    (.ite (fun _ => .nil) fun _ => .single (covered_accessTexts hnames)))

theorem covered_rules {rules : List AccessRule} (h : ∀ rule ∈ rules, ∀ text ∈ rule.texts, Free text.toList) :
    Covered v (.items (rules.map Access.ruleNode)) := by
  refine covered_items fun node hnode => ?_
  obtain ⟨rule, hrule, rfl⟩ := List.mem_map.1 hnode
  exact covered_ruleNode (h rule hrule)

theorem allCovered_accessHead {kind name : String} (hkind : Free kind.toList) (hname : Free name.toList) :
    AllCovered v (Access.head s kind name) :=
  allCovered_newObject (by decide) hkind (allCovered_objectMetadata s hname (by simp))

/-- The namespace is that of the release, which is no value. -/
theorem free_namespaceOf (hs : s.chart = true) : Free (Access.namespaceOf s).toList := by
  unfold Access.namespaceOf
  rw [if_pos hs]
  decide

theorem free_clusterRoleName (hs : s.chart = true) {name : String} (h : Free name.toList) :
    Free (Access.clusterRoleName s name).toList :=
  Template.free_around "-cluster-role-" (free_namespaceOf hs) h (by decide) rfl rfl

theorem free_policyName (hs : s.chart = true) {name : String} (h : Free name.toList) :
    Free (Access.policyName s name).toList :=
  Template.free_around "-psp-" (free_namespaceOf hs) h (by decide) rfl rfl

/-- A subject is an account in the namespace. -/
theorem covered_subjects (hs : s.chart = true) {account : String} (h : Free account.toList) :
    Covered v (Access.subjects s account) := by
  have hsubject : AllCovered v [("kind", .string "ServiceAccount"), ("name", .string account),
      ("namespace", .string (Access.namespaceOf s))] :=
    .cons (covered_string (by decide)) (.cons (covered_string h)
      (.single (covered_string (free_namespaceOf hs))))
  exact covered_singleton (covered_entries hsubject)

theorem covered_roleRef {kind name : String} (hkind : Free kind.toList) (hname : Free name.toList) :
    Covered v (Access.roleRef kind name) :=
  covered_entries (.cons (covered_string (by decide)) (.cons (covered_string hkind)
    (.single (covered_string hname))))

/-- A binding adds nothing to what its condition looks up. -/
theorem covered_roleBinding (hs : s.chart = true) (hv : values m s = .ok v) {account name : String}
    (haccount : Free account.toList) (hname : Free name.toList) :
    Covered v (Access.roleBinding s account name) := by
  have hbinding : Free (account ++ "-" ++ name ++ "-binding").toList :=
    Template.free_append (Template.free_around "-" haccount hname (by decide) rfl rfl) (by decide) (.inr rfl)
  have hhead : AllCovered v (Access.head s "RoleBinding" (account ++ "-" ++ name ++ "-binding")) :=
    allCovered_accessHead (by decide) hbinding
  exact covered_gated hv (hhead.append (.cons (covered_subjects hs haccount)
    (.single (covered_roleRef (by decide) hname))))

theorem covered_clusterRoleBinding (hs : s.chart = true) (hv : values m s = .ok v) {account name : String}
    (haccount : Free account.toList) (hname : Free name.toList) :
    Covered v (Access.clusterRoleBinding s account name) := by
  have hbinding : Free (Access.clusterBindingName s account name).toList := by
    have hfirst := Template.free_around "-" (free_namespaceOf hs) haccount (by decide) rfl rfl
    exact Template.free_append (Template.free_around "-" hfirst hname (by decide) rfl rfl) (by decide)
      (.inr rfl)
  have hhead : AllCovered v
      (Access.head s "ClusterRoleBinding" (Access.clusterBindingName s account name)) :=
    allCovered_accessHead (by decide) hbinding
  exact covered_gated hv (hhead.append (.cons (covered_subjects hs haccount)
    (.single (covered_roleRef (by decide) (free_clusterRoleName hs hname)))))

/-- The values have what the objects of an account look up. -/
theorem covered_accountDocuments (hs : s.chart = true) (hv : values m s = .ok v) {account : String}
    {grants : Grants} (haccount : Free account.toList)
    (hgrants : ∀ text ∈ grants.texts, Free text.toList) :
    ∀ node ∈ Access.accountDocuments s account grants, Covered v node := by
  simp only [Grants.texts, List.mem_append, or_imp, forall_and] at hgrants
  obtain ⟨⟨hroles, hclusterRoles⟩, hpolicy⟩ := hgrants
  have hhead : AllCovered v (newObject "v1" "ServiceAccount" (objectMetadata s account none)) :=
    allCovered_newObject (by decide) (by decide) (allCovered_objectMetadata s haccount (by simp))
  intro node hnode
  simp only [Access.accountDocuments, List.mem_append, List.mem_map] at hnode
  rcases hnode with ((hnode | ⟨name, hname, rfl⟩) | ⟨name, hname, rfl⟩) | ⟨name, hname, rfl⟩
  · split at hnode
    · exact absurd hnode List.not_mem_nil
    · rw [List.mem_singleton.1 hnode]
      exact covered_gated hv hhead
  · exact covered_roleBinding hs hv haccount (hroles name hname)
  · exact covered_clusterRoleBinding hs hv haccount (hclusterRoles name hname)
  · exact covered_clusterRoleBinding hs hv haccount (hpolicy name hname)

/-- A policy is left out if the values name another one, so it looks for its own name. -/
theorem covered_podSecurityPolicy (hs : s.chart = true) (hm : m.Regular) (hv : values m s = .ok v)
    {policy : String × Yaml.Value} (hpolicy : policy ∈ m.authorization.podSecurityPolicies) :
    Covered v (Access.podSecurityPolicy s policy.1 policy.2) := by
  have hname := hm.policies policy hpolicy
  have hpath : Covers v (Access.policyPath policy.1) := covers_policy hv hpolicy hname
  have hhead : AllCovered v (newObject "policy/v1beta1" "PodSecurityPolicy"
      (objectMetadata s (Access.policyName s policy.1) none)) :=
    allCovered_newObject (by decide) (by decide) (allCovered_objectMetadata s
      (free_policyName hs (Template.free_of_isStep hname)) (by simp))
  have hspec := covered_ofValue (v := v) policy.2 (hm.policySpec hpolicy)
  unfold Access.podSecurityPolicy
  simp only [hs, if_true]
  exact (covered_gated hv (hhead.append (.single hspec))).withBlock (covers_ifBlock hpath)

/-- The role of a policy takes the name from the values if there is one. -/
theorem covered_policyRole (hs : s.chart = true) (hm : m.Regular) (hv : values m s = .ok v)
    {policy : String × Yaml.Value} (hpolicy : policy ∈ m.authorization.podSecurityPolicies) :
    Covered v (Access.policyRole s policy.1) := by
  have hname := hm.policies policy hpolicy
  have hpath : Covers v (Access.policyPath policy.1) := covers_policy hv hpolicy hname
  have hfree : Free policy.1.toList := Template.free_of_isStep hname
  have hdefault : Free ("default (printf \"%s-psp-" ++ policy.1 ++ "\" .Release.Namespace) ").toList :=
    Template.free_append (Template.free_append (by decide) hfree (.inl rfl)) (by decide) (.inr rfl)
  have hchosen : Covered v (.verbatim (action ("default (printf \"%s-psp-" ++ policy.1
      ++ "\" .Release.Namespace) " ++ Access.policyPath policy.1))) :=
    covered_verbatim (covers_action (covers_append (covers_of_free hdefault) hpath
      (.inl (endsWord_append rfl))))
  have hwords : ∀ word : String, Free word.toList → Covered v (Access.texts [word]) :=
    fun word hword => covered_accessTexts (by simpa using hword)
  have hhead : AllCovered v (Access.head s "ClusterRole" (Access.clusterRoleName s policy.1)) :=
    allCovered_accessHead (by decide) (free_clusterRoleName hs hfree)
  unfold Access.policyRole
  simp only [hs, if_true]
  exact covered_gated hv (hhead.append (.single (covered_singleton (covered_entries
    (.cons (hwords _ (by decide)) (.cons (hwords _ (by decide)) (.cons (hwords _ (by decide))
      (.single (covered_singleton hchosen)))))))))

/-- The values have what the authorization objects look up. -/
theorem covered_authFiles (hs : s.chart = true) (hm : m.Regular) (hv : values m s = .ok v) :
    ∀ file ∈ Access.authFiles s m.authorization, ∀ node ∈ file.documents, Covered v node := by
  intro file hfile node hnode
  unfold Access.authFiles at hfile
  split at hfile
  · exact absurd hfile List.not_mem_nil
  simp only [List.mem_append, List.mem_map, List.mem_filter] at hfile
  rcases hfile with ((⟨role, hrole, rfl⟩ | ⟨role, hrole, rfl⟩) | ⟨policy, hpolicy, rfl⟩) |
    ⟨⟨account, haccount, rfl⟩, -⟩
  · obtain ⟨hname, hrules⟩ := hm.role (List.mem_append_left _ hrole)
    have hhead : AllCovered v (Access.head s "Role" role.1) := allCovered_accessHead (by decide) hname
    rw [List.mem_singleton.1 hnode]
    exact covered_gated hv (hhead.append (.single (covered_rules hrules)))
  · obtain ⟨hname, hrules⟩ := hm.role (List.mem_append_right _ hrole)
    have hhead : AllCovered v (Access.head s "ClusterRole" (Access.clusterRoleName s role.1)) :=
      allCovered_accessHead (by decide) (free_clusterRoleName hs hname)
    rw [List.mem_singleton.1 hnode]
    exact covered_gated hv (hhead.append (.single (covered_rules hrules)))
  · simp only [List.mem_cons, List.not_mem_nil, or_false] at hnode
    rcases hnode with rfl | rfl
    · exact covered_podSecurityPolicy hs hm hv hpolicy
    · exact covered_policyRole hs hm hv hpolicy
  · obtain ⟨hname, hgrants⟩ := hm.account haccount
    exact covered_accountDocuments hs hv hname hgrants node hnode

end RoleChart.Chart
