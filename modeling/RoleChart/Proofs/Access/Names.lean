import RoleChart.Proofs.Access.Objects
import RoleChart.Proofs.Document.Written

/-!
# Names of authorization objects

The name of an object joins the namespace, the account and what the section calls it with dashes, and a
policy has a role that is named like a cluster role. The parts may have dashes themselves, so different
objects of one section can come to the same kind and the same name, and then the cluster keeps one of them.

## Main statements

* `Authorization.pairwise_key` — a section in which nothing is listed twice has no object twice
* `Access.title_eq_iff_clash` — its documents have different titles, except where a cluster role and a policy
  are named alike, where the account and the role of two grants are joined to the same text, or where a
  name is the quoted form of another one
-/

namespace RoleChart

open Document

/-- Whether no account lists a role or a cluster role twice. -/
def Authorization.NoRepeats (a : Authorization) : Prop :=
  ∀ entry ∈ a.accounts, entry.2.roles.Nodup ∧ entry.2.clusterRoles.Nodup

/-- Names in strict order differ. -/
theorem InOrder.pairwise_ne {α : Type} {entries : List (String × α)} (h : InOrder entries) :
    entries.Pairwise fun entry entry' => entry.1 ≠ entry'.1 :=
  (List.pairwise_map.1 h).imp Std.ne_of_lt

namespace Access

variable {s : Settings} {a : Authorization}

/-! ## Objects of a section -/

/-- What an object is about, without what it says. -/
inductive Key where
  | role (name : String)
  | clusterRole (name : String)
  | policy (name : String)
  | policyRole (name : String)
  | account (name : String)
  | binding (grant : Grant)
deriving DecidableEq

/-- What an object is about. -/
def Object.key : Object → Key
  | role name _ => .role name
  | clusterRole name _ => .clusterRole name
  | policy name _ => .policy name
  | policyRole name => .policyRole name
  | account name => .account name
  | binding grant => .binding grant

/-- The account of an object, if it is for one. -/
def Key.account? : Key → Option String
  | account name => some name
  | binding grant => some grant.account
  | _ => none

/-- All objects of an account are about it, so those of two accounts never are about the same thing. -/
theorem account?_of_mem {account : String} {g : Grants} {o : Object} (h : o ∈ accountObjects account g) :
    o.key.account? = some account := by
  rw [accountObjects, List.mem_append, List.mem_map] at h
  obtain h | ⟨right, -, rfl⟩ := h
  · split at h
    · exact absurd h List.not_mem_nil
    · obtain rfl := List.mem_singleton.1 h
      rfl
  · rfl

/-- What a section declares by itself is about no account. -/
theorem account?_of_mem_declaredObjects {o : Object} (h : o ∈ a.declaredObjects) : o.key.account? = none := by
  obtain ⟨hbinding, haccount⟩ := a.not_isBinding_of_mem_declaredObjects h
  cases o with
  | account name => cases haccount
  | binding grant => cases hbinding
  | _ => rfl

end Access

open Access

/-- Roles and cluster roles are different rights, so nothing is granted twice if neither is listed twice. -/
theorem Grants.nodup_rights {g : Grants} (hroles : g.roles.Nodup) (hcluster : g.clusterRoles.Nodup) :
    g.rights.Nodup := by
  have hpolicy : g.podSecurityPolicy.toList.Nodup := by cases g.podSecurityPolicy <;> simp
  refine List.nodup_append.2 ⟨List.nodup_append.2 ⟨?_, ?_, ?_⟩, ?_, ?_⟩
  · exact List.pairwise_map.2 (hroles.imp fun hne h => hne (Right.role.inj h))
  · exact List.pairwise_map.2 (hcluster.imp fun hne h => hne (Right.clusterRole.inj h))
  · simp
  · exact List.pairwise_map.2 (hpolicy.imp fun hne h => hne (Right.policy.inj h))
  · intro right hright right' hright'
    obtain ⟨name', -, rfl⟩ := List.mem_map.1 hright'
    obtain h | h := List.mem_append.1 hright <;>
      · obtain ⟨name, -, rfl⟩ := List.mem_map.1 h
        exact nofun

namespace Authorization

variable {a : Authorization}

/-- The parts of a section are sorted, and each part has keys of its own kind. -/
theorem pairwise_key_declaredObjects (ha : a.Sorted) :
    a.declaredObjects.Pairwise fun o o' => o.key ≠ o'.key := by
  refine List.pairwise_append.2 ⟨List.pairwise_append.2 ⟨?_, ?_, ?_⟩, ?_, ?_⟩
  · exact List.pairwise_map.2 (ha.roles.pairwise_ne.imp fun hne h => hne (Key.role.inj h))
  · exact List.pairwise_map.2 (ha.clusterRoles.pairwise_ne.imp fun hne h => hne (Key.clusterRole.inj h))
  · intro o ho o' ho'
    obtain ⟨_, -, rfl⟩ := List.mem_map.1 ho
    obtain ⟨_, -, rfl⟩ := List.mem_map.1 ho'
    rintro ⟨⟩
  · refine List.pairwise_flatMap.2 ⟨fun entry _ => by simp [Object.key], ?_⟩
    refine ha.podSecurityPolicies.pairwise_ne.imp fun hne o ho o' ho' => ?_
    simp only [List.mem_cons, List.not_mem_nil, or_false] at ho ho'
    obtain rfl | rfl := ho <;> obtain rfl | rfl := ho'
    · exact fun h => hne (Key.policy.inj h)
    · rintro ⟨⟩
    · rintro ⟨⟩
    · exact fun h => hne (Key.policyRole.inj h)
  · intro o ho o' ho'
    obtain ⟨_, -, ho'⟩ := List.mem_flatMap.1 ho'
    simp only [List.mem_cons, List.not_mem_nil, or_false] at ho'
    obtain ho | ho := List.mem_append.1 ho <;> obtain ⟨_, -, rfl⟩ := List.mem_map.1 ho <;>
      obtain rfl | rfl := ho' <;> rintro ⟨⟩

theorem pairwise_key_accountObjects (account : String) {g : Grants} (hroles : g.roles.Nodup)
    (hcluster : g.clusterRoles.Nodup) : (accountObjects account g).Pairwise fun o o' => o.key ≠ o'.key := by
  refine List.pairwise_append.2 ⟨?_, ?_, ?_⟩
  · split
    · exact .nil
    · exact List.pairwise_singleton _ _
  · refine List.pairwise_map.2 ((Grants.nodup_rights hroles hcluster).imp fun hne h => hne ?_)
    exact congrArg Grant.right (Key.binding.inj h)
  · intro o ho o' ho'
    obtain ⟨_, -, rfl⟩ := List.mem_map.1 ho'
    split at ho
    · exact absurd ho List.not_mem_nil
    · obtain rfl := List.mem_singleton.1 ho
      exact nofun

/-- No object of a section comes twice. -/
theorem pairwise_key (ha : a.Sorted) (hn : a.NoRepeats) :
    a.objects.Pairwise fun o o' => o.key ≠ o'.key := by
  refine List.pairwise_append.2 ⟨pairwise_key_declaredObjects ha, ?_, ?_⟩
  · refine List.pairwise_flatMap.2 ⟨fun entry hentry => ?_, ?_⟩
    · exact pairwise_key_accountObjects entry.1 (hn entry hentry).1 (hn entry hentry).2
    · refine ha.accounts.pairwise_ne.imp fun hne o ho o' ho' h => hne ?_
      exact Option.some.inj ((account?_of_mem ho).symm.trans ((congrArg _ h).trans (account?_of_mem ho')))
  · intro o ho o' ho' h
    obtain ⟨entry, -, ho'⟩ := List.mem_flatMap.1 ho'
    have haccount := account?_of_mem ho'
    rw [← h, account?_of_mem_declaredObjects ho] at haccount
    cases haccount

end Authorization

namespace Access

variable {s : Settings} {a : Authorization}

/-! ## Titles -/

/-- Titles are the same if the kinds are and the names are written alike. -/
theorem Title.of_eq_of_iff {k l : Kind} {x y : String} :
    Title.of k x = Title.of l y ↔
      k = l ∧ (x = y ∨ IsQuotedForm x.toList y.toList ∨ IsQuotedForm y.toList x.toList) := by
  rw [Title.of, Title.of, Title.mk.injEq, Option.some.injEq, Option.some.injEq, Kind.string_word_inj,
    Node.string_eq_string_iff]

/-- The account and what it is granted, as they are joined in the name of the binding. -/
def Grant.joined (g : Grant) : String := g.account ++ "-" ++ g.right.name

/-- For one kind of binding the names differ only in what is joined. -/
theorem Grant.bindingName_eq_iff {g g' : Grant} (hkind : g.right.bindingKind = g'.right.bindingKind) :
    g.bindingName s = g'.bindingName s ↔ g.joined = g'.joined := by
  have hlocal (account name : String) : account ++ "-" ++ name ++ "-binding"
      = (account ++ "-" ++ name) ++ "-binding" := rfl
  have hcluster (account name : String) : clusterBindingName s account name
      = namespaceOf s ++ "-" ++ (account ++ "-" ++ name) ++ "-cluster-binding" := by
    simp only [clusterBindingName, String.append_assoc]
  obtain ⟨account, right⟩ := g
  obtain ⟨account', right'⟩ := g'
  cases right <;> cases right' <;> first
    | (cases hkind; done)
    | simp only [bindingName, joined, Right.name, hcluster, String.append_left_inj, String.append_right_inj]

/-- How two objects of a section come to the same title. -/
inductive Clash (s : Settings) : Object → Object → Prop
  /-- The role of a policy is named like a cluster role. -/
  | policyRole (name : String) (rules : List AccessRule) :
    Clash s (.clusterRole name rules) (.policyRole name)
  /-- Two grants are joined to the same text. -/
  | joined {g g' : Grant} (hne : g ≠ g') (hkind : g.right.bindingKind = g'.right.bindingKind)
      (hjoined : g.joined = g'.joined) : Clash s (.binding g) (.binding g')
  /-- One name is the quoted form of the other. -/
  | quoted {o o' : Object} (hkind : o.kind = o'.kind)
      (hquoted : IsQuotedForm (o.name s).toList (o'.name s).toList) : Clash s o o'

/-- Each way to clash gives the same title. -/
theorem Clash.title_eq {o o' : Object} (h : Clash s o o') : title (o.node s) = title (o'.node s) := by
  rw [title_node, title_node, Title.of_eq_of_iff]
  cases h with
  | policyRole name rules => exact ⟨rfl, .inl rfl⟩
  | joined hne hkind hjoined => exact ⟨hkind, .inl ((Grant.bindingName_eq_iff hkind).2 hjoined)⟩
  | quoted hkind hquoted => exact ⟨hkind, .inr (.inl hquoted)⟩

/-- A kind is one of bindings, or one of other objects. -/
theorem isBinding_eq_of_kind_eq {o o' : Object} (h : o.kind = o'.kind) : o.isBinding = o'.isBinding := by
  have hisOfKind (kind : Kind) : isOfKind kind (o.node default) = isOfKind kind (o'.node default) := by
    rw [isOfKind_node, isOfKind_node, h]
  rw [← isBinding_node default, ← isBinding_node default, isBinding, isBinding, hisOfKind, hisOfKind]

/-- Different objects of one kind and one name clash. -/
theorem clash_of_name_eq {o o' : Object} (hkey : o.key ≠ o'.key) (hkind : o.kind = o'.kind)
    (hname : o.name s = o'.name s) : Clash s o o' ∨ Clash s o' o := by
  -- the kind of a binding depends on the right, so that bindings are told apart from the rest first
  have hbinding := isBinding_eq_of_kind_eq hkind
  have hcluster {x y : String} (h : clusterRoleName s x = clusterRoleName s y) : x = y :=
    (String.append_right_inj _).1 h
  cases o <;> cases o' <;> first
    | (cases hkind; done)
    | (cases hbinding; done)
    | skip
  case role.role => exact absurd (congrArg Key.role hname) hkey
  case clusterRole.clusterRole => exact absurd (congrArg Key.clusterRole (hcluster hname)) hkey
  case clusterRole.policyRole name rules name' =>
    obtain rfl := hcluster hname
    exact .inl (.policyRole name rules)
  case policy.policy => exact absurd (congrArg Key.policy ((String.append_right_inj _).1 hname)) hkey
  case policyRole.clusterRole name name' rules =>
    obtain rfl := hcluster hname
    exact .inr (.policyRole name rules)
  case policyRole.policyRole => exact absurd (congrArg Key.policyRole (hcluster hname)) hkey
  case account.account => exact absurd (congrArg Key.account hname) hkey
  case binding.binding g g' =>
    have hne : g ≠ g' := fun h => hkey (congrArg Key.binding h)
    exact .inl (.joined hne hkind ((Grant.bindingName_eq_iff hkind).1 hname))

/-- The documents of a section are those of its objects, and two of them have the same title exactly where
the objects clash. -/
theorem title_eq_iff_clash (s : Settings) (ha : a.Sorted) (hn : a.NoRepeats) :
    documents s a = (if s.emitsRbac then a.objects.map (·.node s) else []) ∧
      a.objects.Pairwise fun o o' =>
        title (o.node s) = title (o'.node s) ↔ Clash s o o' ∨ Clash s o' o := by
  refine ⟨documents_eq s a, (Authorization.pairwise_key ha hn).imp fun {o o'} hkey => ⟨fun h => ?_, ?_⟩⟩
  · rw [title_node, title_node, Title.of_eq_of_iff] at h
    obtain ⟨hkind, hname | hquoted | hquoted⟩ := h
    · exact clash_of_name_eq hkey hkind hname
    · exact .inl (.quoted hkind hquoted)
    · exact .inr (.quoted hkind.symm hquoted)
  · rintro (h | h)
    · exact h.title_eq
    · exact h.title_eq.symm

/-- Two accounts whose names make up for those of their roles, and a policy that is named like a cluster
role. -/
def overlappingSection : Authorization where
  roles := [("dev-reader", [{ apiGroups := [""], resources := ["pods"], verbs := ["get"] }]),
    ("reader", [{ apiGroups := [""], resources := ["secrets"], verbs := ["get"] }])]
  clusterRoles := [("restricted", [{ apiGroups := [""], resources := ["nodes"], verbs := ["get"] }])]
  podSecurityPolicies := [("restricted", .mapping [(.string "privileged", .bool false)])]
  accounts := [("api", { roles := ["dev-reader"] }), ("api-dev", { roles := ["reader"] })]

/-- The names in each part of the section are in order. -/
theorem sorted_overlappingSection : overlappingSection.Sorted where
  roles := by
    have hnames : ["dev-reader", "reader"].Pairwise (· < ·) := by decide
    exact hnames
  clusterRoles := List.pairwise_singleton _ _
  podSecurityPolicies := List.pairwise_singleton _ _
  accounts := by
    have hnames : ["api", "api-dev"].Pairwise (· < ·) := by decide
    exact hnames

/-- Neither account is granted a role twice. -/
theorem noRepeats_overlappingSection : overlappingSection.NoRepeats := by
  unfold Authorization.NoRepeats
  decide

theorem title_eq_iff_clash_overlapping :
    documents { namespaceName := "cf" } overlappingSection
        = overlappingSection.objects.map (·.node { namespaceName := "cf" }) ∧
      overlappingSection.objects.Pairwise fun o o' =>
        title (o.node { namespaceName := "cf" }) = title (o'.node { namespaceName := "cf" }) ↔
          Clash { namespaceName := "cf" } o o' ∨ Clash { namespaceName := "cf" } o' o :=
  title_eq_iff_clash _ sorted_overlappingSection noRepeats_overlappingSection

/-- Titles are not all different, though nothing is listed twice. -/
theorem not_nodup_titles : ¬ ∀ (s : Settings) (a : Authorization), a.Sorted → a.NoRepeats →
    ((documents s a).map title).Nodup := by
  intro h
  have hnodup := h { namespaceName := "cf" } overlappingSection sorted_overlappingSection
    noRepeats_overlappingSection
  have hemits : ({ namespaceName := "cf" } : Settings).emitsRbac = true := rfl
  rw [documents_eq, if_pos hemits, List.map_map] at hnodup
  have htitles : overlappingSection.objects.map (title ∘ (Object.node { namespaceName := "cf" })) =
      [.of .role "dev-reader", .of .role "reader", .of .clusterRole "cf-cluster-role-restricted",
        .of .podSecurityPolicy "cf-psp-restricted", .of .clusterRole "cf-cluster-role-restricted",
        .of .serviceAccount "api", .of .roleBinding "api-dev-reader-binding",
        .of .serviceAccount "api-dev", .of .roleBinding "api-dev-reader-binding"] :=
    (List.map_congr_left fun o _ => title_node _ o).trans rfl
  rw [htitles] at hnodup
  simp [List.nodup_cons] at hnodup

end Access

end RoleChart
