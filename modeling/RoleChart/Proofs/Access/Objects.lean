import RoleChart.Access
import RoleChart.Proofs.Document.Lookup
import RoleChart.Proofs.Manifest.Order

/-!
# Authorization objects and what they grant

An authorization section declares roles and policies and grants them to accounts. It becomes one object for
each declared role, two for each policy, one for each account that has to be made, and one for each grant:
a binding of the account to what it is granted.

## Main statements

* `Access.documents_eq` — the documents of a section are those of its objects, in order
* `Access.documents_realize` — read back, they are the grants of the section, bound to what it declares, and
  the accounts; nothing else is among them
-/

namespace RoleChart

open Document

namespace Access

/-! ## Grants -/

/-- What an account may be granted: a role of the namespace, a role of the cluster, or the use of a
policy. -/
inductive Right where
  | role (name : String)
  | clusterRole (name : String)
  | policy (name : String)
deriving DecidableEq, Repr

/-- The name of what is granted. -/
def Right.name : Right → String
  | role name | clusterRole name | policy name => name

/-- An account and something that it is granted. -/
structure Grant where
  account : String
  right : Right
deriving DecidableEq, Repr

end Access

open Access (Right Grant)

/-- What an account is granted: its roles, then its cluster roles, then its policy. -/
def Grants.rights (g : Grants) : List Right :=
  g.roles.map .role ++ g.clusterRoles.map .clusterRole ++ g.podSecurityPolicy.toList.map .policy

namespace Authorization

/-- All grants, account by account. -/
def grants (a : Authorization) : List Grant :=
  a.accounts.flatMap fun entry => entry.2.rights.map (Grant.mk entry.1)

/-- Whether the section declares what a right is about. -/
def Declares (a : Authorization) : Right → Prop
  | .role name => name ∈ a.roles.map Prod.fst
  | .clusterRole name => name ∈ a.clusterRoles.map Prod.fst
  | .policy name => name ∈ a.podSecurityPolicies.map Prod.fst

end Authorization

namespace Access

/-! ## Objects -/

/-- The kinds of objects for authorization. -/
inductive Kind where
  | role
  | clusterRole
  | podSecurityPolicy
  | serviceAccount
  | roleBinding
  | clusterRoleBinding
deriving DecidableEq, Repr

/-- The name of a kind. -/
def Kind.word : Kind → String
  | role => "Role"
  | clusterRole => "ClusterRole"
  | podSecurityPolicy => "PodSecurityPolicy"
  | serviceAccount => "ServiceAccount"
  | roleBinding => "RoleBinding"
  | clusterRoleBinding => "ClusterRoleBinding"

/-- Kinds are told apart by their names as they are written. -/
theorem Kind.string_word_inj {k l : Kind} : Node.string k.word = Node.string l.word ↔ k = l := by
  cases k <;> cases l <;> decide

/-- An object for authorization. -/
inductive Object where
  | role (name : String) (rules : List AccessRule)
  | clusterRole (name : String) (rules : List AccessRule)
  | policy (name : String) (spec : Yaml.Value)
  /-- The role that grants the use of a policy. -/
  | policyRole (name : String)
  | account (name : String)
  | binding (grant : Grant)

/-- The document of a grant. -/
def grantNode (s : Settings) (g : Grant) : Node :=
  match g.right with
  | .role name => roleBinding s g.account name
  | .clusterRole name | .policy name => clusterRoleBinding s g.account name

/-- The document of an object. -/
def Object.node (s : Settings) : Object → Node
  | role name rules => Access.role s name rules
  | clusterRole name rules => Access.clusterRole s name rules
  | policy name spec => podSecurityPolicy s name spec
  | policyRole name => Access.policyRole s name
  | account name => serviceAccount s name
  | binding grant => grantNode s grant

/-- The objects of an account: the account itself, unless it is there already, and its bindings. -/
def accountObjects (account : String) (g : Grants) : List Object :=
  (if account = defaultAccount then [] else [.account account])
    ++ g.rights.map fun right => .binding ⟨account, right⟩

end Access

namespace Authorization

variable (a : Authorization)

/-- The objects of what the section declares. -/
def declaredObjects : List Access.Object :=
  (a.roles.map fun entry => .role entry.1 entry.2)
    ++ (a.clusterRoles.map fun entry => .clusterRole entry.1 entry.2)
    ++ a.podSecurityPolicies.flatMap fun entry => [.policy entry.1 entry.2, .policyRole entry.1]

/-- The objects of a section: what it declares, then account by account. -/
def objects : List Access.Object :=
  a.declaredObjects ++ a.accounts.flatMap fun entry => Access.accountObjects entry.1 entry.2

end Authorization

namespace Access

variable {s : Settings} {a : Authorization}

/-- All documents of a section, file by file. -/
def documents (s : Settings) (a : Authorization) : List Node := (authFiles s a).flatMap (·.documents)

theorem map_node_accountObjects (s : Settings) (account : String) (g : Grants) :
    (accountObjects account g).map (·.node s) = accountDocuments s account g := by
  have hlocal : g.roles.map (fun name => grantNode s ⟨account, .role name⟩)
      = g.roles.map (roleBinding s account) := rfl
  have hcluster (names : List String) : names.map (fun name => grantNode s ⟨account, .clusterRole name⟩)
      = names.map (clusterRoleBinding s account) := rfl
  have hpolicy (names : List String) : names.map (fun name => grantNode s ⟨account, .policy name⟩)
      = names.map (clusterRoleBinding s account) := rfl
  unfold accountObjects accountDocuments Grants.rights
  split <;> simp [Object.node, Function.comp_def, hlocal, hcluster, hpolicy]

/-- Files without documents add nothing. -/
theorem flatMap_documents_filter (files : List AuthFile) :
    (files.filter fun file => !file.documents.isEmpty).flatMap (·.documents)
      = files.flatMap (·.documents) := by
  induction files with
  | nil => rfl
  | cons file files ih =>
    rw [List.filter_cons, List.flatMap_cons, ← ih]
    split
    · rw [List.flatMap_cons]
    · next h =>
      have hempty : file.documents = [] := by simpa using h
      rw [hempty, List.nil_append]

/-- The documents of a section are those of its objects. There are none where the cluster does not use
them. -/
theorem documents_eq (s : Settings) (a : Authorization) :
    documents s a = if s.emitsRbac then a.objects.map (·.node s) else [] := by
  unfold documents authFiles
  cases s.emitsRbac with
  | false => rfl
  | true =>
    simp only [Bool.not_true, Bool.false_eq_true, if_false, if_true, List.flatMap_append,
      flatMap_documents_filter, List.flatMap_map, Authorization.objects, Authorization.declaredObjects,
      List.map_append, List.map_map, List.map_flatMap, map_node_accountObjects]
    simp [List.map_eq_flatMap, Object.node]

/-! ## What a document says -/

/-- The kind and the name of a document, as they stand there. -/
structure Title where
  kind : Option Node
  name : Option Node
deriving DecidableEq

/-- The title of an object of this kind and this name. -/
def Title.of (kind : Kind) (name : String) : Title := ⟨some (.string kind.word), some (.string name)⟩

/-- The title of a document. -/
def title (n : Node) : Title := ⟨n.get? ["kind"], n.get? ["metadata", "name"]⟩

/-- Whom a binding is for. -/
structure Subject where
  kind : Option Node
  name : Option Node
  namespaceName : Option Node
deriving DecidableEq

/-- A binding: whom it is for, and the title of what it refers to. -/
structure Binding where
  title : Title
  subjects : List Subject
  apiGroup : Option Node
  target : Title
deriving DecidableEq

/-- What a document says as a binding. -/
def bindingOf (n : Node) : Binding where
  title := title n
  subjects := (n.listAt ["subjects"]).map fun subject =>
    ⟨subject.get? ["kind"], subject.get? ["name"], subject.get? ["namespace"]⟩
  apiGroup := n.get? ["roleRef", "apiGroup"]
  target := ⟨n.get? ["roleRef", "kind"], n.get? ["roleRef", "name"]⟩

/-- Whether a document is of a kind. -/
def isOfKind (kind : Kind) (n : Node) : Bool := n.get? ["kind"] = some (.string kind.word)

/-- Whether a document is a binding. -/
def isBinding (n : Node) : Bool := isOfKind .roleBinding n || isOfKind .clusterRoleBinding n

/-! ## Names -/

/-- The kind of the binding to what is granted. -/
def Right.bindingKind : Right → Kind
  | role _ => .roleBinding
  | clusterRole _ | policy _ => .clusterRoleBinding

/-- The name of the binding of a grant. -/
def Grant.bindingName (s : Settings) (g : Grant) : String :=
  match g.right with
  | .role name => g.account ++ "-" ++ name ++ "-binding"
  | .clusterRole name | .policy name => clusterBindingName s g.account name

namespace Object

/-- The kind of an object. -/
def kind : Object → Kind
  | role _ _ => .role
  | clusterRole _ _ | policyRole _ => .clusterRole
  | policy _ _ => .podSecurityPolicy
  | account _ => .serviceAccount
  | binding grant => grant.right.bindingKind

/-- The name of an object. -/
def name (s : Settings) : Object → String
  | role name _ | account name => name
  | clusterRole name _ | policyRole name => clusterRoleName s name
  | policy name _ => policyName s name
  | binding grant => grant.bindingName s

end Object

@[simp] theorem get?_gated (s : Settings) (m : Mapping) (name : String) (rest : List String) :
    (gated s m).get? (name :: rest) = (Node.entries m).get? (name :: rest) := by
  unfold gated
  cases s.chart <;> simp

@[simp] theorem title_withBlock (block : String) (n : Node) : title (n.withBlock block) = title n := by
  simp [title]

theorem title_gated (s : Settings) (apiVersion : String) (kind : Kind) (name : String) (rest : Mapping) :
    title (gated s (newObject apiVersion kind.word (objectMetadata s name none) ++ rest))
      = .of kind name := by
  simp [title, Title.of, newObject, objectMetadata]

/-- A document has the kind and the name of its object. -/
theorem title_node (s : Settings) (o : Object) : title (o.node s) = .of o.kind (o.name s) := by
  cases o with
  | role name rules => exact title_gated s apiVersion .role name _
  | clusterRole name rules => exact title_gated s apiVersion .clusterRole (clusterRoleName s name) _
  | policy name spec =>
    -- a policy of a chart has a second block, which the title does not see
    have hinner := title_gated s "policy/v1beta1" .podSecurityPolicy (policyName s name)
      [("spec", .ofValue spec)]
    change title (podSecurityPolicy s name spec) = _
    unfold podSecurityPolicy
    simp only
    split
    · rwa [title_withBlock]
    · exact hinner
  | policyRole name => exact title_gated s apiVersion .clusterRole (clusterRoleName s name) _
  | account name =>
    have hinner := title_gated s "v1" .serviceAccount name []
    rwa [List.append_nil] at hinner
  | binding grant =>
    obtain ⟨account, right⟩ := grant
    cases right with
    | role name => exact title_gated s apiVersion .roleBinding _ _
    | clusterRole name => exact title_gated s apiVersion .clusterRoleBinding _ _
    | policy name => exact title_gated s apiVersion .clusterRoleBinding _ _

/-! ## Bindings -/

/-- The title of the role that a grant is about. -/
def Grant.target (s : Settings) (g : Grant) : Title :=
  match g.right with
  | .role name => .of .role name
  | .clusterRole name | .policy name => .of .clusterRole (clusterRoleName s name)

/-- The binding of a grant: it is for the account, in the namespace of the build, and refers to the role. -/
def Grant.binding (s : Settings) (g : Grant) : Binding where
  title := .of (g.right.bindingKind) (g.bindingName s)
  subjects := [⟨some (.string "ServiceAccount"), some (.string g.account), some (.string (namespaceOf s))⟩]
  apiGroup := some (.string apiGroup)
  target := g.target s

theorem bindingOf_gated (s : Settings) (kind targetKind : Kind) (name account target : String) :
    bindingOf (gated s (head s kind.word name ++ [("subjects", subjects s account),
      ("roleRef", roleRef targetKind.word target)])) =
    { title := .of kind name
      subjects := [⟨some (.string "ServiceAccount"), some (.string account), some (.string (namespaceOf s))⟩]
      apiGroup := some (.string apiGroup)
      target := .of targetKind target } := by
  unfold bindingOf
  rw [head, title_gated]
  simp [Node.listAt, newObject, subjects, roleRef, Title.of]

/-- The document of a grant is its binding. -/
theorem bindingOf_node (s : Settings) (g : Grant) : bindingOf ((Object.binding g).node s) = g.binding s := by
  obtain ⟨account, right⟩ := g
  cases right with
  | role name => exact bindingOf_gated s .roleBinding .role _ account _
  | clusterRole name => exact bindingOf_gated s .clusterRoleBinding .clusterRole _ account _
  | policy name => exact bindingOf_gated s .clusterRoleBinding .clusterRole _ account _

/-! ## The condition of a chart -/

theorem block?_gated (hs : s.chart = true) (m : Mapping) :
    (gated s m).block? = some "if eq .Values.kube.auth \"rbac\"" := by
  simp only [gated, hs, if_true, Node.block?, Node.blocks_withBlock, Node.blocks_entries, List.nil_append,
    List.head?_cons]
  rfl

/-- In a chart the condition that the cluster authorizes by roles is around everything else. -/
theorem block?_node (hs : s.chart = true) (o : Object) :
    (o.node s).block? = some "if eq .Values.kube.auth \"rbac\"" := by
  cases o with
  | policy name spec =>
    have hinner := block?_gated hs
      (newObject "policy/v1beta1" "PodSecurityPolicy" (objectMetadata s (policyName s name) none)
        ++ [("spec", .ofValue spec)])
    change (podSecurityPolicy s name spec).block? = _
    unfold podSecurityPolicy
    simp only [hs, if_true]
    rw [Node.block?, List.head?_eq_some_iff] at hinner ⊢
    obtain ⟨rest, hrest⟩ := hinner
    exact ⟨_, by rw [Node.blocks_withBlock, hrest, List.cons_append]⟩
  | binding grant =>
    obtain ⟨account, right⟩ := grant
    cases right <;> exact block?_gated hs _
  | _ => exact block?_gated hs _

/-! ## The objects of a section by kind -/

theorem isOfKind_node (s : Settings) (kind : Kind) (o : Object) :
    isOfKind kind (o.node s) = (o.kind == kind) := by
  have hkind : (o.node s).get? ["kind"] = some (.string o.kind.word) := congrArg Title.kind (title_node s o)
  rw [isOfKind, hkind, Bool.eq_iff_iff]
  simp [Kind.string_word_inj]

/-- Whether the object is a binding. -/
def Object.isBinding : Object → Bool
  | binding _ => true
  | _ => false

/-- Whether the object is an account. -/
def Object.isAccount : Object → Bool
  | account _ => true
  | _ => false

theorem isBinding_node (s : Settings) (o : Object) : isBinding (o.node s) = o.isBinding := by
  rw [isBinding, isOfKind_node, isOfKind_node]
  cases o with
  | binding grant =>
    obtain ⟨account, right⟩ := grant
    cases right <;> rfl
  | _ => rfl

theorem isAccount_node (s : Settings) (o : Object) : isOfKind .serviceAccount (o.node s) = o.isAccount := by
  rw [isOfKind_node]
  cases o with
  | binding grant =>
    obtain ⟨account, right⟩ := grant
    cases right <;> rfl
  | _ => rfl

end Access

namespace Authorization

open Access

variable (a : Authorization)

/-- The accounts that have to be made. -/
def madeAccounts : List String := (a.accounts.map Prod.fst).filter (· ≠ defaultAccount)

theorem filter_objects (p : Object → Bool) :
    a.objects.filter p = a.declaredObjects.filter p
      ++ a.accounts.flatMap fun entry => (accountObjects entry.1 entry.2).filter p := by
  rw [objects, List.filter_append, List.filter_flatMap]

theorem not_isBinding_of_mem_declaredObjects {o : Object} (h : o ∈ a.declaredObjects) :
    o.isBinding = false ∧ o.isAccount = false := by
  simp only [declaredObjects, List.mem_append, List.mem_map, List.mem_flatMap, List.mem_cons,
    List.not_mem_nil, or_false] at h
  obtain (⟨_, _, rfl⟩ | ⟨_, _, rfl⟩) | ⟨_, _, rfl | rfl⟩ := h <;> exact ⟨rfl, rfl⟩

theorem filter_isBinding_objects : a.objects.filter Object.isBinding = a.grants.map .binding := by
  have hdeclared : a.declaredObjects.filter Object.isBinding = [] :=
    List.filter_eq_nil_iff.2 fun o ho => by simp [(a.not_isBinding_of_mem_declaredObjects ho).1]
  have haccount (account : String) (g : Grants) : (accountObjects account g).filter Object.isBinding
      = (g.rights.map (Grant.mk account)).map .binding := by
    have hbindings : (g.rights.map fun right => Object.binding ⟨account, right⟩).filter Object.isBinding
        = g.rights.map fun right => .binding ⟨account, right⟩ :=
      List.filter_eq_self.2 (by simp [Object.isBinding])
    rw [accountObjects, List.filter_append, hbindings, List.map_map]
    split <;> rfl
  simp only [filter_objects, hdeclared, List.nil_append, grants, List.map_flatMap, haccount]

theorem filter_isAccount_objects : a.objects.filter Object.isAccount = a.madeAccounts.map .account := by
  have hdeclared : a.declaredObjects.filter Object.isAccount = [] :=
    List.filter_eq_nil_iff.2 fun o ho => by simp [(a.not_isBinding_of_mem_declaredObjects ho).2]
  have haccount (account : String) (g : Grants) : (accountObjects account g).filter Object.isAccount
      = ([account].filter (· ≠ defaultAccount)).map .account := by
    have hbindings :
        (g.rights.map fun right => Object.binding ⟨account, right⟩).filter Object.isAccount = [] :=
      List.filter_eq_nil_iff.2 (by simp [Object.isAccount])
    rw [accountObjects, List.filter_append, hbindings, List.append_nil]
    split <;> simp_all [Object.isAccount]
  simp only [filter_objects, hdeclared, List.nil_append, haccount, madeAccounts, List.map_eq_flatMap,
    List.filter_flatMap, List.flatMap_assoc]

theorem filter_declared_objects :
    a.objects.filter (fun o => !o.isBinding && !o.isAccount) = a.declaredObjects := by
  have hdeclared : a.declaredObjects.filter (fun o => !o.isBinding && !o.isAccount) = a.declaredObjects :=
    List.filter_eq_self.2 fun o ho => by simp [a.not_isBinding_of_mem_declaredObjects ho]
  have haccount (account : String) (g : Grants) :
      (accountObjects account g).filter (fun o => !o.isBinding && !o.isAccount) = [] := by
    refine List.filter_eq_nil_iff.2 fun o ho => ?_
    rw [accountObjects, List.mem_append, List.mem_map] at ho
    obtain ho | ⟨right, -, rfl⟩ := ho
    · split at ho
      · exact absurd ho List.not_mem_nil
      · simp [List.mem_singleton.1 ho, Object.isAccount]
    · simp [Object.isBinding]
  have hnone : (a.accounts.flatMap fun entry => (accountObjects entry.1 entry.2).filter
      fun o => !o.isBinding && !o.isAccount) = [] :=
    List.flatMap_eq_nil_iff.2 fun entry _ => haccount entry.1 entry.2
  rw [filter_objects, hdeclared, hnone, List.append_nil]

/-- Grants come account by account, in the order of the names. -/
theorem pairwise_grants {a : Authorization} (ha : a.Sorted) :
    a.grants.Pairwise fun g g' => g.account ≤ g'.account := by
  refine List.pairwise_flatMap.2 ⟨fun entry _ => ?_, ?_⟩
  · exact List.pairwise_map.2 (List.pairwise_of_forall fun _ _ => Std.le_refl entry.1)
  · refine (List.pairwise_map.1 ha.accounts).imp fun {entry entry'} hlt g hg g' hg' => ?_
    obtain ⟨_, -, rfl⟩ := List.mem_map.1 hg
    obtain ⟨_, -, rfl⟩ := List.mem_map.1 hg'
    exact Std.le_of_lt hlt

/-- What the section declares is among its objects. -/
theorem exists_target {a : Authorization} {g : Grant} (s : Settings) (h : a.Declares g.right) :
    ∃ o ∈ a.objects, Title.of o.kind (o.name s) = g.target s := by
  obtain ⟨account, right⟩ := g
  cases right with
  | role name =>
    obtain ⟨entry, hentry, rfl⟩ := List.mem_map.1 h
    exact ⟨.role entry.1 entry.2, by simp [objects, declaredObjects, hentry], rfl⟩
  | clusterRole name =>
    obtain ⟨entry, hentry, rfl⟩ := List.mem_map.1 h
    exact ⟨.clusterRole entry.1 entry.2, by simp [objects, declaredObjects, hentry], rfl⟩
  | policy name =>
    obtain ⟨entry, hentry, rfl⟩ := List.mem_map.1 h
    have ho : Object.policyRole entry.1 ∈ a.podSecurityPolicies.flatMap fun entry =>
        [Object.policy entry.1 entry.2, .policyRole entry.1] :=
      List.mem_flatMap.2 ⟨entry, hentry, by simp⟩
    exact ⟨.policyRole entry.1, by
      simp only [objects, declaredObjects, List.mem_append, ho, or_true, true_or], rfl⟩

end Authorization

namespace Access

variable {s : Settings} {a : Authorization}

/-! ## Nothing more and nothing less than what is granted -/

/-- Whether documents grant what a section does. Their bindings are those of its grants, one for each, and
account by account. What a binding refers to is there if it is declared. Every account but the one that is
there already is made once, and all else is for what the section declares. In a chart everything stands
behind the condition. -/
structure Realizes (s : Settings) (a : Authorization) (nodes : List Node) : Prop where
  bindings : (nodes.filter isBinding).map bindingOf = a.grants.map (·.binding s)
  order : a.grants.Pairwise fun g g' => g.account ≤ g'.account
  targets : ∀ g ∈ a.grants, a.Declares g.right → g.target s ∈ nodes.map title
  accounts : (nodes.filter (isOfKind .serviceAccount)).map title = a.madeAccounts.map (.of .serviceAccount)
  once : a.madeAccounts.Nodup
  others : (nodes.filter fun n => !isBinding n && !isOfKind .serviceAccount n)
    = a.declaredObjects.map (·.node s)
  gate : s.chart = true → ∀ n ∈ nodes, n.block? = some "if eq .Values.kube.auth \"rbac\""

/-- The authorization documents grant what the section does. There are none where the cluster does not use
them. -/
theorem documents_realize (s : Settings) (ha : a.Sorted) :
    (s.emitsRbac = true → Realizes s a (documents s a)) ∧ (s.emitsRbac = false → authFiles s a = []) := by
  refine ⟨fun hs => ?_, fun hs => by simp [authFiles, hs]⟩
  have hnodes : documents s a = a.objects.map (·.node s) := by rw [documents_eq, if_pos hs]
  have hbinding : (isBinding ∘ fun o : Object => o.node s) = Object.isBinding := funext (isBinding_node s)
  have haccount : (isOfKind .serviceAccount ∘ fun o : Object => o.node s) = Object.isAccount :=
    funext (isAccount_node s)
  have hother : ((fun n => !isBinding n && !isOfKind .serviceAccount n) ∘ fun o : Object => o.node s)
      = fun o => !o.isBinding && !o.isAccount :=
    funext fun o => by simp [isBinding_node, isAccount_node]
  rw [hnodes]
  constructor
  case bindings =>
    rw [List.filter_map, hbinding, a.filter_isBinding_objects, List.map_map, List.map_map]
    exact List.map_congr_left fun g _ => bindingOf_node s g
  case order => exact Authorization.pairwise_grants ha
  case targets =>
    intro g _ hdeclared
    obtain ⟨o, ho, htitle⟩ := Authorization.exists_target s hdeclared
    exact List.mem_map.2 ⟨o.node s, List.mem_map_of_mem ho, (title_node s o).trans htitle⟩
  case accounts =>
    rw [List.filter_map, haccount, a.filter_isAccount_objects, List.map_map, List.map_map]
    exact List.map_congr_left fun account _ => title_node s (.account account)
  case once => exact ha.accounts.nodup.filter _
  case others => rw [List.filter_map, hother, a.filter_declared_objects]
  case gate =>
    intro hchart n hn
    obtain ⟨o, -, rfl⟩ := List.mem_map.1 hn
    exact block?_node hchart o

/-- A role, a cluster role and a policy, each of them granted once. -/
def nodesReaderSection : Authorization where
  roles := [("configgin", [{ apiGroups := [""], resources := ["pods"], verbs := ["get", "list", "patch"] }])]
  clusterRoles := [("nodes-reader",
    [{ apiGroups := [""], resources := ["nodes"], verbs := ["get"], resourceNames := ["node-1"] }])]
  podSecurityPolicies := [("privileged", .mapping [(.string "privileged", .bool true)])]
  accounts := [
    ("configgin-role", { roles := ["configgin"], clusterRoles := ["nodes-reader"] }),
    ("default", { podSecurityPolicy := some "privileged" })]

theorem sorted_nodesReaderSection : nodesReaderSection.Sorted where
  roles := List.pairwise_singleton _ _
  clusterRoles := List.pairwise_singleton _ _
  podSecurityPolicies := List.pairwise_singleton _ _
  accounts := by
    have hnames : ["configgin-role", "default"].Pairwise (· < ·) := by decide
    exact hnames

theorem documents_realize_nodesReader :
    Realizes { chart := true } nodesReaderSection (documents { chart := true } nodesReaderSection) ∧
      authFiles { authMode := .none } nodesReaderSection = [] :=
  ⟨(documents_realize { chart := true } sorted_nodesReaderSection).1 rfl,
    (documents_realize { authMode := .none } sorted_nodesReaderSection).2 rfl⟩

end Access

end RoleChart
