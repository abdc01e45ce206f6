import RoleChart.Document.OfValue
import RoleChart.Manifest.Lookup
import RoleChart.Metadata

/-!
# Authorization objects

Service accounts, roles, bindings and pod security policies. What belongs to the whole cluster carries
the namespace in its name, so that installations can share a cluster. A policy is used through a role
that grants its use.
-/

namespace RoleChart.Access

open Document
open Template (action)

/-- The interface of the objects. -/
def apiVersion : String := "rbac.authorization.k8s.io/v1"

/-- The group of the objects in references. -/
def apiGroup : String := "rbac.authorization.k8s.io"

/-- The namespace of the build. -/
def namespaceOf (s : Settings) : String :=
  if s.chart then action ".Release.Namespace" else s.namespaceName

/-- The name of a cluster role. -/
def clusterRoleName (s : Settings) (name : String) : String :=
  namespaceOf s ++ "-cluster-role-" ++ name

/-- The name of a pod security policy. -/
def policyName (s : Settings) (name : String) : String := namespaceOf s ++ "-psp-" ++ name

/-- The path of the value that names a policy to use instead. -/
def policyPath (name : String) : String := ".Values.kube.psp." ++ varName name

/-- The condition that a cluster authorizes by roles. -/
def rbacCondition : Template.Term := .eq (.path ".Values.kube.auth") (.text "rbac")

/-- Puts the objects of a chart behind the condition. -/
def gated (s : Settings) (m : Mapping) : Node :=
  let node := Node.entries m
  if s.chart then node.withBlock (Template.ifBlock rbacCondition) else node

/-- A list of texts. -/
def texts (values : List String) : Node := .items (values.map Node.string)

/-- A rule. -/
def ruleNode (r : AccessRule) : Node :=
  .entries
    ([("apiGroups", texts r.apiGroups), ("resources", texts r.resources), ("verbs", texts r.verbs)]
      ++ if r.resourceNames.isEmpty then [] else [("resourceNames", texts r.resourceNames)])

/-- The head of an object without a group. -/
def head (s : Settings) (kind name : String) : Mapping :=
  newObject apiVersion kind (objectMetadata s name none)

/-! ## Objects -/

/-- An account. -/
def serviceAccount (s : Settings) (name : String) : Node :=
  gated s (newObject "v1" "ServiceAccount" (objectMetadata s name none))

/-- A role of the namespace. -/
def role (s : Settings) (name : String) (rules : List AccessRule) : Node :=
  gated s (head s "Role" name ++ [("rules", .items (rules.map ruleNode))])

/-- A role of the cluster. -/
def clusterRole (s : Settings) (name : String) (rules : List AccessRule) : Node :=
  gated s (head s "ClusterRole" (clusterRoleName s name) ++ [("rules", .items (rules.map ruleNode))])

/-- The account as the only subject of a binding. -/
def subjects (s : Settings) (account : String) : Node :=
  .items [.entries [("kind", .string "ServiceAccount"), ("name", .string account),
    ("namespace", .string (namespaceOf s))]]

/-- What a binding refers to. -/
def roleRef (kind name : String) : Node :=
  .entries [("apiGroup", .string apiGroup), ("kind", .string kind), ("name", .string name)]

/-- The binding of an account to a role. -/
def roleBinding (s : Settings) (account name : String) : Node :=
  gated s (head s "RoleBinding" (account ++ "-" ++ name ++ "-binding") ++
    [("subjects", subjects s account), ("roleRef", roleRef "Role" name)])

/-- The name of the binding of an account to a cluster role. -/
def clusterBindingName (s : Settings) (account name : String) : String :=
  namespaceOf s ++ "-" ++ account ++ "-" ++ name ++ "-cluster-binding"

/-- The binding of an account to a cluster role. -/
def clusterRoleBinding (s : Settings) (account name : String) : Node :=
  gated s (head s "ClusterRoleBinding" (clusterBindingName s account name) ++
    [("subjects", subjects s account), ("roleRef", roleRef "ClusterRole" (clusterRoleName s name))])

/-- A pod security policy. A chart leaves it out where a value names another to use. -/
def podSecurityPolicy (s : Settings) (name : String) (spec : Yaml.Value) : Node :=
  let node := gated s
    (newObject "policy/v1beta1" "PodSecurityPolicy" (objectMetadata s (policyName s name) none) ++
      [("spec", .ofValue spec)])
  if s.chart then node.withBlock (Template.ifBlock (.not (.path (policyPath name)))) else node

/-- The cluster role that grants the use of a policy. -/
def policyRole (s : Settings) (name : String) : Node :=
  let policy :=
    if s.chart then
      Node.verbatim (action ("default (printf \"%s-psp-" ++ name ++ "\" .Release.Namespace) "
        ++ policyPath name))
    else Node.string (policyName s name)
  let rule := Node.entries [("apiGroups", texts ["policy"]),
    ("resources", texts ["podsecuritypolicies"]), ("verbs", texts ["use"]),
    ("resourceNames", .items [policy])]
  gated s (head s "ClusterRole" (clusterRoleName s name) ++ [("rules", .items [rule])])

/-! ## The documents of a section -/

/-- The name of an output file and its documents. -/
structure AuthFile where
  name : String
  documents : List Node

/-- The account that is there without being made. -/
def defaultAccount : String := "default"

/-- The documents of an account: the account itself, unless it is there already, and a binding for
each grant. -/
def accountDocuments (s : Settings) (account : String) (g : Grants) : List Node :=
  (if account = defaultAccount then [] else [serviceAccount s account])
    ++ g.roles.map (roleBinding s account)
    ++ g.clusterRoles.map (clusterRoleBinding s account)
    ++ g.podSecurityPolicy.toList.map (clusterRoleBinding s account)

/-- All authorization objects by output file. There are none where the cluster does not use them. -/
def authFiles (s : Settings) (a : Authorization) : List AuthFile :=
  if !s.emitsRbac then []
  else
    (a.roles.map fun (name, rules) => ⟨"role-" ++ name, [role s name rules]⟩)
      ++ (a.clusterRoles.map fun (name, rules) =>
        ⟨"cluster-role-" ++ name, [clusterRole s name rules]⟩)
      ++ (a.podSecurityPolicies.map fun (name, spec) =>
        ⟨"psp-" ++ name, [podSecurityPolicy s name spec, policyRole s name]⟩)
      ++ (a.accounts.map fun (name, grants) =>
        AuthFile.mk ("account-" ++ name) (accountDocuments s name grants)).filter
          fun file => !file.documents.isEmpty

end RoleChart.Access
