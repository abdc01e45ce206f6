import RoleChart.Proofs.Access.Names

/-!
# Installations that share a cluster

What belongs to the whole cluster has the namespace in front of its name, with a dash behind it. Where one
namespace is another one with a dash and more behind it, a name can be split after either of them, and an
object of one installation can have the title of an object of the other.

## Main statements

* `Access.shared_iff` — two installations without a chart come to the same title exactly where the namespaces
  split one name in two ways, or where a name is the quoted form of another one
* `Access.shared_iff_and_not_of_apart` — so they do not if neither namespace is the other with a dash and
  more behind it, and neither begins with a quote
-/

namespace RoleChart.Access

open Document

variable {s s' : Settings} {a a' : Authorization}

/-! ## Names behind the namespace -/

/-- What stands behind the namespace and a dash in the name of an object that belongs to the whole cluster. -/
def Object.suffix? : Object → Option String
  | clusterRole name _ | policyRole name => some ("cluster-role-" ++ name)
  | policy name _ => some ("psp-" ++ name)
  | binding ⟨_, .role _⟩ => none
  | binding grant => some (grant.joined ++ "-cluster-binding")
  | role _ _ | account _ => none

/-- Whether a document belongs to the whole cluster. -/
def isClusterWide (n : Node) : Bool :=
  isOfKind .clusterRole n || isOfKind .clusterRoleBinding n || isOfKind .podSecurityPolicy n

theorem isClusterWide_node (s : Settings) (o : Object) : isClusterWide (o.node s) = o.suffix?.isSome := by
  rw [isClusterWide, isOfKind_node, isOfKind_node, isOfKind_node]
  cases o with
  | binding grant =>
    obtain ⟨account, right⟩ := grant
    cases right <;> rfl
  | _ => rfl

theorem clusterRoleName_eq (s : Settings) (name : String) :
    clusterRoleName s name = namespaceOf s ++ "-" ++ ("cluster-role-" ++ name) := by
  have hdash : "-cluster-role-" = "-" ++ "cluster-role-" := by decide
  simp only [clusterRoleName, hdash, String.append_assoc]

theorem policyName_eq (s : Settings) (name : String) :
    policyName s name = namespaceOf s ++ "-" ++ ("psp-" ++ name) := by
  have hdash : "-psp-" = "-" ++ "psp-" := by decide
  simp only [policyName, hdash, String.append_assoc]

theorem Object.name_of_suffix? {o : Object} {x : String} (h : o.suffix? = some x) (s : Settings) :
    o.name s = namespaceOf s ++ "-" ++ x := by
  cases o with
  | role name rules => cases h
  | clusterRole name rules =>
    obtain rfl := Option.some.inj h
    exact clusterRoleName_eq s name
  | policy name spec =>
    obtain rfl := Option.some.inj h
    exact policyName_eq s name
  | policyRole name =>
    obtain rfl := Option.some.inj h
    exact clusterRoleName_eq s name
  | account name => cases h
  | binding grant =>
    obtain ⟨account, right⟩ := grant
    cases right with
    | role name => cases h
    | _ =>
      obtain rfl := Option.some.inj h
      simp only [name, Grant.bindingName, clusterBindingName, Grant.joined, Right.name, String.append_assoc]

/-! ## Names that are split in two ways -/

/-- Two texts with a dash inside, split at different places. -/
theorem append_dash_eq_iff {m n x y : String} (hne : m ≠ n) :
    m ++ "-" ++ x = n ++ "-" ++ y ↔
      (∃ d, n = m ++ "-" ++ d ∧ x = d ++ "-" ++ y) ∨ (∃ d, m = n ++ "-" ++ d ∧ y = d ++ "-" ++ x) := by
  have hlonger {m n x y : String} (hne : m ≠ n) {c : List Char} (hn : n.toList = m.toList ++ c)
      (hx : '-' :: x.toList = c ++ '-' :: y.toList) : ∃ d, n = m ++ "-" ++ d ∧ x = d ++ "-" ++ y := by
    -- `c` is what the longer text has more; it takes the dash of the other side along
    cases c with
    | nil => exact absurd (String.toList_inj.1 (by rw [hn, List.append_nil])) hne
    | cons dash d =>
      obtain rfl : '-' = dash := (List.cons.inj hx).1
      have hx : x.toList = d ++ '-' :: y.toList := (List.cons.inj hx).2
      exact ⟨String.ofList d, String.toList_inj.1 (by simp [hn]), String.toList_inj.1 (by simp [hx])⟩
  constructor
  · intro h
    have hlists : m.toList ++ '-' :: x.toList = n.toList ++ '-' :: y.toList := by
      simpa using congrArg String.toList h
    rcases List.append_eq_append_iff.1 hlists with ⟨c, hn, hx⟩ | ⟨c, hm, hy⟩
    · exact .inl (hlonger hne hn hx)
    · exact .inr (hlonger hne.symm hm hy)
  · rintro (⟨d, rfl, rfl⟩ | ⟨d, rfl, rfl⟩) <;> simp only [String.append_assoc]

/-- Whether the names of two objects of the whole cluster are one text that is split after different
namespaces: the longer namespace ends inside what is behind the shorter one. -/
def Resplit (shorter longer : String) (o o' : Object) : Prop :=
  ∃ d x, longer = shorter ++ "-" ++ d ∧ o.suffix? = some (d ++ "-" ++ x) ∧ o'.suffix? = some x

theorem name_eq_iff_resplit (hs : s.chart = false) (hs' : s'.chart = false)
    (hne : s.namespaceName ≠ s'.namespaceName) {o o' : Object} {x y : String} (hx : o.suffix? = some x)
    (hy : o'.suffix? = some y) :
    o.name s = o'.name s' ↔
      Resplit s.namespaceName s'.namespaceName o o' ∨ Resplit s'.namespaceName s.namespaceName o' o := by
  have hnamespace {s : Settings} (hs : s.chart = false) : namespaceOf s = s.namespaceName := by
    simp [namespaceOf, hs]
  rw [Object.name_of_suffix? hx, Object.name_of_suffix? hy, hnamespace hs, hnamespace hs',
    append_dash_eq_iff hne, Resplit, Resplit, hx, hy]
  simp

/-! ## Two installations -/

/-- Whether two installations have a document of the whole cluster with the same title. -/
def Shared (s : Settings) (a : Authorization) (s' : Settings) (a' : Authorization) : Prop :=
  ∃ n ∈ documents s a, ∃ n' ∈ documents s' a', isClusterWide n = true ∧ title n = title n'

theorem mem_documents {n : Node} :
    n ∈ documents s a ↔ s.emitsRbac = true ∧ ∃ o ∈ a.objects, o.node s = n := by
  rw [documents_eq]
  split <;> simp_all

/-- How objects of two installations come to the same title. -/
inductive Overlap (s s' : Settings) (o o' : Object) : Prop
  /-- The namespaces split one name in two ways. -/
  | resplit (h : Resplit s.namespaceName s'.namespaceName o o' ∨
      Resplit s'.namespaceName s.namespaceName o' o)
  /-- One name is the quoted form of the other. -/
  | quoted (hwide : o.suffix?.isSome) (h : IsQuotedForm (o.name s).toList (o'.name s').toList ∨
      IsQuotedForm (o'.name s').toList (o.name s).toList)

theorem suffix?_isSome_iff_of_kind_eq {o o' : Object} (h : o.kind = o'.kind) :
    o.suffix?.isSome = o'.suffix?.isSome := by
  rw [← isClusterWide_node default, ← isClusterWide_node default, isClusterWide, isClusterWide]
  simp only [isOfKind_node, h]

theorem title_eq_iff_overlap (hs : s.chart = false) (hs' : s'.chart = false)
    (hne : s.namespaceName ≠ s'.namespaceName) {o o' : Object} :
    isClusterWide (o.node s) = true ∧ title (o.node s) = title (o'.node s') ↔
      o.kind = o'.kind ∧ Overlap s s' o o' := by
  rw [isClusterWide_node, title_node, title_node, Title.of_eq_of_iff]
  constructor
  · rintro ⟨hwide, hkind, hname | hquoted⟩
    · obtain ⟨x, hx⟩ := Option.isSome_iff_exists.1 hwide
      obtain ⟨y, hy⟩ := Option.isSome_iff_exists.1 (suffix?_isSome_iff_of_kind_eq hkind ▸ hwide)
      exact ⟨hkind, .resplit ((name_eq_iff_resplit hs hs' hne hx hy).1 hname)⟩
    · exact ⟨hkind, .quoted hwide hquoted⟩
  · rintro ⟨hkind, hresplit | ⟨hwide, hquoted⟩⟩
    · obtain ⟨x, y, hx, hy⟩ : ∃ x y, o.suffix? = some x ∧ o'.suffix? = some y := by
        obtain ⟨d, x, -, h, h'⟩ | ⟨d, x, -, h, h'⟩ := hresplit
        · exact ⟨_, _, h, h'⟩
        · exact ⟨_, _, h', h⟩
      exact ⟨by rw [hx]; rfl, hkind, .inl ((name_eq_iff_resplit hs hs' hne hx hy).2 hresplit)⟩
    · exact ⟨hwide, hkind, .inr hquoted⟩

/-- Two installations share a title exactly where both have objects that overlap. -/
theorem shared_iff (hs : s.chart = false) (hs' : s'.chart = false)
    (hne : s.namespaceName ≠ s'.namespaceName) :
    Shared s a s' a' ↔ s.emitsRbac = true ∧ s'.emitsRbac = true ∧
      ∃ o ∈ a.objects, ∃ o' ∈ a'.objects, o.kind = o'.kind ∧ Overlap s s' o o' := by
  simp only [Shared, mem_documents, ← title_eq_iff_overlap hs hs' hne]
  constructor
  · rintro ⟨n, ⟨hemits, o, ho, rfl⟩, n', ⟨hemits', o', ho', rfl⟩, h⟩
    exact ⟨hemits, hemits', o, ho, o', ho', h⟩
  · rintro ⟨hemits, hemits', o, ho, o', ho', h⟩
    exact ⟨_, ⟨hemits, o, ho, rfl⟩, _, ⟨hemits', o', ho', rfl⟩, h⟩

/-! ## Namespaces that keep installations apart -/

/-- Whether neither namespace is the other with a dash and more behind it, and neither begins with a quote. -/
structure Apart (m n : String) : Prop where
  not_longer : ∀ d, n ≠ m ++ "-" ++ d
  not_shorter : ∀ d, m ≠ n ++ "-" ++ d
  unquoted : m.toList.head? ≠ some '"' ∧ n.toList.head? ≠ some '"'

/-- A name that begins with a quote has it from the namespace. -/
theorem head?_namespaceName (hs : s.chart = false) {o : Object} {x : String} (hx : o.suffix? = some x)
    {t : List Char} (h : (o.name s).toList = doubleQuoted t) : s.namespaceName.toList.head? = some '"' := by
  rw [Object.name_of_suffix? hx, namespaceOf, if_neg (by simp [hs])] at h
  have hhead := congrArg List.head? h
  simp only [String.toList_append, List.head?_append, doubleQuoted, List.cons_append, List.head?_cons]
    at hhead
  cases hnamespace : s.namespaceName.toList.head? with
  | none =>
    rw [hnamespace] at hhead
    exact absurd hhead (by simp)
  | some c =>
    rw [hnamespace] at hhead
    simpa using hhead

theorem not_overlap_of_apart (hs : s.chart = false) (hs' : s'.chart = false)
    (h : Apart s.namespaceName s'.namespaceName) {o o' : Object} (hkind : o.kind = o'.kind) :
    ¬ Overlap s s' o o' := by
  rintro ((⟨d, x, hlonger, -⟩ | ⟨d, x, hshorter, -⟩) | ⟨hwide, hquoted⟩)
  · exact h.not_longer d hlonger
  · exact h.not_shorter d hshorter
  · obtain ⟨x, hx⟩ := Option.isSome_iff_exists.1 hwide
    obtain ⟨y, hy⟩ := Option.isSome_iff_exists.1 (suffix?_isSome_iff_of_kind_eq hkind ▸ hwide)
    obtain ⟨-, -, hname⟩ | ⟨-, -, hname⟩ := hquoted
    · exact h.unquoted.1 (head?_namespaceName hs hx hname)
    · exact h.unquoted.2 (head?_namespaceName hs' hy hname)

/-- Two installations without a chart share a title exactly where both have objects that overlap. They do not
where their namespaces are apart. -/
theorem shared_iff_and_not_of_apart (hs : s.chart = false) (hs' : s'.chart = false)
    (hne : s.namespaceName ≠ s'.namespaceName) :
    (Shared s a s' a' ↔ s.emitsRbac = true ∧ s'.emitsRbac = true ∧
        ∃ o ∈ a.objects, ∃ o' ∈ a'.objects, o.kind = o'.kind ∧ Overlap s s' o o') ∧
      (Apart s.namespaceName s'.namespaceName → ¬ Shared s a s' a') := by
  refine ⟨shared_iff hs hs' hne, fun hapart hshared => ?_⟩
  obtain ⟨-, -, o, -, o', -, hkind, hoverlap⟩ := (shared_iff hs hs' hne).1 hshared
  exact not_overlap_of_apart hs hs' hapart hkind hoverlap

/-- An account that may read nodes. -/
def readerSection (account : String) : Authorization where
  clusterRoles := [("reader", [{ apiGroups := [""], resources := ["nodes"], verbs := ["get"] }])]
  accounts := [(account, { clusterRoles := ["reader"] })]

/-- The account `dev-api` of one namespace and the account `api` of another one that goes on with `-dev` have
a binding of the same name. With an unlike namespace nothing is shared. -/
theorem shared_devApi :
    Shared { namespaceName := "cf" } (readerSection "dev-api") { namespaceName := "cf-dev" }
        (readerSection "api") ∧
      ¬ Shared { namespaceName := "cf" } (readerSection "dev-api") { namespaceName := "uaa" }
        (readerSection "api") := by
  have hbinding (account : String) (h : account ≠ defaultAccount) :
      Object.binding ⟨account, .clusterRole "reader"⟩ ∈ (readerSection account).objects := by
    simp [readerSection, Authorization.objects, Authorization.declaredObjects, accountObjects,
      Grants.rights, h]
  have hresplit : Resplit "cf" "cf-dev" (.binding ⟨"dev-api", .clusterRole "reader"⟩)
      (.binding ⟨"api", .clusterRole "reader"⟩) :=
    ⟨"dev", "api-reader-cluster-binding", by decide, by decide, by decide⟩
  have hapart : Apart "cf" "uaa" := by
    refine ⟨fun d h => ?_, fun d h => ?_, by decide⟩
    · exact absurd (congrArg String.toList h) (by simp)
    · exact absurd (congrArg String.toList h) (by simp)
  constructor
  · exact (shared_iff_and_not_of_apart rfl rfl (by decide)).1.2
      ⟨rfl, rfl, _, hbinding "dev-api" (by decide), _, hbinding "api" (by decide), rfl,
        .resplit (.inl hresplit)⟩
  · exact (shared_iff_and_not_of_apart rfl rfl (by decide)).2 hapart

end RoleChart.Access
