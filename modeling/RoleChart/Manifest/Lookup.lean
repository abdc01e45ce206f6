import RoleChart.Json
import RoleChart.Manifest.Basic
import RoleChart.Names

/-!
# Finding things in a manifest

Look-ups by name, the variables that a group refers to, and the workload that a group becomes.

## Main statements

* `mem_sortedUnion` — a sorted union has exactly the members of its parts
* `pairwise_sortedUnion` — it is in ascending order, with no name twice
-/

namespace RoleChart

open Text

/-- Names in ascending order, each once. -/
def sortedUnion (names : List String) : List String :=
  (names.mergeSort fun a b => decide (a ≤ b)).eraseDups

theorem mem_sortedUnion (names : List String) (name : String) :
    name ∈ sortedUnion names ↔ name ∈ names := by
  simp [sortedUnion, List.mem_eraseDups, List.mem_mergeSort]

theorem nodup_eraseDups (names : List String) : names.eraseDups.Nodup := by
  match names with
  | [] => exact List.nodup_nil
  | name :: rest =>
    rw [List.eraseDups_cons]
    refine List.nodup_cons.2 ⟨?_, nodup_eraseDups _⟩
    rw [List.mem_eraseDups]
    simp
termination_by names.length
decreasing_by simpa using Nat.lt_succ_of_le (List.length_filter_le _ rest)

theorem pairwise_eraseDups {names : List String} (h : names.Pairwise (· ≤ ·)) :
    names.eraseDups.Pairwise (· ≤ ·) := by
  match names with
  | [] => exact .nil
  | name :: rest =>
    rw [List.eraseDups_cons]
    obtain ⟨first, later⟩ := List.pairwise_cons.1 h
    refine List.pairwise_cons.2 ⟨fun other member => ?_, pairwise_eraseDups (later.filter _)⟩
    exact first other (List.mem_filter.1 (List.mem_eraseDups.1 member)).1
termination_by names.length
decreasing_by simpa using Nat.lt_succ_of_le (List.length_filter_le _ rest)

theorem pairwise_sortedUnion (names : List String) : (sortedUnion names).Pairwise (· < ·) := by
  have sorted : (names.mergeSort fun a b => decide (a ≤ b)).Pairwise (· ≤ ·) := by
    simpa using @List.pairwise_mergeSort String (fun a b => decide (a ≤ b))
      (fun _ _ _ ab bc =>
        decide_eq_true (String.le_trans (of_decide_eq_true ab) (of_decide_eq_true bc)))
      (fun a b => by simpa using String.le_total a b) names
  have both := (pairwise_eraseDups sorted).and (nodup_eraseDups _)
  exact both.imp fun ⟨le, ne⟩ => Std.lt_of_le_of_ne le ne

/-! ## Groups -/

/-- The tag of a service that needs stable identities. -/
def clusteredTag : String := "clustered"

/-- The workload that a group becomes. -/
inductive Workload where
  | deployment
  | statefulSet
  | job
deriving DecidableEq, Repr

/-- The output directory of a workload. -/
def Workload.directory : Workload → String
  | deployment => "deployments"
  | statefulSet => "statefulsets"
  | job => "jobs"

namespace Group

/-- The name as a step of a value path. -/
def varName (g : Group) : String := RoleChart.varName g.name

/-- Whether the group runs under supervision. -/
def isManaged (g : Group) : Bool := g.kind == .service

/-- Whether the group has the tag. -/
def hasTag (g : Group) (tag : String) : Bool := g.tags.contains tag

/-- The variables that the jobs of the group refer to, in order and each once. -/
def variableNames (g : Group) : List String := sortedUnion (g.jobs.flatMap (·.references))

/-- The volumes of one kind. -/
def volumesOf (g : Group) (kind : VolumeKind) : List Volume := g.run.volumes.filter (·.kind == kind)

/-- The volumes that are provided through claims. -/
def claimVolumes (g : Group) : List Volume := g.run.volumes.filter (·.kind.isClaim)

/-- The workload of the group. A service with claims or with the clustered tag keeps its
identities; a colocated group has no workload of its own. -/
def workload? (g : Group) : Option Workload :=
  match g.kind with
  | .colocated => none
  | .task => some .job
  | .service =>
    if !g.claimVolumes.isEmpty || g.hasTag clusteredTag then some .statefulSet else some .deployment

end Group

/-! ## Variables -/

namespace Yaml.Value

/-- Numbers in JSON have a sign on a positive exponent. What is no number or infinite is null. -/
def jsonNumber (x : Decimal.Binary64) : Json :=
  if x.isFinite then .number ({ floatFormat with plus := "+" }.text x) else .null

/-- The name of a member of a JSON object. Only scalars other than null can be names. -/
def jsonKey? : Value → Option String
  | string s => some s
  | bool b => some (if b then "true" else "false")
  | int z => some (intText z)
  | float x => if x.isFinite then some ({ floatFormat with plus := "+" }.text x) else none
  | _ => none

mutual

/-- The value in JSON. -/
def json? : Value → Option Json
  | null => some .null
  | bool b => some (.bool b)
  | int z => some (.number (intText z))
  | float x => some (jsonNumber x)
  | string s => some (.string s)
  | sequence items => (jsonItems? items).map .array
  | mapping entries => (jsonMembers? entries).map .object
  | tagged tag value => (json? value).map fun j => .object [(tag, j)]

/-- The items of a sequence in JSON. -/
def jsonItems? : List Value → Option (List Json)
  | [] => some []
  | item :: items =>
    match json? item, jsonItems? items with
    | some j, some js => some (j :: js)
    | _, _ => none

/-- The entries of a mapping in JSON. -/
def jsonMembers? : List (Value × Value) → Option (List (String × Json))
  | [] => some []
  | (key, value) :: entries =>
    match jsonKey? key, json? value, jsonMembers? entries with
    | some k, some j, some js => some ((k, j) :: js)
    | _, _, _ => none

end

/-- The value as one text: a scalar in its spelling, a structure in JSON. Null has no text. -/
def plainText? : Value → Option String
  | null => none
  | string s => some s
  | bool b => some (if b then "true" else "false")
  | int z => some (intText z)
  | float x => some (floatText x)
  | other => (other.json?).map Json.text

end Yaml.Value

namespace Variable

/-- The text of the default. -/
def defaultText? (v : Variable) : Option String := v.default.bind Yaml.Value.plainText?

/-- Whether something generates the value. -/
def isGenerated (v : Variable) : Bool := v.generator.isSome

end Variable

/-! ## Look-ups -/

namespace Manifest

/-- The first group of a name. -/
def group? (m : Manifest) (name : String) : Option Group := m.groups.find? (·.name == name)

/-- The first group whose name, as a step of a path and in capitals, is the given one. -/
def groupByEnvName? (m : Manifest) (name : String) : Option Group :=
  m.groups.find? fun g => String.ofList (upper g.varName.toList) == name

/-- The first variable of a name. -/
def declared? (m : Manifest) (name : String) : Option Variable := m.declarations.find? (·.name == name)

/-- The declared variables that a group refers to, in the order of their names. -/
def variablesOf (m : Manifest) (g : Group) : List Variable := g.variableNames.filterMap m.declared?

/-- All variables in the order of their names. -/
def sortedVariables (m : Manifest) : List Variable :=
  m.declarations.mergeSort fun a b => decide (a.name ≤ b.name)

end Manifest

end RoleChart
