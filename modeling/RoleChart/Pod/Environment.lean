import RoleChart.Secret

/-!
# Environments of containers

The variables that a container sees, in the order of their names, and the namespace at the end.
-/

namespace RoleChart.Pod

open Document
open Template (action digits)

/-- The group whose count a variable carries: what stands between the fixed parts of its name. -/
def sizingTarget? (name : String) : Option String :=
  (Text.dropPrefix? "KUBE_SIZING_".toList name.toList).bind fun rest =>
    (Text.dropSuffix? "_COUNT".toList rest).bind fun target =>
      if target.isEmpty then none else some (String.ofList target)

/-- An entry with a value. -/
def envValue (name : String) (value : Node) : Node :=
  .entries [("name", .string name), ("value", value)]

/-- An entry that refers to a secret. -/
def envSecret (s : Settings) (v : Variable) : Node :=
  .entries [("name", .string v.name), ("valueFrom", .entries [("secretKeyRef", .entries [
    ("key", .string (secretKey v.name)), ("name", .string (v.secretName s))])])]

/-- The entry of a variable. Outside of a chart a variable without a value has none. -/
def envEntry (m : Manifest) (s : Settings) (v : Variable) : Built (Option Node) := do
  match sizingTarget? v.name with
  | some target =>
    match m.groupByEnvName? target with
    | none => throw (.unknownSizingGroup v.name target)
    | some g =>
      let value :=
        if s.chart then Node.verbatim (action (countPath g.varName ++ " | quote"))
        else Node.string (digits g.run.scaling.min)
      return some (envValue v.name value)
  | none =>
    if v.secret then return some (envSecret s v)
    if s.chart then
      let path := ".Values.env." ++ v.name
      let value := if v.mustBeGiven then Template.requiredValue v.name path else path
      return some (envValue v.name (.verbatim (action (value ++ " | quote"))))
    return (v.plainText? s).map fun value => envValue v.name (.literal value)

/-- The entry for the namespace of the pod. -/
def namespaceEntry : Node :=
  .entries [("name", .string "KUBERNETES_NAMESPACE"), ("valueFrom", .entries [("fieldRef",
    .entries [("fieldPath", .string "metadata.namespace")])])]

/-- The environment of the container of a group. Internal variables are left out. -/
def environment (m : Manifest) (s : Settings) (g : Group) : Built (List Node) := do
  let entries ← ((m.variablesOf g).filter (!·.internal)).mapM (envEntry m s)
  return entries.filterMap id ++ [namespaceEntry]

end RoleChart.Pod
