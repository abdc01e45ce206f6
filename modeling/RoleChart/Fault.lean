import RoleChart.Document.Mapping
import RoleChart.Port.Range
import RoleChart.Url.Error

/-!
# Faults

Why resources cannot be built from a manifest. Each fault names the group, port or variable where it
was found.
-/

namespace RoleChart

open Text (shown)

/-- Why resources cannot be built. -/
inductive Fault where
  | nodeAffinity (group valueName : String)
  | podAffinity (group : String)
  | unknownStage (group stage : String)
  | portRange (port field value : String) (reason : Port.Range.Reason)
  | portMismatch (port internal external : String)
  | portName (name : String)
  | probeScheme (group probe scheme : String)
  | probeUrl (group probe url : String) (reason : Url.UrlError)
  | unknownSizingGroup (name target : String)
  | unknownColocated (group container : String)
  | opinions (reason : String)
  | emptyName
  | document (error : Document.DocumentError)
  /-- Two names of the manifest meet in one mapping. -/
  | collision (name : String)
deriving DecidableEq, Repr

namespace Fault

/-- The text of the fault. -/
def message : Fault → String
  | nodeAffinity group valueName =>
    "Instance group " ++ group ++ ": node affinity in the role manifest is not supported; "
      ++ "use the chart value sizing." ++ valueName ++ ".affinity.nodeAffinity"
  | podAffinity group => "Instance group " ++ group ++ ": pod affinity is not supported"
  | unknownStage group stage => "Instance group " ++ group ++ ": unknown flight stage " ++ stage
  | portRange port field value reason =>
    "Port " ++ port ++ ": invalid " ++ field ++ " range " ++ shown value ++ ": " ++ reason.message
  | portMismatch port internal external =>
    "Port " ++ port ++ ": external range " ++ external ++ " does not match internal range " ++ internal
  | portName name =>
    "Invalid port name " ++ shown name ++ ": it must contain at least one letter or digit"
  | probeScheme group probe scheme =>
    "Instance group " ++ group ++ ": " ++ probe ++ " probe has unsupported URL scheme " ++ shown scheme
  | probeUrl group probe url reason =>
    "Instance group " ++ group ++ ": " ++ probe ++ " probe has invalid URL " ++ shown url ++ ": "
      ++ reason.message
  | unknownSizingGroup name target =>
    "Variable " ++ name ++ ": no instance group named " ++ target
  | unknownColocated group container =>
    "Instance group " ++ group ++ ": colocated container " ++ container ++ " is not defined"
  | opinions reason => "Manifest opinions cannot be serialized: " ++ reason
  | emptyName => "Cannot sanitize an empty name"
  | document error => error.message
  | collision name => "duplicate key in mapping: " ++ name

end Fault

/-- The result of building something from a manifest. -/
abbrev Built := Except Fault

/-- Adds an entry whose name comes from the manifest. -/
def Document.Mapping.addNamed (m : Document.Mapping) (name : String) (node : Document.Node) :
    Built Document.Mapping :=
  if contains m name then .error (.collision name) else .ok (m ++ [(name, node)])

end RoleChart
