import RoleChart.Manifest.Lookup
import RoleChart.Metadata

/-!
# Resources and capabilities

What a container asks for and may use of memory and processors, and what it may do. In a chart both
come from the sizing values.
-/

namespace RoleChart.Pod

open Document
open Decimal (Binary64)
open Template (action digits)

/-- The greatest number of 64 bits. -/
def maxAmount : Nat := Nat.pow 2 64 - 1

/-- Cores in thousandths. -/
def millicores (cores : Binary64) : Nat := (cores.mulNat 1000).roundNat maxAmount

/-- An entry for an amount that is declared. -/
def amount (name unit : String) (n : Option Nat) : Mapping :=
  n.toList.map fun n => (name, .string (digits n ++ unit))

/-- The resources outside of a chart. -/
def plainResources (g : Group) (s : Settings) : Mapping :=
  let memory := if s.memoryLimits then g.run.memory.getD {} else {}
  let cpu := if s.cpuLimits then g.run.cpu.getD {} else {}
  let requests := amount "memory" "Mi" memory.request
    ++ amount "cpu" "m" (cpu.request.map millicores)
  let limits := amount "memory" "Mi" memory.limit ++ amount "cpu" "m" (cpu.limit.map millicores)
  (if requests.isEmpty then [] else [("requests", .entries requests)])
    ++ if limits.isEmpty then [] else [("limits", .entries limits)]

/-- The path of the switch for a resource. -/
def switchPath (kind level : String) : String := ".Values.config." ++ kind ++ "." ++ level

/-- The entry of a chart for a resource: it is there if its switch is on and its value is set. -/
def chartAmount (group level kind unit : String) : String × Node :=
  let path := sizingPath group (kind ++ "." ++ level)
  (kind, (Node.verbatim (action ("int " ++ path) ++ unit)).withBlock
    (Template.ifBlock (.and (.path (switchPath kind level)) (.path path))))

/-- The resources in a chart. -/
def chartResources (g : Group) (s : Settings) : Mapping :=
  let kinds := (if s.memoryLimits then [("memory", "Mi")] else [])
    ++ if s.cpuLimits then [("cpu", "m")] else []
  if kinds.isEmpty then []
  else ["requests", "limits"].map fun level =>
    (level, .entries (kinds.map fun (kind, unit) => chartAmount g.varName level kind unit))

/-- The resources of a container. -/
def resources (g : Group) (s : Settings) : Mapping :=
  if s.chart then chartResources g s else plainResources g s

/-- The capability that stands for all of them. -/
def allCapabilities : String := "ALL"

/-- What a container may do. With all capabilities it is privileged; in a chart the values may add
capabilities, all of them included. -/
def securityContext (g : Group) (s : Settings) : Mapping :=
  let capabilities := g.run.capabilities.map fun c => String.ofList (Text.upper c.toList)
  let add := capabilities.map Node.string
  if capabilities.contains allCapabilities then [("privileged", .flag true)]
  else if !s.chart then
    if add.isEmpty then [] else [("capabilities", .entries [("add", .items add)])]
  else
    let path := sizingPath g.varName "capabilities"
    let wantsAll := Template.Term.lists allCapabilities path
    let more := (Node.verbatim (action ". | upper")).withBlock (Template.rangeBlock path)
    [("privileged", (Node.flag true).withBlock (Template.ifBlock wantsAll)),
      ("capabilities", (Node.entries [("add", .items (add ++ [more]))]).withBlock
        (Template.ifBlock (.not wantsAll)))]

end RoleChart.Pod
