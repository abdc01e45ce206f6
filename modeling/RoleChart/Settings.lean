import RoleChart.Text.Case
import RoleChart.Yaml.Value

/-!
# Settings

The choices that every builder shares: whether a chart or plain resources are built, where images
come from, and how the cluster authorizes.

## Main statements

* `emitsRbac_of_chart` — a chart always carries its authorization objects
-/

namespace RoleChart

/-- How the target cluster authorizes. -/
inductive AuthMode where
  | rbac
  | none
deriving DecidableEq, Repr, Inhabited

namespace AuthMode

/-- Reads a mode in any case. The empty text means none. -/
def ofText? (s : String) : Option AuthMode :=
  let word := String.ofList (Text.lower s.toList)
  if word = "rbac" then some rbac
  else if word = "none" || word = "" then some none
  else Option.none

/-- The name of a mode. -/
def toText : AuthMode → String
  | rbac => "rbac"
  | none => "none"

end AuthMode

/-- A login to the registry. -/
structure Credentials where
  username : String
  password : String
deriving DecidableEq, Repr, Inhabited

/-- What a build is told apart from the manifest. The defaults are in the order of their names. -/
structure Settings where
  chart : Bool := false
  defaults : List (String × String) := []
  registry : String := "docker.io"
  organization : String := "library"
  repository : String := "chartsmith"
  authMode : AuthMode := .rbac
  memoryLimits : Bool := true
  cpuLimits : Bool := true
  secretsGenerator : Bool := false
  opinions : Yaml.Value := .null
  tagExtra : String := ""
  version : String := "0.4.0"
  namespaceName : String := "default"
  externalIps : List String := []
  credentials : Option Credentials := none
deriving Inhabited

namespace Settings

/-- The value that the defaults give a variable. -/
def default? (s : Settings) (name : String) : Option String := s.defaults.lookup name

/-- Whether authorization objects are written. In a chart they are, behind a condition. -/
def emitsRbac (s : Settings) : Bool := s.chart || s.authMode == .rbac

theorem emitsRbac_of_chart (s : Settings) (h : s.chart = true) : s.emitsRbac = true := by
  simp [emitsRbac, h]

end Settings

end RoleChart
