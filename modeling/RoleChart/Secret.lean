import RoleChart.Manifest.Lookup
import RoleChart.Metadata
import RoleChart.Registry
import RoleChart.Fault

/-!
# Secrets

The object that holds the values of secret variables, and the one that holds the registry login. With
a generator of secrets, a build only writes what the generator does not maintain.
-/

namespace RoleChart

open Document
open Template (action quoted)

/-- The name of the object with all secret values. With a generator, the generator maintains it. -/
def secretObject : String := "secret"

/-- The name of the object that a build writes. -/
def secretName (s : Settings) : String :=
  if !s.secretsGenerator then secretObject
  else if s.chart then secretObject ++ "-update-" ++ action ".Release.Revision"
  else secretObject ++ "-update"

namespace Variable

/-- The name of the object that holds the value of a variable. -/
def secretName (v : Variable) (s : Settings) : String :=
  if s.secretsGenerator && v.isGenerated then secretObject else RoleChart.secretName s

/-- Whether an object with secrets can hold the variable. -/
def isExternalSecret (v : Variable) : Bool := v.secret && !v.internal

/-- The plain value: from the defaults, or else the declared one. -/
def plainText? (v : Variable) (s : Settings) : Option String :=
  (s.default? v.name).or v.defaultText?

/-- Whether a chart must be given the value. -/
def mustBeGiven (v : Variable) : Bool := v.required || v.default.isNone

/-- The value in an object with secrets. There is none where the generator maintains it. -/
def secretNode? (v : Variable) (s : Settings) : Option Node :=
  if !s.chart then some (.string (base64 ((v.plainText? s).getD "")))
  else if v.isGenerated && s.secretsGenerator then none
  else if v.generator == some .password then
    some (.verbatim (action "randAlphaNum 32 | b64enc | quote"))
  else
    let path := ".Values.secrets." ++ v.name
    let value := if v.mustBeGiven then Template.requiredValue v.name path else path
    some (.verbatim (action (value ++ " | b64enc | quote")))

/-- The note on a value that a chart generates. -/
def generatedNote : String := "This value uses a generated default."

/-- The comment on a secret value. -/
def secretComment (v : Variable) (s : Settings) : String :=
  let lines :=
    (if v.description.isEmpty then [] else [Text.trimEndBlanks v.description])
      ++ (if v.immutable then ["This value is immutable and must not be changed once set."] else [])
      ++ (if s.chart && v.generator == some .password then [generatedNote] else [])
  "\n".intercalate lines

end Variable

/-- The secret values of some variables, by their keys. -/
def secretData (declared : List Variable) (s : Settings) : Built Mapping :=
  (declared.filter (·.isExternalSecret)).foldlM
    (fun data v =>
      match v.secretNode? s with
      | some node => data.addNamed (secretKey v.name) (node.withComment (v.secretComment s))
      | none => .ok data)
    []

/-- The object with the secret values of some variables. -/
def secret (declared : List Variable) (s : Settings) : Built Node := do
  let data ← secretData declared s
  let head := newObject "v1" "Secret" (objectMetadata s (secretName s) none)
  return .entries (head ++ [("type", .string "Opaque"), ("data", .entries data)])

/-! ## The registry login -/

/-- The name of the object with the registry login. -/
def registryCredentialsName : String := "registry-credentials"

/-- The registry login as an expression of a chart. -/
def chartDockercfg : String :=
  let value (key : String) := ".Values.kube.registry." ++ key
  let format :=
    "\x7b%q:\x7b\\\"username\\\":%q,\\\"password\\\":%q,\\\"auth\\\":%q\x7d\x7d"
  let login :=
    "(printf " ++ quoted "%s:%s" ++ " " ++ value "username" ++ " " ++ value "password" ++ " | b64enc)"
  action ("printf " ++ quoted format ++ " " ++ value "hostname" ++ " " ++ value "username" ++ " "
    ++ value "password" ++ " " ++ login ++ " | b64enc")

/-- The object with the registry login. A chart has it only for a user that is set. -/
def registryCredentials (s : Settings) : Node :=
  let value :=
    if s.chart then Node.verbatim chartDockercfg
    else
      match s.credentials with
      | some c => Node.string (dockercfg s.registry c.username c.password)
      | none => Node.string ""
  let head := newObject "v1" "Secret" (objectMetadata s registryCredentialsName none)
  let node := Node.entries (head ++
    [("type", .string "kubernetes.io/dockercfg"), ("data", .entries [(".dockercfg", value)])])
  if s.chart then
    node.withBlock (Template.ifBlock (.ne (.path ".Values.kube.registry.username") (.text "")))
  else node

end RoleChart
