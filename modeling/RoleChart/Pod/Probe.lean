import RoleChart.Port.Definition
import RoleChart.Manifest.Lookup
import RoleChart.Registry
import RoleChart.Url.Basic

/-!
# Probes

The liveness and readiness probes of a container. A probe asks a URL, else a port, else a command; a
supervised group without any of them is asked on a port of its own.
-/

namespace RoleChart.Pod

open Document Text

/-- What a probe decides: whether a container is restarted, or whether it is sent requests. -/
inductive ProbeKind where
  | liveness
  | readiness
deriving DecidableEq, Repr

namespace ProbeKind

/-- The word for the kind. -/
def word : ProbeKind → String
  | liveness => "liveness"
  | readiness => "readiness"

/-- The entry of a container that holds the probe. -/
def field (kind : ProbeKind) : String := kind.word ++ "Probe"

end ProbeKind

/-- The port of the supervisor inside every container of a supervised group. -/
def supervisionPort : Nat := 2289

/-- The delay of a liveness probe that declares none. A group may take long to start, and a probe that
fails too early restarts it. -/
def defaultLivenessDelay : Nat := 600

/-! ## Requests -/

/-- A part of a header name: a capital at its beginning, small letters behind it. -/
def capitalized : List Char → List Char
  | [] => []
  | c :: rest => upperAscii c :: rest.map lowerAscii

/-- The usual form of a header name, where each part between dashes begins with a capital. -/
def canonicalHeader (name : List Char) : List Char :=
  join ['-'] ((splitOn '-' name).map capitalized)

/-- A header. -/
def header (name value : String) : Node :=
  .entries [("name", .string name), ("value", .string value)]

/-- The host that stands for the address of the pod itself. -/
def ownAddress : String := "container-ip"

/-- The header that sends the login of an address. -/
def authorization (a : Url.WebAddress) : List Node :=
  match a.password with
  | some password => [header "Authorization" ("Basic " ++ base64 (a.username ++ ":" ++ password))]
  | none =>
    if a.username.isEmpty then []
    else [header "Authorization" ("Basic " ++ base64 a.username)]

/-- A request to an address. -/
def httpGet (secure : Bool) (a : Url.WebAddress) (headers : List (String × String)) : Mapping :=
  let headers := authorization a ++ headers.map fun (name, value) =>
    header (String.ofList (canonicalHeader name.toList)) value
  [("scheme", .string (if secure then "HTTPS" else "HTTP"))]
    ++ (if a.host = ownAddress then [] else [("host", .string a.host)])
    ++ [("port", .number (a.port.getD (if secure then 443 else 80))),
      ("path", .string (a.path ++ (a.query.map ("?" ++ ·)).getD ""))]
    ++ if headers.isEmpty then [] else [("httpHeaders", .items headers)]

/-- A connection to a port. -/
def tcpSocket (port : Nat) : String × Node := ("tcpSocket", .entries [("port", .number port)])

/-! ## Actions -/

/-- What a probe does, as far as it is declared. -/
def declaredAction? (g : Group) (kind : ProbeKind) (p : Probe) : Built (Option (String × Node)) :=
  match p.url, p.port with
  | some url, _ =>
    match Url.Locator.ofText url with
    | .error reason => .error (.probeUrl g.name kind.word url reason)
    | .ok (.other scheme) => .error (.probeScheme g.name kind.word scheme)
    | .ok (.web secure address) =>
      .ok (some ("httpGet", .entries (httpGet secure address p.headers)))
  | none, some port => .ok (some (tcpSocket port))
  | none, none =>
    .ok (if p.command.isEmpty then none
      else some ("exec", .entries [("command", .items (p.command.map Node.string))]))

/-- The port on which a supervised group is asked: that of the supervisor, or the first one that it
serves. -/
def ownPort? (g : Group) : ProbeKind → Built (Option Nat)
  | .liveness => .ok (some supervisionPort)
  | .readiness => do
    let definitions ← g.portDefinitions
    return (definitions.find? (·.protocol == "TCP")).map (·.internal.first)

/-- The timings that differ from zero. A liveness probe needs one success, so it takes no other
number. -/
def timings (kind : ProbeKind) (p : Probe) : Mapping :=
  let delay :=
    if kind = .liveness ∧ p.initialDelay = 0 then defaultLivenessDelay else p.initialDelay
  let successes := if kind = .liveness then 0 else p.successThreshold
  let all := [("initialDelaySeconds", delay), ("timeoutSeconds", p.timeout),
    ("periodSeconds", p.period), ("successThreshold", successes),
    ("failureThreshold", p.failureThreshold)]
  (all.filter (·.2 != 0)).map fun (name, n) => (name, .number n)

/-- The declared probe of a kind. -/
def declaredProbe (g : Group) (kind : ProbeKind) : Probe :=
  let check := g.run.healthCheck.getD {}
  (match kind with
    | .liveness => check.liveness
    | .readiness => check.readiness).getD {}

/-- The probe of a container, if it has one. -/
def probe? (g : Group) (kind : ProbeKind) : Built (Option Node) := do
  let declared := declaredProbe g kind
  let action ←
    match ← declaredAction? g kind declared with
    | some action => pure (some action)
    | none => if g.isManaged then (ownPort? g kind).map (·.map tcpSocket) else pure none
  return action.map fun action => .entries (action :: timings kind declared)

end RoleChart.Pod
