import RoleChart.Base64
import RoleChart.Json
import RoleChart.Names

/-!
# Registry logins

The login that pods pull their images with, as the base64 text of a JSON object with one member for
the registry.
-/

namespace RoleChart

/-- The base64 text of a text. -/
def base64 (s : String) : String := String.ofList (Base64.encode (bytes s))

/-- The login to a registry, with its user and password once more as the header that sends them. -/
def dockercfg (host username password : String) : String :=
  base64 (Json.object [(host, .object [
    ("auth", .string (base64 (username ++ ":" ++ password))),
    ("password", .string password),
    ("username", .string username)])]).text

end RoleChart
