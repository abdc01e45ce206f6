/-!
# Errors of URLs

Why a text is no URL.
-/

namespace RoleChart.Url

/-- Why a text is no URL. -/
inductive UrlError where
  | emptyHost
  | internationalName
  | port
  | ipv4Address
  | ipv6Address
  | domainCharacter
  | relativeWithoutBase
deriving DecidableEq, Repr

/-- The text of the error. -/
def UrlError.message : UrlError → String
  | emptyHost => "empty host"
  | internationalName => "invalid international domain name"
  | port => "invalid port number"
  | ipv4Address => "invalid IPv4 address"
  | ipv6Address => "invalid IPv6 address"
  | domainCharacter => "invalid domain character"
  | relativeWithoutBase => "relative URL without a base"

end RoleChart.Url
