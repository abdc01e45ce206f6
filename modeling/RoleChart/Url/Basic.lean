import RoleChart.Url.Address
import RoleChart.Url.Domain
import RoleChart.Url.Percent

/-!
# URLs

Reading a URL as browsers do: blanks around it and line breaks inside it are dropped, the scheme and
the host are put into small letters, the path is resolved, and what a part cannot hold is encoded. A
URL of another scheme than those of web servers is checked as far as its host and port; of it, only
the scheme is kept.
-/

namespace RoleChart.Url

open Text

/-- Where a web server is asked, and for what. A port is there if it differs from that of the scheme. -/
structure WebAddress where
  username : String := ""
  password : Option String := none
  host : String
  port : Option Nat := none
  path : String
  query : Option String := none
deriving DecidableEq, Repr

/-- A URL. -/
inductive Locator where
  | web (secure : Bool) (address : WebAddress)
  | other (scheme : String)
deriving DecidableEq, Repr

/-! ## Schemes -/

/-- How the URLs of a scheme are laid out. -/
inductive Layout where
  /-- A host with a port, which the scheme may fix. -/
  | server (defaultPort : Nat)
  | file
  /-- Anything else, with a host only behind two slashes. -/
  | general
deriving DecidableEq, Repr

/-- The layout of the URLs of a scheme. -/
def layoutOf (scheme : List Char) : Layout :=
  match String.ofList scheme with
  | "http" | "ws" => .server 80
  | "https" | "wss" => .server 443
  | "ftp" => .server 21
  | "file" => .file
  | _ => .general

/-- Whether a character belongs to a scheme behind its first letter. -/
def isSchemeCharacter (c : Char) : Bool := isAlphanumeric c || c == '+' || c == '-' || c == '.'

/-- Cuts off the scheme, in small letters. -/
def scheme? (s : List Char) : Option (List Char × List Char) :=
  match splitOnce ':' s with
  | some (first :: more, rest) =>
    if isAlphanumeric first && !isDigit first && more.all isSchemeCharacter then
      some ((first :: more).map lowerAscii, rest)
    else none
  | _ => none

/-! ## The authority -/

/-- A slash of either kind. -/
def isSlash (c : Char) : Bool := c == '/' || c == '\\'

/-- Whether a character ends the authority. -/
def endsAuthority (special : Bool) (c : Char) : Bool :=
  c == '/' || c == '?' || c == '#' || (special && c == '\\')

/-- A user and a password. -/
structure Login where
  username : List Char := []
  password : Option (List Char) := none

/-- Cuts off the login, which ends at the last at sign of the authority. A login without characters
must be followed by a host. -/
def login? (special : Bool) (s : List Char) : Except UrlError (Login × List Char) :=
  let authority := s.takeWhile (!endsAuthority special ·)
  let behind := s.drop authority.length
  match splitOnce '@' authority.reverse with
  | none => .ok ({}, s)
  | some (host, []) =>
    if host.isEmpty && !behind.isEmpty then .error .emptyHost else .ok ({}, host.reverse ++ behind)
  | some (host, login) =>
    let rest := host.reverse ++ behind
    match splitOnce ':' login.reverse with
    | none => .ok ({ username := encode userSet login.reverse }, rest)
    | some (username, password) =>
      .ok ({ username := encode userSet username
             password := if password.isEmpty then none else some (encode userSet password) }, rest)

/-- The characters of a host, which ends at a colon outside of brackets or where the authority ends. -/
def takeHost (special : Bool) : (inBrackets : Bool) → List Char → List Char
  | _, [] => []
  | inBrackets, c :: rest =>
    if (c == ':' && !inBrackets) || endsAuthority special c then []
    else
      let inBrackets := if c == '[' then true else if c == ']' then false else inBrackets
      c :: takeHost special inBrackets rest

/-- An address in brackets. -/
def bracketed (s : List Char) : Except UrlError (List Char) :=
  match s.getLast?, address16? (s.dropLast.drop 1) with
  | some ']', some pieces => .ok ('[' :: text16 pieces ++ [']'])
  | _, _ => .error .ipv6Address

/-- The host of a URL with a server or a file. -/
def host (s : List Char) : Except UrlError (List Char) :=
  if s.head? == some '[' then bracketed s
  else
    match asciiDomain? (decode s) with
    | none => .error .internationalName
    | some domain =>
      if domain.isEmpty then .error .emptyHost
      else if endsInNumber domain then
        match address4? domain with
        | some n => .ok (text4 n)
        | none => .error .ipv4Address
      else .ok domain

/-- The characters that no host can hold. -/
def forbiddenInHost : List Char :=
  ['\x00', '\t', '\n', '\r', ' ', '#', '/', ':', '<', '>', '?', '@', '[', '\\', ']', '^', '|']

/-- The host of any other URL. -/
def generalHost (s : List Char) : Except UrlError (List Char) :=
  if s.head? == some '[' then bracketed s
  else if s.any forbiddenInHost.contains then .error .domainCharacter
  else .ok (encode [] s)

/-- Cuts off the digits of a port, which must end where a path can begin. -/
def port? (s : List Char) : Except UrlError (Option Nat × List Char) :=
  let digits := s.takeWhile isDigit
  let rest := s.drop digits.length
  let ended := rest.head?.all fun c => endsAuthority true c
  match ofDigits? 10 digits with
  | some n =>
    if 65535 < n || !ended then .error .port
    else .ok (if digits.isEmpty then none else some n, rest)
  | none => .error .port

/-! ## The path -/

/-- The segments between slashes of either kind. -/
def segments : List Char → List (List Char)
  | [] => [[]]
  | c :: rest =>
    if isSlash c then [] :: segments rest
    else
      match segments rest with
      | [] => [[c]]
      | segment :: more => (c :: segment) :: more

/-- The forms of a dot. -/
def dots : List (List Char) := ["." , "%2e", "%2E"].map String.toList

/-- Whether a segment stands for its own place. -/
def isSingleDot (segment : List Char) : Bool := dots.contains segment

/-- Whether a segment stands for the place above. -/
def isDoubleDot (segment : List Char) : Bool :=
  (dots.flatMap fun a => dots.map (a ++ ·)).contains segment

/-- Whether a segment names a drive. The place above a drive is the drive itself. -/
def isDrive : List Char → Bool
  | [letter, mark] => isAlphanumeric letter && !isDigit letter && (mark == ':' || mark == '|')
  | _ => false

/-- The segments above the last one, which stays if it is a drive. -/
def parent (done : List (List Char)) : List (List Char) :=
  if done.getLast?.any isDrive then done else done.dropLast

/-- Goes on from finished segments by one that a slash ends. -/
def enter (done : List (List Char)) (segment : List Char) : List (List Char) :=
  if isDoubleDot segment then parent done
  else if isSingleDot segment then done
  else done ++ [segment]

/-- A path of segments. -/
def resolve (segments : List (List Char)) : List Char :=
  let segments := segments.map (encode pathSet)
  let done := segments.dropLast.foldl enter []
  let last := segments.getLast?.getD []
  let (done, last) :=
    if isDoubleDot last then (parent done, [])
    else if isSingleDot last then (done, [])
    else (done, last)
  '/' :: done.flatMap (· ++ ['/']) ++ last

/-- The path at the beginning of a text, and the rest. -/
def path (s : List Char) : List Char × List Char :=
  let raw := s.takeWhile fun c => c != '?' && c != '#'
  let relative := match raw with
    | c :: rest => if isSlash c then rest else c :: rest
    | [] => []
  (resolve (segments relative), s.drop raw.length)

/-- The query at the beginning of a text. -/
def query? : List Char → Option (List Char)
  | '?' :: rest => some (encode (querySet true) (rest.takeWhile (· != '#')))
  | _ => none

/-! ## The whole -/

/-- Whether a character is dropped wherever it stands. -/
def isLineBreak (c : Char) : Bool := c == '\t' || c == '\n' || c == '\r'

/-- A URL of a scheme with servers. -/
def server (scheme : List Char) (defaultPort : Nat) (s : List Char) : Except UrlError Locator := do
  let (login, s) ← login? true (s.dropWhile isSlash)
  let raw := takeHost true false s
  if raw.isEmpty then throw .emptyHost
  let host ← host raw
  let (port, s) ←
    match s.drop raw.length with
    | ':' :: rest => port? rest
    | rest => pure (none, rest)
  let (path, s) := path s
  let address : WebAddress := {
    username := String.ofList login.username
    password := login.password.map String.ofList
    host := String.ofList host
    port := port.filter (· != defaultPort)
    path := String.ofList path
    query := (query? s).map String.ofList }
  return match String.ofList scheme with
    | "http" => .web false address
    | "https" => .web true address
    | other => .other other

/-- Checks what follows the scheme of a file: a host may stand behind two slashes. -/
def checkFile : List Char → Except UrlError Unit
  | a :: b :: rest =>
    if isSlash a && isSlash b then
      let raw := rest.takeWhile (!endsAuthority true ·)
      if raw.isEmpty || isDrive raw then .ok () else (host raw).map fun _ => ()
    else .ok ()
  | _ => .ok ()

/-- Checks what follows the scheme of any other URL. -/
def checkGeneral : List Char → Except UrlError Unit
  | '/' :: '/' :: s => do
    let (login, s) ← login? false s
    let raw := takeHost false false s
    let host ← generalHost raw
    let rest := s.drop raw.length
    if host.isEmpty && (rest.head? == some ':' || !login.username.isEmpty || login.password.isSome) then
      throw .emptyHost
    match rest with
    | ':' :: rest => discard (port? rest)
    | _ => pure ()
  | _ => .ok ()

/-- Reads a URL. -/
def Locator.ofText (s : String) : Except UrlError Locator :=
  let s := (trim (·.toNat ≤ 0x20) s.toList).filter (!isLineBreak ·)
  match scheme? s with
  | none => .error .relativeWithoutBase
  | some (scheme, rest) =>
    match layoutOf scheme with
    | .server defaultPort => server scheme defaultPort rest
    | .file => (checkFile rest).map fun _ => .other (String.ofList scheme)
    | .general => (checkGeneral rest).map fun _ => .other (String.ofList scheme)

end RoleChart.Url
