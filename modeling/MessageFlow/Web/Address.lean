import MessageFlow.Text.Classes
import MessageFlow.Text.Quoted
import MessageFlow.Web.Host

/-!
Addresses on the web: read from a text into their parts, with every part in a normal form, and
written again.
-/

namespace MessageFlow

/-- An address; one without a scheme or a host is relative. -/
structure Address where
  scheme : List Char := []
  userinfo : List Char := []
  host : List Char := []
  port : Option Int := none
  path : List Char := []
  query : Option (List Char) := none
  fragment : Option (List Char) := none
  deriving DecidableEq, Repr

inductive AddressError where
  | tooLong
  | partTooLong (part : String)
  | control (c : Char) (position : Nat)
  | host (error : Host.HostError) (host : String)
  | port (text : String)
  | pathWithoutSlash
  | pathWithTwoSlashes
  | pathWithColon
  deriving DecidableEq, Repr

namespace AddressError

def message : AddressError → String
  | .tooLong => "URL too long"
  | .partTooLong part => "URL component '" ++ part ++ "' too long"
  | .control c position =>
    "Invalid non-printable ASCII character in URL, " ++ Text.quoted (String.singleton c) ++
      " at position " ++ toString position ++ "."
  | .host error written =>
    (match error with
      | .octets => "Invalid IPv4 address: "
      | .groups => "Invalid IPv6 address: "
      | .name => "Invalid IDNA hostname: ") ++ Text.quoted written
  | .port text => "Invalid port: " ++ Text.quoted text
  | .pathWithoutSlash => "For absolute URLs, path must be empty or begin with '/'"
  | .pathWithTwoSlashes => "Relative URLs cannot have a path starting with '//'"
  | .pathWithColon => "Relative URLs cannot have a path starting with ':'"

end AddressError

namespace Address

def maxLength : Nat := 65536

def isAbsolute (address : Address) : Bool := !address.scheme.isEmpty && !address.host.isEmpty

/-- Whether there is anything to stand between two slashes and the path. -/
def hasAuthority (address : Address) : Bool :=
  !address.userinfo.isEmpty || !address.host.isEmpty || address.port.isSome

/-- Visible characters of ASCII other than the given ones. -/
def isVisibleBut (others : String) (c : Char) : Bool :=
  0x20 < c.toNat && c.toNat < 0x7f && !others.toList.contains c

def isPathSafe : Char → Bool := isVisibleBut "\"#<>?`\x7b\x7d"
def isQuerySafe : Char → Bool := isVisibleBut "\"#<>"
def isFragmentSafe : Char → Bool := isVisibleBut "\"<>`"
def isUserinfoSafe : Char → Bool := isVisibleBut "\"#<>?`\x7b\x7d/;=@[\\]^|"

def isSchemeChar (c : Char) : Bool :=
  c.isAlphanum || c == '+' || c == '-' || c == '.'

/-- The scheme before the first colon, and what follows the colon. -/
def splitScheme (s : List Char) : List Char × List Char :=
  match s.dropWhile isSchemeChar with
  | ':' :: rest =>
    let scheme := s.takeWhile isSchemeChar
    if scheme.head?.all Char.isAlpha then (scheme, rest) else ([], s)
  | _ => ([], s)

/-- What stands before the last at sign, and what follows it. -/
def splitUserinfo (s : List Char) : List Char × List Char :=
  let host := (s.reverse.takeWhile (· != '@')).reverse
  (s.take (s.length - host.length - 1), host)

/-- The host and the port. The host ends at the last bracket if it begins with one, else before the
first colon. -/
def splitHost (s : List Char) : List Char × List Char :=
  let bracketed := (s.reverse.dropWhile (· != ']')).reverse
  let host := if s.head? = some '[' ∧ !bracketed.isEmpty then bracketed
    else s.takeWhile (· != ':')
  let rest := s.drop host.length
  (host, if rest.head? = some ':' then rest.drop 1 else rest)

/-- A numeral with a sign, digits in groups, and blanks around it. -/
def readPort? (s : List Char) : Option Int :=
  let trimmed := (Text.trim (String.ofList s)).toList
  let (negative, digits) := match trimmed with
    | '-' :: rest => (true, rest)
    | '+' :: rest => (false, rest)
    | _ => (false, trimmed)
  if Text.isGrouped digits ∧ (digits.filter Text.isDigit).length ≤ Text.maxNumeralDigits then
    let value : Int := Text.digitsValue digits
    some (if negative then -value else value)
  else none

/-- The port that a scheme implies. -/
def usualPort? (scheme : List Char) : Option Int :=
  match String.ofList scheme with
  | "ftp" => some 21
  | "http" | "ws" => some 80
  | "https" | "wss" => some 443
  | _ => none

/-- Resolves steps to the same and to the enclosing level; `walked` holds the parts before, the last
one first. -/
def resolveSteps (walked : List (List Char)) : List (List Char) → List (List Char)
  | [] => walked.reverse
  | part :: parts =>
    if part = ['.'] then resolveSteps walked parts
    else if part = ['.', '.'] then
      resolveSteps (if walked = [[]] then walked else walked.drop 1) parts
    else resolveSteps (part :: walked) parts

def normalPath (path : List Char) : List Char :=
  List.intercalate ['/'] (resolveSteps [] (Host.splitAt (· == '/') path))

/-- The address with its path, query and fragment in their normal form, if its path is admitted. -/
def withNormalPath (address : Address) : Except AddressError Address :=
  let isRooted := address.path.head? = some '/'
  if address.hasAuthority && !address.path.isEmpty && !isRooted then .error .pathWithoutSlash
  else
    let isBare := address.scheme.isEmpty && !address.hasAuthority
    if isBare && ['/', '/'].isPrefixOf address.path then .error .pathWithTwoSlashes
    else if isBare && address.path.head? = some ':' then .error .pathWithColon
    else
      let path := if isBare then address.path else normalPath address.path
      .ok { address with
        path := Percent.escape isPathSafe path
        query := address.query.map (Percent.escape isQuerySafe)
        fragment := address.fragment.map (Percent.escape isFragmentSafe) }

def readPort (scheme port : List Char) : Except AddressError (Option Int) :=
  if port.isEmpty then .ok none
  else match readPort? port with
    | none => .error (.port (String.ofList port))
    | some port => .ok (if usualPort? scheme = some port then none else some port)

/-- Reads the parts of a text. -/
def readParts (s : List Char) : Except AddressError Address := do
  let (scheme, rest) := splitScheme s
  let (authority, rest) := match rest with
    | '/' :: '/' :: rest =>
      let isWithin := fun c : Char => c != '/' && c != '?' && c != '#'
      (rest.takeWhile isWithin, rest.dropWhile isWithin)
    | _ => ([], rest)
  let isWithin := fun c : Char => c != '?' && c != '#'
  let path := rest.takeWhile isWithin
  let (query, rest) := match rest.dropWhile isWithin with
    | '?' :: rest => (some (rest.takeWhile (· != '#')), rest.dropWhile (· != '#'))
    | rest => (none, rest)
  let fragment := match rest with
    | '#' :: rest => some rest
    | _ => none
  let (userinfo, rest) := splitUserinfo authority
  let (hostText, portText) := splitHost rest
  let host ← match Host.read hostText with
    | .ok host => .ok host
    | .error error => .error (.host error (String.ofList hostText))
  let port ← readPort scheme portText
  withNormalPath {
    scheme := scheme.map Char.toLower
    userinfo := Percent.escape isUserinfoSafe userinfo
    host, port, path, query, fragment }

def read (s : String) : Except AddressError Address :=
  let chars := s.toList
  if maxLength < chars.length then .error .tooLong
  else match chars.dropWhile fun c => !Text.isControl c with
    | c :: _ => .error (.control c (chars.takeWhile fun c => !Text.isControl c).length)
    | [] => readParts chars

/-- The path of a request, followed by the query if there is one. -/
def target (address : Address) : List Char :=
  (if address.path.isEmpty then ['/'] else address.path) ++
    (match address.query with
      | some query => '?' :: query
      | none => [])

/-- An address as it is understood at `base`: a relative one names a path from the root on. -/
def resolve (base address : Address) : Except AddressError Address :=
  if address.isAbsolute then .ok address
  else
    let target := '/' :: address.target.dropWhile (· == '/')
    let path := target.takeWhile (· != '?')
    let query := match target.dropWhile (· != '?') with
      | _ :: query => some query
      | [] => none
    if maxLength < path.length then .error (.partTooLong "path")
    else if query.any fun query => maxLength < query.length then .error (.partTooLong "query")
    else withNormalPath { base with path, query }

def authority (address : Address) : List Char :=
  (if address.userinfo.isEmpty then [] else address.userinfo ++ ['@']) ++
    (if address.host.contains ':' then '[' :: address.host ++ [']'] else address.host) ++
    (match address.port with
      | some port => ':' :: (toString port).toList
      | none => [])

def text (address : Address) : String :=
  String.ofList
    ((if address.scheme.isEmpty then [] else address.scheme ++ [':']) ++
      (if address.hasAuthority then ['/', '/'] ++ address.authority else []) ++ address.path ++
      (match address.query with
        | some query => '?' :: query
        | none => []) ++
      (match address.fragment with
        | some fragment => '#' :: fragment
        | none => []))

end Address
end MessageFlow
