import SqlRender.Dsn.Address
import SqlRender.Text.LowerCase
import SqlRender.Value.Printer

/-!
# The parts of a URL

A URL is cut into its scheme, its authority, its path and its query. The fragment is left out, and
so are the parameters of the last path segment in schemes that know them.
-/

namespace SqlRender.Dsn

/-- Why a connection string cannot be read. -/
inductive DsnError where
  | noScheme (dsn : String)
  | misplacedBrackets
  | notAnAddress (host : String)
  | malformedFutureAddress
  | fourNumbersInBrackets
  | deceptiveAuthority (authority : String)
  | portNotNumber (port : String)
  | portTooLong (digits : Nat)
  | portOutOfRange
  | variableNotSet (name : String)
  deriving DecidableEq, Repr

/-- The text of the error. -/
def DsnError.message : DsnError → String
  | .noScheme dsn => "DSN has no scheme: " ++ Value.printText dsn
  | .misplacedBrackets => "Invalid IPv6 URL"
  | .notAnAddress host => Value.printText host ++ " does not appear to be an IPv4 or IPv6 address"
  | .malformedFutureAddress => "IPvFuture address is invalid"
  | .fourNumbersInBrackets => "An IPv4 address cannot be in brackets"
  | .deceptiveAuthority authority =>
    "netloc '" ++ authority ++ "' contains invalid characters under NFKC normalization"
  | .portNotNumber port =>
    "Port could not be cast to integer value as " ++ Value.printText port
  | .portTooLong digits => Digits.tooManyMessage digits
  | .portOutOfRange => "Port out of range 0-65535"
  | .variableNotSet name => "Environment variable " ++ name ++ " is not set"

/-- The parts of a URL. -/
structure Url where
  scheme : String
  authority : List Char
  path : List Char
  query : List Char

namespace Url

/-- The URL without controls and spaces in front, and without tabs and ends of lines anywhere. -/
def clean (s : String) : List Char :=
  (s.toList.dropWhile (·.toNat ≤ 0x20)).filter fun c => c ≠ '\t' && c ≠ '\r' && c ≠ '\n'

/-- Whether a character may be part of a scheme. -/
def isSchemeChar (c : Char) : Bool :=
  c.isAlphanum || c == '+' || c == '-' || c == '.'

/-- The scheme in lower case, if there is one, and the rest. -/
def cutScheme (cs : List Char) : String × List Char :=
  match Text.cut ':' cs with
  | (c :: scheme, some rest) =>
    if c.isAlpha && scheme.all isSchemeChar then
      (String.ofList ((c :: scheme).map Char.toLower), rest)
    else ("", cs)
  | _ => ("", cs)

/-- The authority after two slashes, and the rest. -/
def cutAuthority : List Char → List Char × List Char
  | '/' :: '/' :: rest => rest.span fun c => c ≠ '/' && c ≠ '?' && c ≠ '#'
  | cs => ([], cs)

/-- A host in brackets is an address, and not one of four numbers. -/
def checkAddress (host : List Char) : Except DsnError Unit :=
  if host.head? = some 'v' then
    if isFutureAddress host then .ok () else .error .malformedFutureAddress
  else if isFourNumbers host then .error .fourNumbersInBrackets
  else if isZonedGroups host then .ok ()
  else .error (.notAnAddress (String.ofList host))

/-- Brackets come in pairs. In an authority with brackets the host is an address with nothing but a
colon and a port around its brackets, even if they stand elsewhere. -/
def checkBrackets (authority : List Char) : Except DsnError Unit :=
  if authority.contains '[' != authority.contains ']' then .error .misplacedBrackets
  else if !authority.contains '[' then .ok ()
  else
    let place := (Text.cutLast '@' authority).2
    match Text.cut '[' place with
    | (before, some bracketed) =>
      let (host, after) := Text.cut ']' bracketed
      let after := after.getD []
      if !before.isEmpty || !(after.isEmpty || after.head? = some ':') then
        .error .misplacedBrackets
      else checkAddress host
    | (_, none) => checkAddress (Text.cut ':' place).1

/-- The characters that turn into a delimiter of URLs when they are normalised to compatible
ones. -/
def deceptiveChars : List Char :=
  ['\u2047', '\u2048', '\u2049', '\u2100', '\u2101', '\u2105', '\u2106', '\u2a74', '\ufe13',
    '\ufe16', '\ufe55', '\ufe56', '\ufe5f', '\ufe6b', '\uff03', '\uff0f', '\uff1a', '\uff1f',
    '\uff20']

/-- The schemes whose last path segment may have parameters. -/
def schemesWithParameters : List String :=
  ["", "ftp", "hdl", "prospero", "http", "imap", "https", "shttp", "rtsp", "rtspu", "sip", "sips",
    "mms", "sftp", "tel"]

/-- The path without the parameters of its last segment. -/
def dropParameters (path : List Char) : List Char :=
  match Text.cutLast '/' path with
  | (some before, last) => before ++ '/' :: (Text.cut ';' last).1
  | (none, last) => (Text.cut ';' last).1

/-- The parts of a URL. -/
def ofString (s : String) : Except DsnError Url := do
  let (scheme, rest) := cutScheme (clean s)
  let (authority, rest) := cutAuthority rest
  checkBrackets authority
  if authority.any deceptiveChars.contains then
    .error (.deceptiveAuthority (String.ofList authority))
  else
    let (path, query) := Text.cut '?' (Text.cut '#' rest).1
    let path := if schemesWithParameters.contains scheme then dropParameters path else path
    .ok ⟨scheme, authority, path, query.getD []⟩

end Url

/-- Who connects and where to. -/
structure Authority where
  username : Option String
  password : Option String
  host : Option String
  port : Option Nat
  deriving DecidableEq, Repr

namespace Authority

/-- The user and the password, of what stands before the last at sign. -/
def credentials : Option (List Char) → Option String × Option String
  | none => (none, none)
  | some cs =>
    let (username, password) := Text.cut ':' cs
    (some (String.ofList username), password.map String.ofList)

/-- The host and the text of the port. A host in brackets may have colons. -/
def hostAndPort (cs : List Char) : List Char × Option (List Char) :=
  let (host, port) :=
    match Text.cut '[' cs with
    | (_, some bracketed) =>
      let (host, rest) := Text.cut ']' bracketed
      (host, (Text.cut ':' (rest.getD [])).2)
    | (_, none) => Text.cut ':' cs
  (host, port.filter (!·.isEmpty))

/-- A host in lower case; the zone after a percent sign is left as it is. -/
def hostName (cs : List Char) : Option String :=
  if cs.isEmpty then none
  else
    match Text.cut '%' cs with
    | (host, some zone) => some (Text.lower (String.ofList host) ++ "%" ++ String.ofList zone)
    | (host, none) => some (Text.lower (String.ofList host))

/-- The number of a port. -/
def portNumber (cs : List Char) : Except DsnError Nat :=
  if cs.all Char.isDigit then
    match Digits.read cs with
    | .ok n => if n ≤ 65535 then .ok n else .error .portOutOfRange
    | .error count => .error (.portTooLong count)
  else .error (.portNotNumber (String.ofList cs))

/-- The parts of an authority. -/
def ofChars (cs : List Char) : Except DsnError Authority :=
  let (user, rest) := Text.cutLast '@' cs
  let (username, password) := credentials user
  let (host, port) := hostAndPort rest
  match port with
  | none => .ok ⟨username, password, hostName host, none⟩
  | some digits => (portNumber digits).map fun n => ⟨username, password, hostName host, some n⟩

end Authority

end SqlRender.Dsn
