import CodeSearch.Text.Blank
import CodeSearch.Url.Domain
import CodeSearch.Url.Form
import CodeSearch.Url.Ipv4
import CodeSearch.Url.Ipv6

/-!
# URLs

The parts of a URL as the web reads them: schemes and hosts in lower case, default numbers of the port left
out, dots in paths resolved, and marks with a meaning percent-encoded. `href` writes the parts back.
-/

namespace CodeSearch

inductive UrlError where
  | noBase | emptyHost | badPort | badIpv4 | badIpv6 | badDomain | badHostCharacter
  deriving DecidableEq, Repr

def UrlError.message : UrlError → String
  | .noBase => "relative URL without a base"
  | .emptyHost => "empty host"
  | .badPort => "invalid port number"
  | .badIpv4 => "invalid IPv4 address"
  | .badIpv6 => "invalid IPv6 address"
  | .badDomain => "invalid international domain name"
  | .badHostCharacter => "invalid domain character"

inductive Host where
  | domain (name : String)
  | ipv4 (address : Nat)
  | ipv6 (groups : List Nat)
  deriving DecidableEq, Repr

def Host.text : Host → String
  | .domain name => name
  | .ipv4 address => Ipv4.text address
  | .ipv6 groups => "[" ++ Ipv6.text groups ++ "]"

/-- A URL by its parts. `path` begins with a slash unless it is empty or `isOpaque`. -/
structure Url where
  scheme : String
  username : String
  password : Option String
  host : Option Host
  port : Option Nat
  isOpaque : Bool
  path : String
  query : Option String
  fragment : Option String
  deriving DecidableEq, Repr

namespace Url

/-- Schemes whose URLs always have a host and a path, with their default ports; the scheme of files has
none. -/
def defaultPort? (scheme : String) : Option Nat :=
  match scheme with
  | "http" | "ws" => some 80
  | "https" | "wss" => some 443
  | "ftp" => some 21
  | _ => none

def isSpecial (scheme : String) : Bool := (defaultPort? scheme).isSome || scheme == "file"

def isControl (b : UInt8) : Bool := b < 0x20 || b == 0x7F

def inFragmentSet (b : UInt8) : Bool :=
  isControl b || b == 0x20 || b == 0x22 || b == 0x3C || b == 0x3E || b == 0x60

def inQuerySet (special : Bool) (b : UInt8) : Bool :=
  isControl b || b == 0x20 || b == 0x22 || b == 0x23 || b == 0x3C || b == 0x3E || (special && b == 0x27)

def inPathSet (b : UInt8) : Bool := inFragmentSet b || b == 0x23 || b == 0x3F || b == 0x7B || b == 0x7D

def inUserSet (b : UInt8) : Bool :=
  inPathSet b || b == 0x2F || b == 0x3A || b == 0x3B || b == 0x3D || b == 0x40 ||
    (0x5B ≤ b && b ≤ 0x5E) || b == 0x7C

def encodeChars (inSet : UInt8 → Bool) (cs : List Char) : String :=
  Percent.encode inSet (String.ofList cs)

/-- Characters that no host may hold where the scheme gives hosts no meaning. -/
def isForbiddenHostChar (c : Char) : Bool :=
  c == '\x00' || ['\t', '\n', '\r', ' ', '#', '/', ':', '<', '>', '?', '@', '[', '\\', ']', '^',
    '|'].contains c

def bracketHost (cs : List Char) : Except UrlError Host :=
  if cs.getLast? == some ']' then
    match Ipv6.parse? (cs.drop 1).dropLast with
    | some groups => .ok (.ipv6 groups)
    | none => .error .badIpv6
  else .error .badIpv6

def readHost (special : Bool) (cs : List Char) : Except UrlError Host :=
  if cs.head? == some '[' then bracketHost cs
  else if !special then
    if cs.any isForbiddenHostChar then .error .badHostCharacter
    else .ok (.domain (encodeChars isControl cs))
  else
    match (Utf8.chars? (Percent.decode (Utf8.encodeChars cs))).bind Domain.toAscii? with
    | none => .error .badDomain
    | some name =>
      if name.isEmpty then .error .emptyHost
      else if Ipv4.endsInNumber name.toList then
        match Ipv4.parse? name.toList with
        | some address => .ok (.ipv4 address)
        | none => .error .badIpv4
      else .ok (.domain name)

def endsAuthority (special : Bool) (c : Char) : Bool :=
  c == '/' || c == '?' || c == '#' || (special && c == '\\')

def splitUser (authority : List Char) : Option (List Char) × List Char :=
  let back := authority.reverse
  let host := back.takeWhile (· != '@')
  match back.drop host.length with
  | [] => (none, authority)
  | _ :: user => (some user.reverse, host.reverse)

/-- Cuts a host from the number after it: a colon inside brackets belongs to the host. -/
def splitPort (inBrackets : Bool) : List Char → List Char × Option (List Char)
  | [] => ([], none)
  | c :: cs =>
    if c == ':' && !inBrackets then ([], some cs)
    else
      let (host, rest) := splitPort (if c == '[' then true else if c == ']' then false else inBrackets) cs
      (c :: host, rest)

/-- Reads a 16-bit number; the default one and an empty text stand for none. A backslash ends it. -/
def readPort (scheme : String) (cs : List Char) : Except UrlError (Option Nat) :=
  let ds := cs.takeWhile (· != '\\')
  if !ds.all Text.isDigit then .error .badPort
  else if ds.isEmpty then .ok none
  else
    let n := Text.natOfDigits ds
    if 65535 < n then .error .badPort
    else .ok (if defaultPort? scheme == some n then none else some n)

def userInfo (user : List Char) : String × Option String :=
  let name := user.takeWhile (· != ':')
  let password := (user.drop name.length).drop 1
  (encodeChars inUserSet name,
    if password.isEmpty then none else some (encodeChars inUserSet password))

def isSingleDot (segment : String) : Bool := [".", "%2e", "%2E"].contains segment

def isDoubleDot (segment : String) : Bool :=
  ["..", ".%2e", ".%2E", "%2e.", "%2E.", "%2e%2e", "%2e%2E", "%2E%2e", "%2E%2E"].contains segment

/-- Resolves dots. `done` holds the segments so far, newest first. -/
def resolveDots (done : List String) : List String → List String
  | [] => done.reverse
  | [last] =>
    if isDoubleDot last then ("" :: done.drop 1).reverse
    else if isSingleDot last then ("" :: done).reverse
    else (last :: done).reverse
  | segment :: rest =>
    if isDoubleDot segment then resolveDots (done.drop 1) rest
    else if isSingleDot segment then resolveDots done rest
    else resolveDots (segment :: done) rest

/-- A path from its characters. Where the scheme has a meaning, a backslash is a slash and the path is never
empty. -/
def pathText (special : Bool) (cs : List Char) : String :=
  let cs := if special then cs.map fun c => if c == '\\' then '/' else c else cs
  if cs.isEmpty && !special then ""
  else
    let cs := if cs.head? == some '/' then cs.drop 1 else cs
    let segments := (cs.splitOnP (· == '/')).map (encodeChars inPathSet)
    "/" ++ String.intercalate "/" (resolveDots [] segments)

def splitTail (cs : List Char) : List Char × Option (List Char) × Option (List Char) :=
  let whole := cs.takeWhile (· != '#')
  let fragment := match cs.drop whole.length with
    | [] => none
    | _ :: f => some f
  let front := whole.takeWhile (· != '?')
  let query := match whole.drop front.length with
    | [] => none
    | _ :: q => some q
  (front, query, fragment)

def withTail (u : Url) (pathOf : List Char → String) (cs : List Char) : Url :=
  let (path, query, fragment) := splitTail cs
  { u with
    path := pathOf path
    query := query.map (encodeChars (inQuerySet (isSpecial u.scheme)))
    fragment := fragment.map (encodeChars inFragmentSet) }

def bare (scheme : String) : Url := ⟨scheme, "", none, none, none, false, "", none, none⟩

def afterSlashes (scheme : String) (cs : List Char) : Except UrlError Url := do
  let special := isSpecial scheme
  let authority := cs.takeWhile fun c => !endsAuthority special c
  let rest := cs.drop authority.length
  let (user, hostPort) := splitUser authority
  if user.isSome && hostPort.isEmpty then throw .emptyHost
  let (hostText, portText) := splitPort false hostPort
  if hostText.isEmpty && (special || portText.isSome) then throw .emptyHost
  let h ← readHost special hostText
  let p ← match portText with
    | some text => readPort scheme text
    | none => pure none
  let (username, password) := (user.map userInfo).getD ("", none)
  let u : Url := { bare scheme with
    username := username
    password := password
    host := some h
    port := p }
  return u.withTail (pathText special) rest

def fileUrl (cs : List Char) : Except UrlError Url := do
  let slashes := cs.takeWhile fun c => c == '/' || c == '\\'
  if slashes.length < 2 then
    return { bare "file" with host := none }.withTail (pathText true) cs
  else
    let cs := cs.drop 2
    let hostText := cs.takeWhile fun c => !endsAuthority true c
    let h ← if hostText.isEmpty then pure none else some <$> readHost true hostText
    let h := if h == some (.domain "localhost") then none else h
    return { bare "file" with host := h }.withTail (pathText true) (cs.drop hostText.length)

def scheme? (cs : List Char) : Option (String × List Char) :=
  let name := cs.takeWhile fun c => c.isAlphanum || c == '+' || c == '-' || c == '.'
  match name.head?, cs.drop name.length with
  | some first, ':' :: rest =>
    if first.isAlpha then some (String.ofList (name.map Charset.asciiLower), rest) else none
  | _, _ => none

/-- Reads a URL that stands alone. Controls and blanks around it do not count, nor do line ends and tabs in
it. -/
def parse (text : String) : Except UrlError Url :=
  let cs := Text.dropEndsWhile (·.toNat ≤ 0x20) text.toList
  let cs := cs.filter fun c => c != '\t' && c != '\n' && c != '\r'
  match scheme? cs with
  | none => .error .noBase
  | some (scheme, rest) =>
    if scheme == "file" then fileUrl rest
    else if isSpecial scheme then
      afterSlashes scheme (rest.dropWhile fun c => c == '/' || c == '\\')
    else
      match rest with
      | '/' :: '/' :: rest => afterSlashes scheme rest
      | '/' :: _ => .ok ((bare scheme).withTail (pathText false) rest)
      | _ =>
        .ok ({ bare scheme with isOpaque := true }.withTail (encodeChars isControl) rest)

def userText (u : Url) : String :=
  match u.password with
  | some password => u.username ++ ":" ++ password ++ "@"
  | none => if u.username.isEmpty then "" else u.username ++ "@"

def authorityText (u : Url) : String :=
  match u.host with
  | some h =>
    "//" ++ u.userText ++ h.text ++ (u.port.map fun p => ":" ++ toString p).getD ""
  | none =>
    if u.scheme == "file" then "//"
    else if "//".toList.isPrefixOf u.path.toList then "/." else ""

def href (u : Url) : String :=
  u.scheme ++ ":" ++ u.authorityText ++ u.path ++ (u.query.map ("?" ++ ·)).getD "" ++
    (u.fragment.map ("#" ++ ·)).getD ""

/-- Whether a URL can carry a user name: it has a host with a name, and is no file. -/
def takesUser (u : Url) : Bool :=
  u.scheme != "file" && u.host.any (· != .domain "")

def addFields (u : Url) (fields : List (String × String)) : Url :=
  let added := Form.encode fields
  let query := match u.query with
    | some query => if query.isEmpty then added else query ++ "&" ++ added
    | none => added
  { u with query := some query }

/-- Where a URL comes from: scheme, host and port, or `null` for schemes without hosts. -/
def tupleOrigin (u : Url) : String :=
  match defaultPort? u.scheme, u.host with
  | some _, some h =>
    u.scheme ++ "://" ++ h.text ++ (u.port.map fun p => ":" ++ toString p).getD ""
  | _, _ => "null"

/-- The origin; that of a blob is the origin of the URL inside. -/
def origin (u : Url) : String :=
  if u.scheme == "blob" then
    match parse u.path with
    | .ok inner => inner.tupleOrigin
    | .error _ => "null"
  else u.tupleOrigin

end Url

end CodeSearch
