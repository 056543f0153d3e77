import QueryGate.Power
import QueryGate.Url.Ipv6

/-!
# URLs

Reading a URL in full: scheme, user, password, host, port, path and query. Blanks and control
characters around it are dropped, and tabs and line breaks anywhere in it. A scheme that the web
knows (`http` and its like) has a domain for a host; any other scheme, such as a database's, has an
opaque host, kept as it is written up to percent-encoding.
-/

namespace QueryGate.Url

open Text

/-- Why a text is no URL. -/
inductive UrlError where
  | noScheme
  | invalidPort
  | emptyHost
  | invalidDomainCharacter
  | invalidIpv6
  | invalidIpv4
  | invalidDomain
  deriving DecidableEq, Repr

/-- The wording of an error. -/
def UrlError.message : UrlError → String
  | .noScheme => "relative URL without a base"
  | .invalidPort => "invalid port number"
  | .emptyHost => "empty host"
  | .invalidDomainCharacter => "invalid domain character"
  | .invalidIpv6 => "invalid IPv6 address"
  | .invalidIpv4 => "invalid IPv4 address"
  | .invalidDomain => "invalid international domain name"

/-- The parts of a URL that a database connection reads, percent-encoded. -/
structure Parts where
  /-- In lower case. -/
  scheme : List Char
  user : List Char := []
  password : Option (List Char) := none
  host : Option (List Char) := none
  port : Option Nat := none
  path : List Char := []
  query : Option (List Char) := none
  deriving DecidableEq, Repr

/-- How the parts behind the scheme are read. -/
inductive SchemeKind where
  | file
  | web
  | other
  deriving DecidableEq, Repr

def schemeKind (scheme : List Char) : SchemeKind :=
  if scheme = "file".toList then .file
  else if ["http", "https", "ws", "wss", "ftp"].any (·.toList == scheme) then .web
  else .other

/-- The port that a web scheme implies; naming it is the same as naming none. -/
def impliedPort (scheme : List Char) : Option Nat :=
  if scheme = "http".toList || scheme = "ws".toList then some 80
  else if scheme = "https".toList || scheme = "wss".toList then some 443
  else if scheme = "ftp".toList then some 21
  else none

/-! ### Scheme -/

def isSchemeChar (c : Char) : Bool := isAsciiLetterOrDigit c || ['+', '-', '.'].contains c

/-- The scheme in lower case and what follows its colon. -/
def splitScheme? (cs : List Char) : Option (List Char × List Char) :=
  match cs.takeWhile isSchemeChar, cs.dropWhile isSchemeChar with
  | c :: name, ':' :: rest =>
    if isAsciiLetter c then some ((c :: name).map lowerAscii, rest) else none
  | _, _ => none

/-! ### User and password -/

/-- The two sides of the last `@`. -/
def splitLastAt? : List Char → Option (List Char × List Char)
  | [] => none
  | c :: cs =>
    match splitLastAt? cs with
    | some (before, behind) => some (c :: before, behind)
    | none => if c = '@' then some ([], cs) else none

/-- User and password of what stands before the `@`. An empty password is none. -/
def readUserinfo (cs : List Char) : List Char × Option (List Char) :=
  let user := encode .userinfo (cs.takeWhile (· != ':'))
  match cs.dropWhile (· != ':') with
  | _ :: c :: rest => (user, some (encode .userinfo (c :: rest)))
  | _ => (user, none)

/-! ### Host -/

/-- The host part of an authority and what follows it. A colon inside brackets does not end it. -/
def splitHost (inBrackets : Bool) : List Char → List Char × List Char
  | [] => ([], [])
  | c :: cs =>
    if c = ':' && !inBrackets then ([], c :: cs)
    else
      let inside := if c = '[' then true else if c = ']' then false else inBrackets
      let (host, rest) := splitHost inside cs
      (c :: host, rest)

/-- The address in brackets, in canonical form. -/
def bracketHost (cs : List Char) : Except UrlError (List Char) :=
  match cs.getLast?, readIpv6? ((cs.drop 1).dropLast) with
  | some ']', some pieces => .ok ('[' :: (ipv6Text pieces ++ [']']))
  | _, _ => .error .invalidIpv6

/-- The characters that no host may have. -/
def isForbiddenHost (c : Char) : Bool :=
  ['\x00', '\t', '\n', '\r', ' ', '#', '/', ':', '<', '>', '?', '@', '[', '\\', ']', '^',
   '|'].contains
    c

/-- A host that is no domain: kept as written, with control characters and non-ASCII encoded. -/
def opaqueHost (cs : List Char) : Except UrlError (List Char) :=
  if cs.head? = some '[' then bracketHost cs
  else if cs.any isForbiddenHost then .error .invalidDomainCharacter
  else .ok (encode .controls cs)

/-- The characters that no domain may have besides those that no host may have. -/
def isForbiddenDomain (n : Nat) : Bool :=
  n ≤ 32 || n == 127 || ["%", "\x60", "\x7b", "\x7d"].any (fun s => s.toList.any (·.toNat == n)) ||
    isForbiddenHost (Char.ofNat n)

/-- One part of an IPv4 address in decimal, octal or hexadecimal. -/
def ipv4Number? (cs : List Char) : Option Nat :=
  let inBase (base : Nat) (ds : List Char) : Option Nat :=
    if ds.all fun c => (hexValue? c).any (· < base) then
      some (ds.foldl (fun n c => base * n + (hexValue? c).getD 0) 0)
    else none
  match cs with
  | [] => none
  | '0' :: x :: ds => if x = 'x' || x = 'X' then inBase 16 ds else inBase 8 (x :: ds)
  | _ => inBase 10 cs

/-- The parts of a domain between its points; one point at the end counts for nothing. -/
def domainLabels (cs : List Char) : List (List Char) :=
  let labels := cs.splitOn '.'
  if 1 < labels.length && labels.getLast? == some [] then labels.dropLast else labels

/-- The domain is meant as an IPv4 address: its last part is a number. -/
def endsInNumber (cs : List Char) : Bool :=
  match (domainLabels cs).getLast? with
  | some last => (!last.isEmpty && last.all isAsciiDigit) || (ipv4Number? last).isSome
  | none => false

/-- The parts form an IPv4 address: the last fills the places that the others leave. -/
def isIpv4 (labels : List (List Char)) : Bool :=
  match labels.mapM ipv4Number? with
  | some numbers =>
    numbers.length ≤ 4 && numbers.dropLast.all (· < 256) &&
      (numbers.getLast?.getD 0) < twoTo (8 * (5 - numbers.length))
  | none => false

/-- A domain: percent-decoded and in lower case. -/
def domainHost (cs : List Char) : Except UrlError (List Char) :=
  if cs.head? = some '[' then bracketHost cs
  else
    let bytes := decodeBytes cs
    if bytes.any fun b => isForbiddenDomain b.toNat then .error .invalidDomain
    else
      match String.fromUTF8? (ByteArray.mk bytes.toArray) with
      | none => .error .invalidDomain
      | some domain =>
        let labels := domain.toList.map lowerAscii
        if labels.isEmpty then .error .emptyHost
        else if endsInNumber labels && !isIpv4 (domainLabels labels) then .error .invalidIpv4
        else .ok labels

/-- The port behind the colon of an authority; none when no digit is there. A backslash ends it. -/
def readPort (cs : List Char) : Except UrlError (Option Nat × List Char) :=
  let digits := cs.takeWhile isAsciiDigit
  let rest := cs.dropWhile isAsciiDigit
  if 65535 < digitsValue digits then .error .invalidPort
  else match rest with
    | [] => .ok (if digits.isEmpty then none else some (digitsValue digits), [])
    | c :: _ =>
      if ['/', '\\', '?', '#'].contains c then
        .ok (if digits.isEmpty then none else some (digitsValue digits), rest)
      else .error .invalidPort

/-! ### Path -/

/-- `.` or its encoded form. -/
def isSingleDot (seg : List Char) : Bool :=
  seg == ['.'] || seg.map lowerAscii == "%2e".toList

/-- `..` or one of its encoded forms. -/
def isDoubleDot (seg : List Char) : Bool :=
  ["..", "%2e%2e", "%2e.", ".%2e"].any fun s => seg.map lowerAscii == s.toList

/-- A letter with a colon or bar, standing alone or before a backslash: the name of a drive, which
is never left upward. -/
def isDrive : List Char → Bool
  | [a, b] => isAsciiLetter a && (b == ':' || b == '|')
  | a :: b :: c :: _ => isAsciiLetter a && (b == ':' || b == '|') && c == '\\'
  | _ => false

/-- Leaves the last segment; the stack has it on top. -/
def leave : List (List Char) → List (List Char)
  | [] => []
  | seg :: rest => if isDrive seg then seg :: rest else rest

/-- The segments with dot segments resolved, on top of a stack of those before. -/
def resolveDots (stack : List (List Char)) : List (List Char) → List (List Char)
  | [] => stack.reverse
  | [seg] =>
    if isDoubleDot seg then ([] :: leave stack).reverse
    else if isSingleDot seg then ([] :: stack).reverse
    else (encode .path seg :: stack).reverse
  | seg :: rest =>
    if isDoubleDot seg then resolveDots (leave stack) rest
    else if isSingleDot seg then resolveDots stack rest
    else resolveDots (encode .path seg :: stack) rest

/-- The text of a path in front of a query or fragment, with its dot segments resolved. -/
def readPath (cs : List Char) : List Char :=
  match cs.takeWhile fun c => c != '?' && c != '#' with
  | [] => []
  | '/' :: rest => (resolveDots [] (rest.splitOn '/')).flatMap ('/' :: ·)
  | other => (resolveDots [] (other.splitOn '/')).flatMap ('/' :: ·)

/-- The query of what follows the authority. -/
def readQuery (cs : List Char) : Option (List Char) :=
  match cs.dropWhile fun c => c != '?' && c != '#' with
  | '?' :: rest => some (encode .query (rest.takeWhile (· != '#')))
  | _ => none

/-! ### The whole -/

/-- The authority and what follows it. -/
def splitAuthority (backslash : Bool) (cs : List Char) : List Char × List Char :=
  let ends := fun c => c == '/' || c == '?' || c == '#' || (backslash && c == '\\')
  (cs.takeWhile (!ends ·), cs.dropWhile (!ends ·))

/-- User, password and the rest of an authority, which stands in front of `behind`. -/
def readLogin (authority behind : List Char) :
    Except UrlError (List Char × Option (List Char) × List Char) :=
  match splitLastAt? authority with
  | none => .ok ([], none, authority)
  | some ([], rest) =>
    if rest.isEmpty && !behind.isEmpty then .error .emptyHost else .ok ([], none, rest)
  | some (info, rest) =>
    let (user, password) := readUserinfo info
    .ok (user, password, rest)

/-- A host, which the web cannot do without. -/
def readHost (web : Bool) (cs : List Char) : Except UrlError (List Char) :=
  if web then if cs.isEmpty then .error .emptyHost else domainHost cs
  else opaqueHost cs

/-- The port of an authority, if it has one, and what follows the authority. -/
def readPortPart (portText behind : List Char) : Except UrlError (Option Nat × List Char) :=
  match portText with
  | _ :: digits => readPort (digits ++ behind)
  | [] => .ok (none, behind)

/-- There is a host, or it is not needed. -/
def needHost (host : List Char) (needless : Bool) : Except UrlError Unit :=
  if host.isEmpty && !needless then .error .emptyHost else .ok ()

/-- The parts behind the two slashes of a scheme. -/
def readAuthority (scheme : List Char) (cs : List Char) : Except UrlError Parts := do
  let web := schemeKind scheme != .other
  let (authority, behind) := splitAuthority web cs
  let (user, password, hostPort) ← readLogin authority behind
  let (hostText, portText) := splitHost false hostPort
  let host ← readHost web hostText
  needHost host portText.isEmpty
  let (port, rest) ← readPortPart portText behind
  needHost host (user.isEmpty && password.isNone)
  return {
    scheme, user, password
    host := if host.isEmpty then none else some host
    port := if port == impliedPort scheme then none else port
    path := readPath rest
    query := readQuery rest }

/-- The host of a file, which may be missing. -/
def readFileHost (cs : List Char) : Except UrlError Unit := do
  let (host, _) := splitAuthority true cs
  if host.isEmpty || (isDrive host && host.length == 2) then return
  let _ ← domainHost host

/-- The text without control characters and blanks around it and without tabs and line breaks. -/
def clean (cs : List Char) : List Char :=
  let low : Char → Bool := fun c => c.toNat ≤ 32
  (((cs.dropWhile low).reverse.dropWhile low).reverse).filter fun c =>
    c != '\t' && c != '\n' && c != '\r'

/-- The parts of a URL. -/
def read (text : List Char) : Except UrlError Parts :=
  match splitScheme? (clean text) with
  | none => .error .noScheme
  | some (scheme, rest) =>
    match schemeKind scheme, rest with
    | .file, a :: b :: behind =>
      if (a == '/' || a == '\\') && (b == '/' || b == '\\') then
        (readFileHost behind).map fun _ => { scheme }
      else .ok { scheme }
    | .file, _ => .ok { scheme }
    | .web, _ => readAuthority scheme (rest.dropWhile fun c => c == '/' || c == '\\')
    | .other, '/' :: '/' :: behind => readAuthority scheme behind
    | .other, '/' :: _ => .ok { scheme, path := readPath rest, query := readQuery rest }
    | .other, _ =>
      .ok { scheme,
            path := encode .controls (rest.takeWhile fun c => c != '?' && c != '#')
            query := readQuery rest }

end QueryGate.Url
