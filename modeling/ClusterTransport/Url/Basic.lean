import ClusterTransport.Url.Ipv6
import ClusterTransport.Url.Percent

/-!
# URLs

URLs whose scheme is not one of the web: the host is kept as it is written, or an IPv6 address.
-/

namespace ClusterTransport

inductive Url.Fault where
  | relative
  | emptyHost
  | invalidDomainCharacter
  | invalidIpv6
  | invalidIpv4
  | invalidInternationalName
  | invalidPort
deriving DecidableEq, Repr

def Url.Fault.message : Url.Fault → String
  | .relative => "relative URL without a base"
  | .emptyHost => "empty host"
  | .invalidDomainCharacter => "invalid domain character"
  | .invalidIpv6 => "invalid IPv6 address"
  | .invalidIpv4 => "invalid IPv4 address"
  | .invalidInternationalName => "invalid international domain name"
  | .invalidPort => "invalid port number"

inductive Url.Host where
  | name (text : String)
  | ipv6 (pieces : List Nat)
deriving DecidableEq, Repr

/-- A URL without its credentials and fragment. -/
structure Url where
  scheme : String
  host : Option Url.Host
  port : Option UInt16
  path : String
  query : Option String
deriving DecidableEq, Repr

namespace Url

/-- The host without the brackets of an IPv6 address. -/
def Host.text : Host → String
  | .name text => text
  | .ipv6 pieces => String.ofList (Ipv6.write pieces)

/-- The host as it stands in the URL: an IPv6 address is in brackets. -/
def Host.written : Host → List Char
  | .name text => text.toList
  | .ipv6 pieces => '[' :: (Ipv6.write pieces ++ [']'])

def lowerAscii (c : Char) : Char :=
  if 'A' ≤ c ∧ c ≤ 'Z' then Char.ofNat (c.toNat + 32) else c

def isAsciiLetter (c : Char) : Bool :=
  ('a' ≤ c && c ≤ 'z') || ('A' ≤ c && c ≤ 'Z')

def inScheme (c : Char) : Bool :=
  isAsciiLetter c || ('0' ≤ c && c ≤ '9') || c == '+' || c == '-' || c == '.'

/-- Drops controls and spaces at the ends, and tabs and line ends everywhere. -/
def clean (s : List Char) : List Char :=
  let atEnd := fun (c : Char) => decide (c.toNat ≤ 0x20)
  ((s.dropWhile atEnd).reverse.dropWhile atEnd).reverse.filter fun c =>
    !(c == '\t' || c == '\n' || c == '\r')

def splitScheme (s : List Char) : Option (String × List Char) :=
  match s with
  | [] => none
  | c :: _ =>
    if isAsciiLetter c then
      match s.dropWhile inScheme with
      | ':' :: rest => some (String.ofList ((s.takeWhile inScheme).map lowerAscii), rest)
      | _ => none
    else none

/-- Whether a character ends the authority of a URL; `web` counts the backslash in. -/
def endsAuthority (web : Bool) (c : Char) : Bool :=
  c == '/' || c == '?' || c == '#' || (web && c == '\\')

def splitLastAt (authority : List Char) : Option (List Char × List Char) :=
  if '@' ∈ authority then
    let back := authority.reverse
    some ((back.dropWhile (· != '@')).tail.reverse, (back.takeWhile (· != '@')).reverse)
  else none

/-- Whether credentials say anything: a lone colon does not. -/
def hasCredentials (credentials : List Char) : Bool :=
  !(credentials.isEmpty || credentials == [':'])

/-- Splits a host from what follows it; colons inside brackets belong to the host. -/
def splitHost (web : Bool) : Bool → List Char → List Char × List Char
  | _, [] => ([], [])
  | bracketed, c :: s =>
    if (c == ':' && !bracketed) || endsAuthority web c then ([], c :: s)
    else
      let r := splitHost web (if c == '[' then true else if c == ']' then false else bracketed) s
      (c :: r.1, r.2)

def forbiddenInHost (c : Char) : Bool :=
  let forbidden := ['\x00', '\t', '\n', '\r', ' ', '#', '/', ':', '<', '>', '?', '@', '[', '\\',
    ']', '^', '|']
  forbidden.contains c

def readBracketed (s : List Char) : Except Fault Host :=
  match s.reverse with
  | ']' :: inner =>
    match Ipv6.read inner.reverse with
    | some pieces => .ok (.ipv6 pieces)
    | none => .error .invalidIpv6
  | _ => .error .invalidIpv6

/-- Reads a host that is kept as written, with controls and all beyond ASCII percent-encoded. -/
def readHost (s : List Char) : Except Fault (Option Host) :=
  match s with
  | [] => .ok none
  | '[' :: inner => (readBracketed inner).map some
  | s =>
    if s.any forbiddenInHost then .error .invalidDomainCharacter
    else .ok (some (.name (String.ofList (Percent.encode Percent.isControl s))))

/-- Reads a port up to the end of the authority: its value if it has digits, and the rest. -/
def readPort (value : Option Nat) : List Char → Except Fault (Option UInt16 × List Char)
  | [] => .ok (value.map UInt16.ofNat, [])
  | c :: s =>
    match Text.Numeral.digit? c with
    | some d =>
      let v := value.getD 0 * 10 + d
      if 65535 < v then .error .invalidPort else readPort (some v) s
    | none =>
      if endsAuthority true c then .ok (value.map UInt16.ofNat, c :: s) else .error .invalidPort

def readPortPart (s : List Char) : Except Fault (Option UInt16 × List Char) :=
  match s with
  | ':' :: rest => readPort none rest
  | s => .ok (none, s)

/-- Whether a path segment stands for the one above; dots may be percent-encoded. -/
def isDoubleDot (segment : List Char) : Bool :=
  ["..", ".%2e", "%2e.", "%2e%2e"].contains (String.ofList (segment.map lowerAscii))

def isSingleDot (segment : List Char) : Bool :=
  [".", "%2e"].contains (String.ofList (segment.map lowerAscii))

def isDrive : List Char → Bool
  | [c, d] => isAsciiLetter c && (d == ':' || d == '|')
  | _ => false

/-- The segments above the last one; a drive letter is above all others and stays. -/
def leaveSegment : List (List Char) → List (List Char)
  | [] => []
  | last :: done => if isDrive last then last :: done else done

/-- Resolves dot segments onto the segments so far, the last of them first. -/
def resolveDots : List (List Char) → List (List Char) → List (List Char)
  | done, [] => done.reverse
  | done, segment :: rest =>
    if isDoubleDot segment then
      resolveDots (if rest.isEmpty then [] :: leaveSegment done else leaveSegment done) rest
    else if isSingleDot segment then resolveDots (if rest.isEmpty then [] :: done else done) rest
    else resolveDots (segment :: done) rest

/-- The path that starts with the given characters: dots resolved, reserved characters encoded. -/
def readPath (s : List Char) : String :=
  let segments :=
    match s with
    | [] => []
    | '/' :: rest => resolveDots [] (Text.splitAll '/' rest)
    | s => resolveDots [] (Text.splitAll '/' s)
  String.ofList (segments.flatMap fun g => '/' :: Percent.encode Percent.reservedInPath g)

def splitQuery (s : List Char) : List Char × Option (List Char) :=
  let kept := s.takeWhile (· != '#')
  match kept.dropWhile (· != '?') with
  | [] => (kept, none)
  | _ :: query => (kept.takeWhile (· != '?'), some query)

def readAuthority (scheme : String) (s : List Char) : Except Fault Url := do
  let authority := s.takeWhile fun c => !endsAuthority false c
  let behind := s.dropWhile fun c => !endsAuthority false c
  let credentials := splitLastAt authority
  let rest := (credentials.elim authority Prod.snd) ++ behind
  if (credentials.any fun r => r.1.isEmpty && r.2.isEmpty) && !behind.isEmpty then
    throw .emptyHost
  let r := splitHost false false rest
  let host ← readHost r.1
  if host.isNone && r.2.head? == some ':' then throw .emptyHost
  let (port, rest) ← readPortPart r.2
  if host.isNone && credentials.any fun r => hasCredentials r.1 then throw .emptyHost
  let (path, query) := splitQuery rest
  pure ⟨scheme, host, port, readPath path, query.map String.ofList⟩

def readPlain (scheme : String) (s : List Char) : Except Fault Url :=
  match s with
  | '/' :: '/' :: rest => readAuthority scheme rest
  | s =>
    let r := splitQuery s
    .ok ⟨scheme, none, none, readPath r.1, r.2.map String.ofList⟩

end Url

end ClusterTransport
