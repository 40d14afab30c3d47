import ClusterTransport.DomainName
import ClusterTransport.Url.Basic

/-!
# Web URLs

What makes a URL with a scheme of the web invalid. Their hosts are domain names or IPv4 addresses.
-/

namespace ClusterTransport.Url.Web

open Text

/-- The schemes of the web other than that of files. -/
def schemes : List String := ["http", "https", "ws", "wss", "ftp"]

/-- A number of an IPv4 address in decimal, octal or hexadecimal. -/
def ipv4Number (s : List Char) : Option Nat :=
  match s with
  | [] => none
  | '0' :: 'x' :: digits => read 16 digits
  | '0' :: 'X' :: digits => read 16 digits
  | ['0'] => some 0
  | '0' :: digits => read 8 digits
  | digits => read 10 digits
where
  read (base : Nat) (digits : List Char) : Option Nat :=
    digits.foldlM (fun v c => (Numeral.hexDigit? c).bind fun d =>
      if d < base then some (v * base + d) else none) 0

/-- The labels of a name without the empty one behind a final dot. -/
def labels (name : List Char) : List (List Char) :=
  match (splitAll '.' name).reverse with
  | [] :: rest => rest.reverse
  | pieces => pieces.reverse

/-- Whether a name has to be read as an IPv4 address. -/
def endsInNumber (name : List Char) : Bool :=
  match (labels name).getLast? with
  | none => false
  | some last =>
    (!last.isEmpty && last.all fun c => (Numeral.digit? c).isSome) || (ipv4Number last).isSome

def isIpv4 (name : List Char) : Bool :=
  match ((labels name).mapM ipv4Number).map List.reverse with
  | none => false
  | some [] => false
  | some (last :: others) =>
    others.length < 4 && last < Nat.pow 256 (4 - others.length) && others.all fun n => n < 256

def checkHost (s : List Char) : Except Fault Unit :=
  match s with
  | '[' :: inner => (readBracketed inner).map fun _ => ()
  | s =>
    let bytes := Percent.decode (Utf8.encode (String.ofList s))
    match (Utf8.decode? bytes).bind fun name => DomainName.read? name.toList with
    | none => .error .invalidInternationalName
    | some name =>
      if name.isEmpty then .error .emptyHost
      else if endsInNumber name && !isIpv4 name then .error .invalidIpv4
      else .ok ()

def check (s : List Char) : Except Fault Unit := do
  let s := s.dropWhile fun c => c == '/' || c == '\\'
  let authority := s.takeWhile fun c => !endsAuthority true c
  let behind := s.dropWhile fun c => !endsAuthority true c
  let credentials := splitLastAt authority
  if (credentials.any fun r => r.1.isEmpty && r.2.isEmpty) && !behind.isEmpty then
    throw .emptyHost
  let r := splitHost true false ((credentials.elim authority Prod.snd) ++ behind)
  if r.1.isEmpty then throw .emptyHost
  checkHost r.1
  discard (readPortPart r.2)

def checkFile (s : List Char) : Except Fault Unit :=
  match s with
  | a :: b :: rest =>
    if (a == '/' || a == '\\') && (b == '/' || b == '\\') then
      let host := rest.takeWhile fun c => !endsAuthority true c
      if host.isEmpty || isDrive host then .ok () else checkHost host
    else .ok ()
  | _ => .ok ()

end ClusterTransport.Url.Web

namespace ClusterTransport.Url

/-- Reads a URL. Of web URLs only the scheme is kept. -/
def parse (s : String) : Except Fault Url :=
  match splitScheme (clean s.toList) with
  | none => .error .relative
  | some (scheme, rest) =>
    if scheme = "file" then (Web.checkFile rest).map fun _ => ⟨scheme, none, none, "", none⟩
    else if scheme ∈ Web.schemes then
      (Web.check rest).map fun _ => ⟨scheme, none, none, "", none⟩
    else readPlain scheme rest

end ClusterTransport.Url
