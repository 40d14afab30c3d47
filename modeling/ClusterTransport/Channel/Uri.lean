import ClusterTransport.Channel.Authority
import ClusterTransport.Text.Utf8

/-!
# Addresses of services

URIs by which a channel is told where to connect: an authority alone, a path alone, or a scheme
with an authority and a path.
-/

namespace ClusterTransport.Uri

/-- The greatest length of a URI in bytes. -/
def maxLength : Nat := 65534

def maxSchemeLength : Nat := 64

def inPath (c : Char) : Bool :=
  let n := c.toNat
  n == 0x21 || (0x24 ≤ n && n ≤ 0x3B) || n == 0x3D || (0x40 ≤ n && n ≤ 0x5F) ||
    (0x61 ≤ n && n ≤ 0x7A) || n == 0x7C || n == 0x7E || 0x80 ≤ n || c == '"' || c == '\x7b' ||
    c == '\x7d'

def inQuery (c : Char) : Bool :=
  let n := c.toNat
  n == 0x21 || (0x24 ≤ n && n ≤ 0x3B) || n == 0x3D || (0x3F ≤ n && n ≤ 0x7E) || 0x80 ≤ n

/-- Reads a path and checks its query; a fragment is dropped unread. -/
def readPath (s : List Char) : Option (List Char) :=
  let path := s.takeWhile fun c => c ≠ '?' && c ≠ '#'
  let query :=
    ((s.dropWhile fun c => c ≠ '?' && c ≠ '#').takeWhile (· ≠ '#')).drop 1
  if path.all inPath && query.all inQuery then some path else none

def inScheme (c : Char) : Bool :=
  ('a' ≤ c && c ≤ 'z') || ('A' ≤ c && c ≤ 'Z') || ('0' ≤ c && c ≤ '9') ||
    c == '+' || c == '-' || c == '.' || c == '~'

def splitScheme (s : List Char) : Option (List Char × List Char) :=
  match s.dropWhile inScheme with
  | ':' :: '/' :: '/' :: rest => some (s.takeWhile inScheme, rest)
  | _ => none

def isValid (uri : String) : Bool :=
  if maxLength < (Text.Utf8.encode uri).length then false
  else
    match uri.toList with
    | [] => false
    | ['*'] => true
    | '/' :: path => (readPath ('/' :: path)).isSome
    | s =>
      match splitScheme s with
      | none => (Authority.split s).2.isEmpty && Authority.isValid s
      | some (scheme, rest) =>
        let r := Authority.split rest
        decide (scheme.length ≤ maxSchemeLength) && !r.1.isEmpty && Authority.isValid r.1 &&
          (readPath r.2).isSome

end ClusterTransport.Uri
