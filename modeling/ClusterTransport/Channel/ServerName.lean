import ClusterTransport.Text.Pieces
import ClusterTransport.Url.Ipv6

/-!
# Server names

The names that a server can be certified under: domain names and numeric addresses.
-/

namespace ClusterTransport.ServerName

def isDigit (c : Char) : Bool :=
  '0' ≤ c && c ≤ '9'

/-- Whether a character may stand at the start and at the end of a label. -/
def isEdge (c : Char) : Bool :=
  isDigit c || ('a' ≤ c && c ≤ 'z') || ('A' ≤ c && c ≤ 'Z') || c == '_'

def maxLabel : Nat := 63

def maxLength : Nat := 253

/-- Whether a text is a label: letters, digits, hyphens and underscores, without a hyphen at an
end. -/
def isLabel (s : List Char) : Bool :=
  s.all (fun c => isEdge c || c == '-') && (s.head?.any isEdge) && (s.getLast?.any isEdge) &&
    s.length ≤ maxLabel

/-- Whether labels are those of a domain name, of which the last is not a number. -/
def areLabels (l : List (List Char)) : Bool :=
  l.all isLabel && (l.getLast?.any fun label => !label.all isDigit)

/-- Whether a text is a domain name, with or without a final dot. -/
def isDomain (s : List Char) : Bool :=
  let all := Text.splitAll '.' s
  s.length ≤ maxLength && (areLabels all || (all.getLast? == some [] && areLabels all.dropLast))

/-- Whether a server can be certified under a text. -/
def isValid (s : String) : Bool :=
  isDomain s.toList || (Url.Ipv6.dotted 4 s.toList).isSome || (Url.Ipv6.read s.toList).isSome

end ClusterTransport.ServerName
