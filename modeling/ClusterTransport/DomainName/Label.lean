import ClusterTransport.DomainName.Composition
import ClusterTransport.DomainName.Joiner
import ClusterTransport.DomainName.Punycode
import ClusterTransport.DomainName.Replacement

/-!
# Labels

The labels of a domain name, after their characters were replaced and composed. One that is encoded
in ASCII is checked as what it stands for.
-/

namespace ClusterTransport.DomainName

open Text

/-- The mark in front of an encoded label. -/
def encodedMark : List Char := ['x', 'n', '-', '-']

/-- The greatest length of an encoded label behind its mark. -/
def maxEncodedLength : Nat := 2000

/-- The greatest length of a label that would have to be encoded. -/
def maxLength : Nat := 1000

def isAscii (c : Char) : Bool :=
  c.toNat < 0x80

/-- The characters that no domain name holds: they do not show, or have a meaning of their own in
a URL. -/
def isForbidden (c : Char) : Bool :=
  c.toNat ≤ 0x20 || c.toNat == 0x7F ||
    ['#', '%', '/', ':', '<', '>', '?', '@', '[', '\\', ']', '^', '|'].contains c

/-- Whether a label beyond ASCII is well formed: it does not start with a mark, nor as an encoded
one does, and its joiners have something to join. -/
def isWellFormed (label : List Char) : Bool :=
  !(label.take 1).any isMark && joinersFit [] label && label.take 4 != encodedMark

/-- Whether a text stays as it is when its characters are replaced and composed. -/
def isNormal (s : List Char) : Bool :=
  s.all (fun c => replace c == some [c]) && compose s == s

def decodeLabel? (label : List Char) : Option (List Char) :=
  let code := label.drop encodedMark.length
  if !label.all isAscii || label.getLast? == some '-' || maxEncodedLength < code.length then none
  else (Punycode.decode? code).filter fun s => isNormal s && isWellFormed s

/-- Reads a label whose characters are replaced and composed. -/
def readLabel? (label : List Char) : Option (List Char) :=
  if label.any isForbidden then none
  else if label.take 4 == encodedMark then decodeLabel? label
  else if label.all isAscii then some label
  else if isWellFormed label && label.length ≤ maxLength then some label
  else none

end ClusterTransport.DomainName
