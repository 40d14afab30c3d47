/-!
# Authorities

The part of a URI that names a server: `user@host:port`, where the host may be an address in
brackets. It ends at the first slash, question mark or number sign.
-/

namespace ClusterTransport.Authority

def isEnd (c : Char) : Bool :=
  c == '/' || c == '?' || c == '#'

def isPlain (c : Char) : Bool :=
  ('a' ≤ c && c ≤ 'z') || ('A' ≤ c && c ≤ 'Z') || ('0' ≤ c && c ≤ '9') ||
    ['!', '$', '&', '\'', '(', ')', '*', '+', ',', '-', '.', ';', '=', '_', '~'].contains c

structure Seen where
  /-- The colons since the last bracket or `@`. -/
  colons : Nat := 0
  opened : Bool := false
  closed : Bool := false
  /-- Whether there was a percent sign since the last bracket or `@`. -/
  percent : Bool := false
  /-- Whether the last character was an `@`. -/
  atEnd : Bool := false
deriving DecidableEq, Repr

/-- The most colons in a row of characters without a bracket or `@`. -/
def maxColons : Nat := 8

def Seen.step (s : Seen) (c : Char) : Option Seen :=
  if c = ':' then
    if maxColons ≤ s.colons then none
    else some { s with colons := s.colons + 1, atEnd := false }
  else if c = '[' then
    if s.percent || s.opened then none else some { s with opened := true, atEnd := false }
  else if c = ']' then
    if !s.opened || s.closed then none
    else some { s with closed := true, colons := 0, percent := false, atEnd := false }
  else if c = '@' then some { s with colons := 0, percent := false, atEnd := true }
  else if c = '%' then some { s with percent := true, atEnd := false }
  else if isPlain c then some { s with atEnd := false }
  else none

def Seen.isComplete (s : Seen) : Bool :=
  s.opened == s.closed && s.colons ≤ 1 && !s.atEnd && !s.percent

/-- Whether a text is an authority. The empty text is one. -/
def isValid (s : List Char) : Bool :=
  (s.foldlM Seen.step {}).any Seen.isComplete

def split (s : List Char) : List Char × List Char :=
  (s.takeWhile fun c => !isEnd c, s.dropWhile fun c => !isEnd c)

/-- What follows the last `@`. -/
def withoutUser (s : List Char) : List Char :=
  (s.reverse.takeWhile (· ≠ '@')).reverse

/-- The host of an authority, an address without its brackets. -/
def host (s : List Char) : List Char :=
  match withoutUser s with
  | '[' :: rest => rest.takeWhile (· ≠ ']')
  | plain => plain.takeWhile (· ≠ ':')

def portText (s : List Char) : Option (List Char) :=
  if ':' ∈ s then some ((s.reverse.takeWhile (· ≠ ':')).reverse) else none

end ClusterTransport.Authority
