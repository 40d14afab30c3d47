import ClusterTransport.Text.Numeral
import ClusterTransport.Text.Pieces
import ClusterTransport.Text.Utf8

/-!
# Percent encoding

Bytes as `%` and two hexadecimal digits, and the form encoding of query strings on top of it.
-/

namespace ClusterTransport.Url.Percent

open Text

def byte (b : UInt8) : List Char :=
  ['%', Numeral.upperHexDigit (b.toNat / 16), Numeral.upperHexDigit (b.toNat % 16)]

/-- Encodes the ASCII characters for which `reserved` holds, and all others beyond ASCII. -/
def encodeChar (reserved : Char → Bool) (c : Char) : List Char :=
  if c.toNat < 0x80 ∧ reserved c = false then [c] else (String.utf8EncodeChar c).flatMap byte

def encode (reserved : Char → Bool) (s : List Char) : List Char :=
  s.flatMap (encodeChar reserved)

/-- Decodes every complete escape and leaves all other bytes as they are. -/
def decode : List UInt8 → List UInt8
  | [] => []
  | 37 :: h :: l :: rest =>
    match Numeral.hexDigit? (Char.ofNat h.toNat), Numeral.hexDigit? (Char.ofNat l.toNat) with
    | some hi, some lo => UInt8.ofNat (16 * hi + lo) :: decode rest
    | _, _ => 37 :: decode (h :: l :: rest)
  | b :: rest => b :: decode rest

def isControl (c : Char) : Bool :=
  decide (c.toNat < 0x20) || c.toNat == 0x7F

def reservedInPath (c : Char) : Bool :=
  isControl c || [' ', '"', '#', '<', '>', '?', Char.ofNat 96, '\x7b', '\x7d'].contains c

/-- One name or value of a query string: plus signs are spaces, escapes are bytes. -/
def decodeForm (s : List Char) : String :=
  Utf8.decodeLossy <|
    decode ((Utf8.encode (String.ofList s)).map fun b => if b = 43 then 32 else b)

def plainInForm (b : UInt8) : Bool :=
  (48 ≤ b && b ≤ 57) || (65 ≤ b && b ≤ 90) || (97 ≤ b && b ≤ 122) || b == 42 || b == 45 ||
    b == 46 || b == 95

def encodeForm (s : String) : List Char :=
  (Utf8.encode s).flatMap fun b =>
    if b = 32 then ['+'] else if plainInForm b then [Char.ofNat b.toNat] else byte b

def pairs (query : List Char) : List (String × String) :=
  ((splitAll '&' query).filter fun piece => !piece.isEmpty).map fun piece =>
    let r := cut '=' piece
    (decodeForm r.1, decodeForm r.2)

end ClusterTransport.Url.Percent
