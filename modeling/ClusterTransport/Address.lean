import ClusterTransport.Text.Blank
import ClusterTransport.Text.Numeral

/-!
# Addresses

A host and a port: what tells two endpoints apart. An address is written `host:port`, with the
host in brackets if it holds a colon, and read from that form, from a bare host, or from a bare
host with several colons.
-/

namespace ClusterTransport

structure Address where
  host : String
  port : UInt16
deriving DecidableEq, Repr

namespace Address

/-- The port of an address that names none. -/
def defaultPort : UInt16 := 2135

/-- Why a text is no address. Faults name the text without surrounding white space. -/
inductive Fault where
  | empty
  | unreadable (text : String)
  | invalidPort (text : String) (fault : Text.Numeral.Fault)
deriving DecidableEq, Repr

def Fault.message : Fault → String
  | .empty => "empty endpoint"
  | .unreadable text => "unreadable endpoint " ++ text
  | .invalidPort text fault => "invalid port in endpoint " ++ text ++ ": " ++ fault.message

/-- The characters before and after the first `c`. -/
def splitFirst (c : Char) : List Char → Option (List Char × List Char)
  | [] => none
  | d :: s => if d = c then some ([], s) else (splitFirst c s).map fun r => (d :: r.1, r.2)

/-- A port in decimal, with an optional plus sign. -/
def readPort (text port : List Char) : Except Fault UInt16 :=
  match Text.Numeral.readNat 65535 port with
  | .ok n => .ok (UInt16.ofNat n)
  | .error fault => .error (.invalidPort (String.ofList text) fault)

def readBracketed (text inner : List Char) : Except Fault Address :=
  match splitFirst ']' inner with
  | none => .error (.unreadable (String.ofList text))
  | some (host, []) => .ok ⟨String.ofList host, defaultPort⟩
  | some (host, ':' :: port) =>
    (readPort text port).map fun p => ⟨String.ofList host, p⟩
  | some _ => .error (.unreadable (String.ofList text))

/-- An address without brackets: one colon sets off a port, any other number of them belongs to
the host. -/
def readPlain (text : List Char) : Except Fault Address :=
  match splitFirst ':' text with
  | none => .ok ⟨String.ofList text, defaultPort⟩
  | some (host, port) =>
    if ':' ∈ port then .ok ⟨String.ofList text, defaultPort⟩
    else (readPort text port).map fun p => ⟨String.ofList host, p⟩

def read : List Char → Except Fault Address
  | [] => .error .empty
  | '[' :: inner => readBracketed ('[' :: inner) inner
  | text => readPlain text

/-- Reads an address; surrounding white space is ignored. -/
def parse (s : String) : Except Fault Address :=
  read (Text.trim s.toList)

def render (a : Address) : String :=
  if ':' ∈ a.host.toList then "[" ++ a.host ++ "]:" ++ toString a.port.toNat
  else a.host ++ ":" ++ toString a.port.toNat

end Address

end ClusterTransport
