import ClusterTransport.Text.Utf8
import ClusterTransport.Wire.Varint

/-!
# Fields of a wire message

A message is a sequence of fields, each a key (field number and wire type) and a value. Readers
take the value off the front of the remaining bytes of the whole input; faults name the fields
that enclose them, the innermost first.
-/

namespace ClusterTransport.Wire

inductive WireType where
  | varint
  | sixtyFourBit
  | lengthDelimited
  | startGroup
  | endGroup
  | thirtyTwoBit
deriving DecidableEq, Repr

namespace WireType

def number : WireType → Nat
  | varint => 0
  | sixtyFourBit => 1
  | lengthDelimited => 2
  | startGroup => 3
  | endGroup => 4
  | thirtyTwoBit => 5

def ofNumber? : Nat → Option WireType
  | 0 => some varint
  | 1 => some sixtyFourBit
  | 2 => some lengthDelimited
  | 3 => some startGroup
  | 4 => some endGroup
  | 5 => some thirtyTwoBit
  | _ => none

@[simp] theorem ofNumber?_number (w : WireType) : ofNumber? w.number = some w := by
  cases w <;> rfl

def name : WireType → String
  | varint => "Varint"
  | sixtyFourBit => "SixtyFourBit"
  | lengthDelimited => "LengthDelimited"
  | startGroup => "StartGroup"
  | endGroup => "EndGroup"
  | thirtyTwoBit => "ThirtyTwoBit"

end WireType

inductive Reason where
  | invalidVarint
  | bufferUnderflow
  | lengthExceeded
  | wireType (actual expected : WireType)
  | wireTypeNumber (n : Nat)
  | zeroTag
  | key (n : Nat)
  | notUtf8
  | endGroup
  | recursionLimit
deriving DecidableEq, Repr

def Reason.message : Reason → String
  | .invalidVarint => "invalid varint"
  | .bufferUnderflow => "buffer underflow"
  | .lengthExceeded => "delimited length exceeded"
  | .wireType actual expected =>
    "invalid wire type: " ++ actual.name ++ " (expected " ++ expected.name ++ ")"
  | .wireTypeNumber n => "invalid wire type value: " ++ toString n
  | .zeroTag => "invalid tag value: 0"
  | .key n => "invalid key value: " ++ toString n
  | .notUtf8 => "invalid string value: data is not UTF-8 encoded"
  | .endGroup => "unexpected end group tag"
  | .recursionLimit => "recursion limit reached"

/-- A field by the names of its message and of itself. -/
structure FieldName where
  message : String
  field : String
deriving DecidableEq, Repr

structure Fault where
  reason : Reason
  /-- The enclosing fields, the innermost first. -/
  path : List FieldName := []
deriving DecidableEq, Repr

def Fault.message (f : Fault) : String :=
  "failed to decode Protobuf message: " ++
    String.join (f.path.map fun n => n.message ++ "." ++ n.field ++ ": ") ++ f.reason.message

/-- What a reader gives: a value and the bytes after it, or a fault. -/
abbrev Read (α : Type) := Except Fault (α × List UInt8)

/-- Adds the enclosing field to the fault of a reader. -/
def within {α : Type} (message field : String) : Read α → Read α
  | .ok r => .ok r
  | .error f => .error { f with path := f.path ++ [⟨message, field⟩] }

def fail {α : Type} (r : Reason) : Read α :=
  .error { reason := r }

structure Key where
  number : Nat
  wireType : WireType
deriving DecidableEq, Repr

def key (number : Nat) (w : WireType) : List UInt8 :=
  varint (number * 8 + w.number)

def readVarint (bytes : List UInt8) : Read Nat :=
  match readVarint? bytes with
  | some r => .ok r
  | none => fail .invalidVarint

/-- Reads a key; its size is checked before its wire type, and that before its field number. -/
def readKey (bytes : List UInt8) : Read Key :=
  match readVarint bytes with
  | .error f => .error f
  | .ok (n, rest) =>
    if 0xFFFFFFFF < n then fail (.key n)
    else
      match WireType.ofNumber? (n % 8) with
      | none => fail (.wireTypeNumber (n % 8))
      | some w => if n / 8 = 0 then fail .zeroTag else .ok (⟨n / 8, w⟩, rest)

/-- Goes on only if a value is laid out as expected. -/
def expecting {α : Type} (expected actual : WireType) (r : Read α) : Read α :=
  if actual = expected then r else fail (.wireType actual expected)

/-- Reads a length and takes that many bytes. -/
def readChunk (bytes : List UInt8) : Read (List UInt8) :=
  match readVarint bytes with
  | .error f => .error f
  | .ok (n, rest) =>
    if rest.length < n then fail .bufferUnderflow else .ok (rest.take n, rest.drop n)

def readNat (w : WireType) (bytes : List UInt8) : Read Nat :=
  expecting .varint w (readVarint bytes)

def readBytes (w : WireType) (bytes : List UInt8) : Read (List UInt8) :=
  expecting .lengthDelimited w (readChunk bytes)

def readString (w : WireType) (bytes : List UInt8) : Read String :=
  match readBytes w bytes with
  | .error f => .error f
  | .ok (chunk, rest) =>
    match Text.Utf8.decode? chunk with
    | some s => .ok (s, rest)
    | none => fail .notUtf8

/-- The four bytes of a word, lowest first. -/
def fixed32 (n : UInt32) : List UInt8 :=
  [UInt8.ofNat n.toNat, UInt8.ofNat (n.toNat / 256), UInt8.ofNat (n.toNat / 65536),
    UInt8.ofNat (n.toNat / 16777216)]

def readFixed32 (w : WireType) (bytes : List UInt8) : Read UInt32 :=
  expecting .thirtyTwoBit w <|
    match bytes with
    | a :: b :: c :: d :: rest =>
      .ok (UInt32.ofNat (a.toNat + 256 * b.toNat + 65536 * c.toNat + 16777216 * d.toNat), rest)
    | _ => fail .bufferUnderflow

/-- How many levels of messages and groups may be open inside the outermost message. -/
def recursionLimit : Nat := 100

def skipBytes (n : Nat) (bytes : List UInt8) : Read Unit :=
  if bytes.length < n then fail .bufferUnderflow else .ok ((), bytes.drop n)

/-- Skips the fields of a group up to its end, with `skip` for their values. -/
def skipGroup (skip : Key → List UInt8 → Read Unit) (number : Nat) (bytes : List UInt8) :
    Read Unit :=
  match readKey bytes with
  | .error f => .error f
  | .ok (k, rest) =>
    if k.wireType = .endGroup then
      if k.number = number then .ok ((), rest) else fail .endGroup
    else
      match skip k rest with
      | .error f => .error f
      | .ok ((), rest') =>
        if rest'.length < bytes.length then skipGroup skip number rest' else fail .bufferUnderflow
termination_by bytes.length

/-- Skips the value behind a key of an unknown field, `depth` levels above the limit. -/
def skipValue : Nat → Key → List UInt8 → Read Unit
  | 0, _, _ => fail .recursionLimit
  | depth + 1, k, bytes =>
    match k.wireType with
    | .varint => (readVarint bytes).map fun r => ((), r.2)
    | .thirtyTwoBit => skipBytes 4 bytes
    | .sixtyFourBit => skipBytes 8 bytes
    | .lengthDelimited => (readChunk bytes).map fun r => ((), r.2)
    | .startGroup => skipGroup (skipValue depth) k.number bytes
    | .endGroup => fail .endGroup

/-- Merges fields into a message until no more than `stop` bytes are left. -/
def mergeFields {μ : Type} (merge : Key → μ → List UInt8 → Read μ) (stop : Nat) (m : μ)
    (bytes : List UInt8) : Read μ :=
  if bytes.length ≤ stop then .ok (m, bytes)
  else
    match readKey bytes with
    | .error f => .error f
    | .ok (k, rest) =>
      match merge k m rest with
      | .error f => .error f
      | .ok (m', rest') =>
        if rest'.length < bytes.length then mergeFields merge stop m' rest'
        else fail .bufferUnderflow
termination_by bytes.length

/-- Merges the fields behind a length into a message. The fields are read from all bytes that
remain, and must end where the length says. -/
def mergeDelimited {μ : Type} (merge : Key → μ → List UInt8 → Read μ) (m : μ)
    (bytes : List UInt8) : Read μ :=
  match readVarint bytes with
  | .error f => .error f
  | .ok (n, rest) =>
    if rest.length < n then fail .bufferUnderflow
    else
      match mergeFields merge (rest.length - n) m rest with
      | .error f => .error f
      | .ok (m', rest') =>
        if rest'.length = rest.length - n then .ok (m', rest') else fail .lengthExceeded

/-- Merges a message field into a message; `merge` is told the depth that is left below it. -/
def mergeMessage {μ : Type} (merge : Nat → Key → μ → List UInt8 → Read μ) (depth : Nat)
    (w : WireType) (m : μ) (bytes : List UInt8) : Read μ :=
  expecting .lengthDelimited w <|
    match depth with
    | 0 => fail .recursionLimit
    | depth + 1 => mergeDelimited (merge depth) m bytes

def decodeMessage {μ : Type} (merge : Nat → Key → μ → List UInt8 → Read μ) (empty : μ)
    (bytes : List UInt8) : Except Fault μ :=
  (mergeFields (merge recursionLimit) 0 empty bytes).map Prod.fst

/-- A field of bytes behind their length. -/
def delimited (number : Nat) (bytes : List UInt8) : List UInt8 :=
  key number .lengthDelimited ++ varint bytes.length ++ bytes

def natField (number n : Nat) : List UInt8 :=
  if n = 0 then [] else key number .varint ++ varint n

/-- A signed field of 32 bits, left out if zero; negative numbers are written with 64 bits. -/
def int32Field (number : Nat) (n : Int32) : List UInt8 :=
  natField number (n.toInt64.toUInt64.toNat)

def boolField (number : Nat) (b : Bool) : List UInt8 :=
  natField number b.toNat

def stringField (number : Nat) (s : String) : List UInt8 :=
  if s.isEmpty then [] else delimited number (Text.Utf8.encode s)

def bytesField (number : Nat) (bytes : List UInt8) : List UInt8 :=
  if bytes.isEmpty then [] else delimited number bytes

def stringFields (number : Nat) (ss : List String) : List UInt8 :=
  ss.flatMap fun s => delimited number (Text.Utf8.encode s)

/-- A number of single width, left out if it is zero of either sign. -/
def floatField (number : Nat) (bits : UInt32) : List UInt8 :=
  if bits.toNat % 0x80000000 = 0 then [] else key number .thirtyTwoBit ++ fixed32 bits

end ClusterTransport.Wire
