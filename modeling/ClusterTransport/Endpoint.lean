import ClusterTransport.Address

/-!
# Endpoints

A server as discovery reports it. Two records are of one endpoint when their addresses agree;
node, location and load only describe it.
-/

namespace ClusterTransport

/-- A load factor: the bits of a binary floating-point number of single width. -/
structure LoadFactor where
  bits : UInt32
deriving DecidableEq, Repr

namespace LoadFactor

def zero : LoadFactor := ⟨0⟩

def ofFloat (x : Float) : LoadFactor :=
  ⟨x.toFloat32.toBits⟩

def isNaN (l : LoadFactor) : Bool :=
  decide (0x7F800000 < l.bits.toNat % 0x80000000)

def isNegative (l : LoadFactor) : Bool :=
  decide (0x80000000 ≤ l.bits.toNat)

/-- The bits of the exponent; all of them are set unless the load is a finite number. -/
def exponentField (l : LoadFactor) : Nat :=
  l.bits.toNat / 0x800000 % 0x100

/-- The digits of a finite load, which is `mantissa * 2 ^ exponent` but for its sign. -/
def mantissa (l : LoadFactor) : Nat :=
  if l.exponentField = 0 then l.bits.toNat % 0x800000 else 0x800000 + l.bits.toNat % 0x800000

def exponent (l : LoadFactor) : Int :=
  Int.ofNat (max l.exponentField 1) - 150

/-- The number that the bits stand for. Double width holds the digits, the power of two and their
product exactly. -/
def toFloat (l : LoadFactor) : Float :=
  let magnitude :=
    if l.exponentField = 0xFF then 1.0 / 0.0
    else
      l.mantissa.toUInt64.toFloat *
        Float.ofBits ((l.exponent + 1023).toNat.toUInt64 * 0x10000000000000)
  if l.isNaN then 0.0 / 0.0 else if l.isNegative then -magnitude else magnitude

end LoadFactor

structure Endpoint extends Address where
  /-- The number of the server node, 0 when unknown. -/
  nodeId : UInt32 := 0
  location : String := ""
  loadFactor : LoadFactor := .zero
deriving DecidableEq, Repr

namespace Endpoint

def ofAddress (a : Address) : Endpoint :=
  { a with }

def address (e : Endpoint) : String :=
  e.toAddress.render

def same (a b : Endpoint) : Bool :=
  a.toAddress = b.toAddress

theorem same_iff {a b : Endpoint} : a.same b = true ↔ a.toAddress = b.toAddress := by
  simp [same]

theorem same_comm (a b : Endpoint) : a.same b = b.same a := by
  rw [Bool.eq_iff_iff, same_iff, same_iff, eq_comm]

def parse (s : String) : Except Address.Fault Endpoint :=
  (Address.parse s).map ofAddress

end Endpoint

end ClusterTransport
