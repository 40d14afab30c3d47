import ClusterTransport.Clock

/-!
# Timeouts on the wire

A span as at most eight digits and a unit, rounded down in the finest unit that needs no more.
-/

namespace ClusterTransport

structure WireTimeout where
  amount : Nat
  symbol : Char
  unit : Span
deriving DecidableEq, Repr

namespace WireTimeout

/-- The greatest amount of eight digits. -/
def greatest : Nat := 99999999

/-- The units with their symbols, the finest first. -/
def units : List (Char × Span) :=
  [('n', 1), ('u', 1000), ('m', 1000000), ('S', 1000000000), ('M', 60000000000),
    ('H', 3600000000000)]

/-- A span in the first of some units in which it has eight digits or fewer. -/
def inUnits (d : Span) : List (Char × Span) → Option WireTimeout
  | [] => none
  | (symbol, unit) :: units =>
    if d / unit ≤ greatest then some ⟨d / unit, symbol, unit⟩ else inUnits d units

def ofSpan? (d : Span) : Option WireTimeout :=
  inUnits d units

def render (t : WireTimeout) : String :=
  toString t.amount ++ String.singleton t.symbol

def span (t : WireTimeout) : Span :=
  t.amount * t.unit

end WireTimeout

end ClusterTransport
