import ClusterTransport.Config.Fields
import ClusterTransport.Endpoint

/-!
# Strict reading

Values of the kind that is asked for, and no others: texts, truth values and numbers are not
converted into each other, and an integer is not read from a floating-point number. Endpoint
records are read in the same way.
-/

namespace ClusterTransport.Config

def strictText : Json → Option String
  | .string s => some s
  | _ => none

def strictBool : Json → Option Bool
  | .bool b => some b
  | _ => none

/-- An integer from zero to `limit`. -/
def strictNat (limit : Nat) : Json → Option Nat
  | .int n => if 0 ≤ n ∧ n ≤ limit then some n.toNat else none
  | _ => none

def strictFloat : Json → Option Float
  | .int n => some (Float.ofInt n)
  | .float x => some x
  | _ => none

def strict : Conversions where
  text := strictText
  bool := strictBool
  nat v := (strictNat 0xFFFFFFFFFFFFFFFF v).map UInt64.ofNat
  float := strictFloat
  marker v := match v with
    | .null => true
    | _ => false
  surplus := false

end ClusterTransport.Config

namespace ClusterTransport.Endpoint

def readLoad : Json → Option LoadFactor
  | .int n => some ⟨(Float32.ofInt n).toBits⟩
  | .float x => some (.ofFloat x)
  | _ => none

def required {α : Type} (s : Config.Source) (key : String) (place : Nat) (f : Json → Option α) :
    Option α :=
  (s.value? key place).bind f

/-- Reads an endpoint record. Host and port must be there. -/
def ofJson : Json → Option Endpoint :=
  Config.readStructure Config.strict 5 fun s => do
    let host ← required s "host" 0 Config.strictText
    let port ← required s "port" 1 (Config.strictNat 65535)
    let nodeId ← s.read "node_id" 2 (Config.strictNat 0xFFFFFFFF) 0
    let location ← s.read "location" 3 Config.strictText ""
    let loadFactor ← s.read "load_factor" 4 readLoad .zero
    pure {
      host, port := UInt16.ofNat port, nodeId := UInt32.ofNat nodeId, location, loadFactor }

end ClusterTransport.Endpoint
