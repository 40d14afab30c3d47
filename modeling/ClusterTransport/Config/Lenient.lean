import ClusterTransport.Config.Fields
import ClusterTransport.Decimal.Reader
import ClusterTransport.Decimal.Shortest

/-!
# Lenient reading

Values of the kind that is asked for, or of another kind that converts into it: numbers and truth
values into each other and into texts, and texts into either if they spell one.
-/

namespace ClusterTransport.Config

open Text

def lower (s : String) : String :=
  String.ofList (s.toList.map Char.toLower)

/-- A text; numbers and truth values are written out. -/
def lenientText : Json → Option String
  | .string s => some s
  | .bool b => some (if b then "true" else "false")
  | .int n => some (toString n)
  | .float x => some (Decimal.render x)
  | _ => none

/-- A truth value; numbers are true unless zero, and texts may spell either. -/
def lenientBool : Json → Option Bool
  | .bool b => some b
  | .int n => some (n ≠ 0)
  | .float x => some (!(x == 0.0))
  | .string s =>
    if lower s ∈ ["1", "true", "on", "yes"] then some true
    else if lower s ∈ ["0", "false", "off", "no"] then some false
    else none
  | _ => none

/-- A number rounded to the nearest natural number of 64 bits, halves away from zero; what lies
outside the range becomes its nearer end, and what is no number zero. -/
def roundToNat (x : Float) : UInt64 :=
  x.round.toUInt64

def lenientNat : Json → Option UInt64
  | .int n => if 0 ≤ n ∧ n < 0x10000000000000000 then some (UInt64.ofNat n.toNat) else none
  | .bool b => some (if b then 1 else 0)
  | .float x => some (roundToNat x)
  | .string s =>
    if lower s ∈ ["true", "on", "yes"] then some 1
    else if lower s ∈ ["false", "off", "no"] then some 0
    else
      match Numeral.readNat 0xFFFFFFFFFFFFFFFF s.toList with
      | .ok n => some (UInt64.ofNat n)
      | .error _ => none
  | _ => none

def lenientFloat : Json → Option Float
  | .float x => some x
  | .int n => some (Float.ofInt n)
  | .bool b => some (if b then 1.0 else 0.0)
  | .string s =>
    if lower s ∈ ["true", "on", "yes"] then some 1.0
    else if lower s ∈ ["false", "off", "no"] then some 0.0
    else Decimal.read? s.toList
  | _ => none

def lenient : Conversions where
  text := lenientText
  bool := lenientBool
  nat := lenientNat
  float := lenientFloat
  marker _ := true
  surplus := true

end ClusterTransport.Config
