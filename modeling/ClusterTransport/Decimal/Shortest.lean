import ClusterTransport.Text.Numeral

/-!
# Shortest decimals

The decimal text of a number of double width: the fewest digits that read back to it, the nearest
of those, and of two equally near ones the upper; always positional.
-/

namespace ClusterTransport.Decimal

/-- A finite positive number of double width, `m * 2 ^ q`. -/
structure Binary where
  m : Nat
  q : Int
  /-- The gap to the value below is half the gap to the value above. -/
  narrowBelow : Bool

/-- The magnitude that the bits of a finite number stand for. -/
def Binary.ofBits (bits : UInt64) : Binary :=
  let exponent : Nat := bits.toNat / 0x10000000000000 % 0x800
  let fraction : Nat := bits.toNat % 0x10000000000000
  if exponent = 0 then ⟨fraction, -1074, false⟩
  else ⟨0x10000000000000 + fraction, Int.ofNat exponent - 1075, fraction = 0 && 1 < exponent⟩

def twoTo (n : Nat) : Nat :=
  Nat.pow 2 n

def tenTo (n : Nat) : Nat :=
  Nat.pow 10 n

/-- Compares `a * 10 ^ i` with `n * 2 ^ j`. -/
def compareScaled (a : Nat) (i : Int) (n : Nat) (j : Int) : Ordering :=
  compare (a * tenTo i.toNat * twoTo (-j).toNat) (n * twoTo j.toNat * tenTo (-i).toNat)

/-- Whether `digits * 10 ^ e` lies among the reals that round to the number; the ends of that
interval belong to it when `m` is even. -/
def Binary.readsBack (x : Binary) (digits : Nat) (e : Int) : Bool :=
  let low := compareScaled digits e (4 * x.m - if x.narrowBelow then 1 else 2) (x.q - 2)
  let high := compareScaled digits e (4 * x.m + 2) (x.q - 2)
  let ends := x.m % 2 = 0
  (low = .gt || (ends && low = .eq)) && (high = .lt || (ends && high = .eq))

/-- The greatest `digits` with `digits * 10 ^ e` not above the number. -/
def Binary.floorOn (x : Binary) (e : Int) : Nat :=
  x.m * twoTo x.q.toNat * tenTo (-e).toNat / (twoTo (-x.q).toNat * tenTo e.toNat)

/-- The better neighbour of the number on the grid of `10 ^ e`, if one reads back. -/
def Binary.onGrid (x : Binary) (e : Int) : Option (Nat × Int) :=
  let lower := x.floorOn e
  match x.readsBack lower e, x.readsBack (lower + 1) e with
  | true, false => some (lower, e)
  | false, true => some (lower + 1, e)
  | true, true =>
    if compareScaled (2 * lower + 1) e (2 * x.m) x.q = .gt then some (lower, e)
    else some (lower + 1, e)
  | false, false => none

/-- The first hit on grids that become finer by a factor of ten. -/
def Binary.search (x : Binary) : Nat → Int → Option (Nat × Int)
  | 0, _ => none
  | steps + 1, e =>
    match x.onGrid e with
    | some d => some d
    | none => x.search steps (e - 1)

/-- The shortest decimal of a positive number: digits and an exponent. -/
def Binary.shortest (x : Binary) : Nat × Int :=
  (x.search 700 309).getD (x.m * twoTo x.q.toNat * Nat.pow 5 (-x.q).toNat, min x.q 0)

/-- Digits with the decimal point moved by the exponent. -/
def positional (digits : Nat) (e : Int) : List Char :=
  let text := Nat.toDigits 10 digits
  if 0 ≤ e then text ++ List.replicate e.toNat '0'
  else
    let places := (-e).toNat
    let padded := List.replicate (places + 1 - text.length) '0' ++ text
    padded.take (padded.length - places) ++ '.' :: padded.drop (padded.length - places)

def render (x : Float) : String :=
  let bits := x.toBits
  let sign := if bits.toNat < 0x8000000000000000 then "" else "-"
  if x.isNaN then "NaN"
  else if x.isInf then sign ++ "inf"
  else if bits.toNat % 0x8000000000000000 = 0 then sign ++ "0"
  else
    let d := (Binary.ofBits bits).shortest
    sign ++ String.ofList (positional d.1 d.2)

end ClusterTransport.Decimal
