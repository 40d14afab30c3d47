import ClusterTransport.Endpoint

/-!
# Balancing

Which endpoints a call may go to, and how one of them is drawn. Draws take words of 64 bits from a
stream; the pick is a function of the candidates and the words.
-/

namespace ClusterTransport

inductive BalancingPolicy where
  | useAllNodes
  /-- Endpoints at one location are eligible, or all when none is there. -/
  | usePreferableLocation
deriving DecidableEq, Repr

inductive Weighting where
  | uniform
  /-- Endpoints with a lower load are drawn more often. -/
  | loadFactor
deriving DecidableEq, Repr

structure BalancingSettings where
  policy : BalancingPolicy := .usePreferableLocation
  /-- The location to prefer; that of the discovery server if unset. -/
  preferableLocation : Option String := none
  weighting : Weighting := .uniform
deriving DecidableEq, Repr

namespace Balancing

/-- A stream of random words: the words to come, drawn in order. -/
structure Words where
  next : Nat → UInt64
  drawn : Nat := 0

def Words.draw (w : Words) : UInt64 × Words :=
  (w.next w.drawn, { w with drawn := w.drawn + 1 })

def Words.drawBelow (w : Words) (span : Nat) : Nat × Words :=
  (w.draw.1.toNat % span, w.draw.2)

/-- What is drawn for an index below `k` is below this: half words suffice unless there are too many
indices for them. -/
def drawSpan (k : Nat) : Nat :=
  if k < 0x100000000 then 0x100000000 else 0x10000000000000000

/-- The index below `k` that a drawn part stands for, before its correction: the high part of their
product. -/
def uniformHigh (span k part : Nat) : Nat :=
  part * k / span

/-- Whether the low part of the product asks for a second draw. -/
def needsCorrection (span k part : Nat) : Bool :=
  span - k < part * k % span

def correction (span k part second : Nat) : Nat :=
  if span ≤ part * k % span + second * k / span then 1 else 0

/-- Draws an index below `k`, uniformly up to a small bias. -/
def uniformIndex (k : Nat) (w : Words) : Nat × Words :=
  let span := drawSpan k
  let first := w.drawBelow span
  if needsCorrection span k first.1 then
    let second := first.2.drawBelow span
    (uniformHigh span k first.1 + correction span k first.1 second.1, second.2)
  else (uniformHigh span k first.1, first.2)

def uniformPick {α : Type} (items : List α) (w : Words) : Option α × Words :=
  if items.isEmpty then (none, w)
  else
    let r := uniformIndex items.length w
    (items[r.1]?, r.2)

/-- The weight of a load: the smaller, the greater the load. Negative loads and those that are no
number count as none. -/
def weight (l : LoadFactor) : Float :=
  1.0 / (1.0 + (if l.isNaN then 0.0 else if l.toFloat < 0.0 then 0.0 else l.toFloat))

/-- The sums of weights from the left, without the last one. -/
def properPartialSums {α : Type} [Add α] (total : α) : List α → List α
  | [] => []
  | [_] => []
  | w :: ws => (total + w) :: properPartialSums (total + w) ws

/-- The index whose interval of partial sums holds `x`: the number of proper partial sums that do
not exceed it. -/
def weightedIndex {α : Type} [Add α] (exceeds : α → α → Bool) (zero x : α) (weights : List α) :
    Nat :=
  (properPartialSums zero weights).countP fun sum => !exceeds sum x

/-- The point of the interval from zero to one that a word stands for: its high 52 bits as a
fraction. -/
def unitPoint (word : UInt64) : Float :=
  (word.toNat / 4096).toFloat / 4503599627370496.0

/-- Draws an element of a list by weight; nothing is drawn when no weight is positive. -/
def weightedPick {α : Type} (weightOf : α → Float) (items : List α) (w : Words) :
    Option α × Words :=
  let weights := items.map weightOf
  let total := weights.foldl (· + ·) 0.0
  if total == 0.0 then (none, w)
  else
    let r := w.draw
    (items[weightedIndex (fun sum x => x < sum) 0.0 (unitPoint r.1 * total) weights]?, r.2)

end Balancing

namespace BalancingSettings

open Balancing

def targetLocation (s : BalancingSettings) (selfLocation : String) : Option String :=
  match s.policy with
  | .useAllNodes => none
  | .usePreferableLocation =>
    let location := s.preferableLocation.getD selfLocation
    if location.isEmpty then none else some location

/-- Whether two locations agree up to the case of ASCII letters. -/
def sameLocation (a b : String) : Bool :=
  a.toList.map Char.toLower = b.toList.map Char.toLower

def localTo (s : BalancingSettings) (selfLocation : String) (candidates : List Endpoint) :
    List Endpoint :=
  match s.targetLocation selfLocation with
  | none => []
  | some location => candidates.filter fun e => sameLocation e.location location

/-- The candidates that may be picked: those at the preferred location, or all if none is. -/
def eligible (s : BalancingSettings) (selfLocation : String) (candidates : List Endpoint) :
    List Endpoint :=
  let here := s.localTo selfLocation candidates
  if here.isEmpty then candidates else here

def choose (s : BalancingSettings) (candidates : List Endpoint) (selfLocation : String)
    (w : Words) : Option Endpoint × Words :=
  let pool := s.eligible selfLocation candidates
  match s.weighting with
  | .uniform => uniformPick pool w
  | .loadFactor =>
    match weightedPick (fun e => weight e.loadFactor) pool w with
    | (some e, w') => (some e, w')
    | (none, w') => uniformPick pool w'

end BalancingSettings

end ClusterTransport
