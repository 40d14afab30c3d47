import ClusterTransport.Text.Numeral
import ClusterTransport.Text.Pieces

/-!
# Ranges of code points

Sets of characters by their code points, written in hexadecimal digits such as `41-5A 5F`.
-/

namespace ClusterTransport.Text

def readCode (digits : List Char) : Nat :=
  digits.foldl (fun v c => 16 * v + (Numeral.hexDigit? c).getD 0) 0

structure CodeRange where
  first : Nat
  last : Nat
deriving DecidableEq, Repr

namespace CodeRange

def contains (r : CodeRange) (c : Char) : Bool :=
  r.first ≤ c.toNat && c.toNat ≤ r.last

/-- Reads a range: two code points, or one that stands alone. -/
def read (s : List Char) : CodeRange :=
  let r := cut '-' s
  ⟨readCode r.1, readCode (if r.2.isEmpty then r.1 else r.2)⟩

/-- Reads lines of ranges that stand between blanks. -/
def readAll (lines : List String) : List CodeRange :=
  (lines.flatMap words).map read

end CodeRange

def inRanges (ranges : List CodeRange) (c : Char) : Bool :=
  ranges.any fun r => r.contains c

end ClusterTransport.Text
