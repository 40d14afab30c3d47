import ClusterTransport.Text.Numeral

/-!
# Punycode

Labels beyond ASCII in the letters, digits and hyphens of ASCII: the ASCII characters come first,
and behind the last hyphen numbers say where the others are to be inserted, in ascending order.
-/

namespace ClusterTransport.DomainName.Punycode

open Text

/-- The value of a digit: 26 letters and 10 figures. -/
def digit? (c : Char) : Option Nat :=
  if 'a' ≤ c ∧ c ≤ 'z' then some (c.toNat - 97) else (Numeral.digit? c).map (26 + ·)

def base : Nat := 36

/-- Digits below this one end a number, at the place with index `k` of the last base multiple. -/
def threshold (bias k : Nat) : Nat :=
  if k ≤ bias then 1 else if bias + 26 ≤ k then 26 else k - bias

def limit : Nat := 0x100000000

/-- Reads a number onto a value, its least digit first; `weight` is that of the next digit. -/
def readNumber (bias : Nat) : Nat → Nat → Nat → List Char → Option (Nat × List Char)
  | _, _, _, [] => none
  | k, weight, value, c :: s =>
    match digit? c with
    | none => none
    | some d =>
      let t := threshold bias k
      if limit ≤ value + d * weight then none
      else if d < t then some (value + d * weight, s)
      else if limit ≤ weight * (base - t) then none
      else readNumber bias (k + base) (weight * (base - t)) (value + d * weight) s

/-- Makes a difference small, and counts how often it was divided. -/
def shrink : Nat → Nat → Nat × Nat
  | 0, delta => (delta, 0)
  | fuel + 1, delta =>
    if 455 < delta then
      let r := shrink fuel (delta / 35)
      (r.1, r.2 + 1)
    else (delta, 0)

/-- How large the next number is expected to be, after a difference with so many characters. -/
def adapt (delta count : Nat) (isFirst : Bool) : Nat :=
  let halved := if isFirst then delta / 700 else delta / 2
  let r := shrink delta (halved + halved / count)
  r.2 * base + base * r.1 / (r.1 + 38)

/-- Inserts characters as the numbers say. `last` is the code point inserted last, and `place` the
place behind it. -/
def insertAll : Nat → Nat → Nat → Nat → List Char → List Char → Option (List Char)
  | 0, _, _, _, _, _ => none
  | _ + 1, _, _, _, done, [] => some done
  | fuel + 1, bias, last, place, done, s =>
    match readNumber bias base 1 place s with
    | none => none
    | some (value, rest) =>
      let count := done.length + 1
      let code := last + value / count
      if code.isValidChar then
        insertAll fuel (adapt (value - place) count (place == 0)) code (value % count + 1)
          (done.insertIdx (value % count) (Char.ofNat code)) rest
      else none

def decode? (s : List Char) : Option (List Char) :=
  let r := s.reverse
  let numbers := (r.takeWhile (· ≠ '-')).reverse
  match r.dropWhile (· ≠ '-') with
  | [] => insertAll (s.length + 1) 72 128 0 [] s
  | [_] => none
  | _ :: basic => insertAll (s.length + 1) 72 128 0 basic.reverse numbers

end ClusterTransport.DomainName.Punycode
