import ClusterTransport.Text.Numeral

/-!
# IPv6 addresses

Eight pieces of sixteen bits, read from any of the usual forms and written in one: lower-case
hexadecimal, with the first longest run of at least two zero pieces left out.
-/

namespace ClusterTransport.Url.Ipv6

open Text

/-- Up to `n` hexadecimal digits from the front: their value, their number and the rest. -/
def takeHex : Nat → Nat → Nat → List Char → Nat × Nat × List Char
  | 0, value, count, s => (value, count, s)
  | _ + 1, value, count, [] => (value, count, [])
  | n + 1, value, count, c :: s =>
    match Numeral.hexDigit? c with
    | some d => takeHex n (value * 16 + d) (count + 1) s
    | none => (value, count, c :: s)

theorem takeHex_length (n value count : Nat) (s : List Char) :
    (takeHex n value count s).2.2.length ≤ s.length := by
  induction n generalizing value count s with
  | zero => simp [takeHex]
  | succ n ih =>
    cases s with
    | nil => simp [takeHex]
    | cons c s =>
      unfold takeHex
      split
      · exact Nat.le_trans (ih ..) (by simp)
      · simp

/-- One decimal number up to 255 without leading zeros: its value and the rest. -/
def takeOctet : Option Nat → List Char → Option (Nat × List Char)
  | value, [] => value.map fun v => (v, [])
  | value, c :: s =>
    match Numeral.digit? c with
    | none => value.map fun v => (v, c :: s)
    | some d =>
      match value with
      | none => takeOctet (some d) s
      | some 0 => none
      | some v => if 255 < v * 10 + d then none else takeOctet (some (v * 10 + d)) s

def dotted : Nat → List Char → Option (List Nat)
  | 0, [] => some []
  | 0, _ :: _ => none
  | n + 1, s =>
    match takeOctet none s with
    | none => none
    | some (v, rest) =>
      match n, rest with
      | 0, [] => some [v]
      | _ + 1, '.' :: rest' => (dotted n rest').map fun vs => v :: vs
      | _, _ => none

def dottedPieces (s : List Char) : Option (List Nat) :=
  match dotted 4 s with
  | some [a, b, c, d] => some [a * 256 + b, c * 256 + d]
  | _ => none

/-- Reads pieces after those in `pieces`; `gap` is the place of the double colon. -/
def readPieces (pieces : List Nat) (gap : Option Nat) (s : List Char) :
    Option (List Nat × Option Nat) :=
  match s with
  | [] => some (pieces, gap)
  | c :: rest =>
    if pieces.length = 8 then none
    else if c = ':' then
      match gap with
      | some _ => none
      | none => readPieces (pieces ++ [0]) (some (pieces.length + 1)) rest
    else
      match _h : takeHex 4 0 0 (c :: rest) with
      | (value, _, []) => some (pieces ++ [value], gap)
      | (value, count, d :: rest') =>
        if d = '.' then
          if count = 0 ∨ 6 < pieces.length then none
          else (dottedPieces (c :: rest)).map fun ps => (pieces ++ ps, gap)
        else if d = ':' then
          if rest'.isEmpty then none else readPieces (pieces ++ [value]) gap rest'
        else none
termination_by s.length
decreasing_by
  · simp
  · have hl := takeHex_length 4 0 0 (c :: rest)
    rw [_h] at hl
    simp only [List.length_cons] at hl ⊢
    omega

/-- Spreads pieces around a gap over all eight places. -/
def spread : List Nat × Option Nat → Option (List Nat)
  | (pieces, none) => if pieces.length = 8 then some pieces else none
  | (pieces, some gap) =>
    some (pieces.take gap ++ List.replicate (8 - pieces.length) 0 ++ pieces.drop gap)

def read (s : List Char) : Option (List Nat) :=
  match s with
  | ':' :: ':' :: rest => (readPieces [0] (some 1) rest).bind spread
  | ':' :: _ => none
  | [] => none
  | [_] => none
  | s => (readPieces [] none s).bind spread

def zeroRun : List Nat → Nat
  | 0 :: s => zeroRun s + 1
  | _ => 0

/-- The start and the length of the first longest run of zeros, where `i` pieces came before. -/
def longestZeros (i : Nat) : List Nat → Nat × Nat
  | [] => (i, 0)
  | p :: s =>
    let here := zeroRun (p :: s)
    let later := longestZeros (i + 1) s
    if later.2 ≤ here then (i, here) else later

def joinPieces : List Nat → List Char
  | [] => []
  | [p] => Numeral.hex p
  | p :: s => Numeral.hex p ++ ':' :: joinPieces s

def write (pieces : List Nat) : List Char :=
  let run := longestZeros 0 pieces
  if run.2 < 2 then joinPieces pieces
  else joinPieces (pieces.take run.1) ++ [':', ':'] ++ joinPieces (pieces.drop (run.1 + run.2))

end ClusterTransport.Url.Ipv6
