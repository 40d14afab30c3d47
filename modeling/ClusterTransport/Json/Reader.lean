import ClusterTransport.Json.Basic
import ClusterTransport.Text.Numeral

/-!
# Reading JSON

Reads a text as one JSON value. Integers outside the range of 64 bits, and numbers with a fraction
or an exponent, become floating-point numbers; a number too large for one is refused, and so is
nesting of 128 levels or more.
-/

namespace ClusterTransport.Json

open Text

def skipSpace (s : List Char) : List Char :=
  s.dropWhile fun c => c == ' ' || c == '\n' || c == '\t' || c == '\r'

def powerOfTen (n : Nat) : Float :=
  Float.ofScientific 1 false n

/-- Scales by a power of ten with one rounding for each step of at most 308 places. -/
def scale : Nat → Float → Int → Option Float
  | 0, x, _ => some x
  | steps + 1, x, e =>
    if e.natAbs ≤ 308 then
      if 0 ≤ e then
        let y := x * powerOfTen e.natAbs
        if y.isInf then none else some y
      else some (x / powerOfTen e.natAbs)
    else if x == 0.0 then some x
    else if 0 ≤ e then none
    else scale steps (x / powerOfTen 308) (e + 308)

def toFloat? (negative : Bool) (digits : Nat) (e : Int) : Option Json :=
  (scale 5 digits.toFloat e).map fun x => float (if negative then -x else x)

/-- Digits from the front, onto those read so far; digits that do not fit into 64 bits are only
counted. Gives the value, the numbers of digits that were taken and left out, and the rest. -/
def takeDigits (full : Bool) (value taken dropped : Nat) : List Char → Nat × Nat × Nat × List Char
  | [] => (value, taken, dropped, [])
  | c :: s =>
    match Numeral.digit? c with
    | none => (value, taken, dropped, c :: s)
    | some d =>
      if full || decide (0x10000000000000000 ≤ value * 10 + d) then
        takeDigits true value taken (dropped + 1) s
      else takeDigits false (value * 10 + d) (taken + 1) dropped s

def readExponent (negative : Bool) (digits : Nat) (e : Int) (s : List Char) :
    Option (Json × List Char) :=
  let minus := s.head? == some '-'
  let s := if minus || s.head? == some '+' then s.tail else s
  let power := s.takeWhile fun c => (Numeral.digit? c).isSome
  let rest := s.dropWhile fun c => (Numeral.digit? c).isSome
  match Numeral.readDigits 0x7FFFFFFF .tooLarge 0 power with
  | .ok n =>
    if power.isEmpty then none
    else
      (toFloat? negative digits (if minus then e - Int.ofNat n else e + Int.ofNat n)).map fun v =>
        (v, rest)
  | .error _ =>
    if digits ≠ 0 && !minus then none
    else some (float (if negative then -0.0 else 0.0), rest)

def readFraction (negative : Bool) (digits dropped : Nat) (s : List Char) :
    Option (Json × List Char) :=
  match s with
  | '.' :: s =>
    let (value, taken, left, rest) := takeDigits false digits 0 0 s
    let e := Int.ofNat dropped - Int.ofNat taken
    if taken = 0 && left = 0 then none
    else
      match rest with
      | 'e' :: rest' => readExponent negative value e rest'
      | 'E' :: rest' => readExponent negative value e rest'
      | _ => (toFloat? negative value e).map fun v => (v, rest)
  | 'e' :: s => readExponent negative digits (Int.ofNat dropped) s
  | 'E' :: s => readExponent negative digits (Int.ofNat dropped) s
  | s =>
    if dropped ≠ 0 then (toFloat? negative digits (Int.ofNat dropped)).map fun v => (v, s)
    else if negative then
      if digits = 0 || decide (0x8000000000000000 < digits) then some (float (-digits.toFloat), s)
      else some (int (-Int.ofNat digits), s)
    else some (int (Int.ofNat digits), s)

def readNumber (negative : Bool) (s : List Char) : Option (Json × List Char) :=
  match s with
  | '0' :: rest =>
    match rest with
    | [] => readFraction negative 0 0 rest
    | c :: _ => if (Numeral.digit? c).isSome then none else readFraction negative 0 0 rest
  | s =>
    let (value, taken, dropped, rest) := takeDigits false 0 0 0 s
    if taken = 0 then none else readFraction negative value dropped rest

def readUnit (s : List Char) : Option (Nat × List Char) :=
  match s with
  | a :: b :: c :: d :: rest => do
    let a ← Numeral.hexDigit? a
    let b ← Numeral.hexDigit? b
    let c ← Numeral.hexDigit? c
    let d ← Numeral.hexDigit? d
    pure (((a * 16 + b) * 16 + c) * 16 + d, rest)
  | _ => none

/-- Reads what follows `\u`: one unit, or two that make up a character. -/
def readEscapedUnit (s : List Char) : Option (Char × List Char) :=
  match readUnit s with
  | none => none
  | some (u, rest) =>
    if u < 0xD800 || decide (0xE000 ≤ u) then some (Char.ofNat u, rest)
    else if 0xDC00 ≤ u then none
    else
      match rest with
      | '\\' :: 'u' :: rest' =>
        match readUnit rest' with
        | some (v, rest'') =>
          if 0xDC00 ≤ v ∧ v < 0xE000 then
            some (Char.ofNat (0x10000 + (u - 0xD800) * 0x400 + (v - 0xDC00)), rest'')
          else none
        | none => none
      | _ => none

def unescape : Char → Option Char
  | '"' => some '"'
  | '\\' => some '\\'
  | '/' => some '/'
  | 'b' => some '\x08'
  | 'f' => some '\x0C'
  | 'n' => some '\n'
  | 'r' => some '\r'
  | 't' => some '\t'
  | _ => none

/-- Reads the rest of a string, in front of which `done` stands in reverse. -/
def readString : Nat → List Char → List Char → Option (String × List Char)
  | 0, _, _ => none
  | _ + 1, _, [] => none
  | _ + 1, done, '"' :: s => some (String.ofList done.reverse, s)
  | fuel + 1, done, '\\' :: 'u' :: s =>
    match readEscapedUnit s with
    | some (c, rest) => readString fuel (c :: done) rest
    | none => none
  | fuel + 1, done, '\\' :: c :: s =>
    match unescape c with
    | some d => readString fuel (d :: done) s
    | none => none
  | _ + 1, _, ['\\'] => none
  | fuel + 1, done, c :: s => if c.toNat < 0x20 then none else readString fuel (c :: done) s

mutual

/-- Reads a value in front of which there is no white space; `depth` levels may still open. -/
def readValue : Nat → Nat → List Char → Option (Json × List Char)
  | 0, _, _ => none
  | fuel + 1, depth, s =>
    match s with
    | 'n' :: 'u' :: 'l' :: 'l' :: rest => some (null, rest)
    | 't' :: 'r' :: 'u' :: 'e' :: rest => some (bool true, rest)
    | 'f' :: 'a' :: 'l' :: 's' :: 'e' :: rest => some (bool false, rest)
    | '"' :: rest => (readString (rest.length + 1) [] rest).map fun r => (string r.1, r.2)
    | '-' :: rest => readNumber true rest
    | '[' :: rest =>
      match depth with
      | 0 => none
      | depth + 1 =>
        match skipSpace rest with
        | ']' :: rest' => some (array [], rest')
        | rest' => (readItems fuel depth rest').map fun r => (array r.1, r.2)
    | '\x7b' :: rest =>
      match depth with
      | 0 => none
      | depth + 1 =>
        match skipSpace rest with
        | '\x7d' :: rest' => some (object [], rest')
        | rest' => (readFields fuel depth [] rest').map fun r => (object r.1, r.2)
    | s => readNumber false s

def readItems : Nat → Nat → List Char → Option (List Json × List Char)
  | 0, _, _ => none
  | fuel + 1, depth, s =>
    match readValue fuel depth s with
    | none => none
    | some (v, rest) =>
      match skipSpace rest with
      | ']' :: rest' => some ([v], rest')
      | ',' :: rest' =>
        (readItems fuel depth (skipSpace rest')).map fun r => (v :: r.1, r.2)
      | _ => none

/-- Reads the fields of an object up to its end, onto those read so far. -/
def readFields : Nat → Nat → List (String × Json) → List Char →
    Option (List (String × Json) × List Char)
  | 0, _, _, _ => none
  | fuel + 1, depth, done, s =>
    match s with
    | '"' :: rest =>
      match readString (rest.length + 1) [] rest with
      | none => none
      | some (k, rest') =>
        match skipSpace rest' with
        | ':' :: rest'' =>
          match readValue fuel depth (skipSpace rest'') with
          | none => none
          | some (v, after) =>
            match skipSpace after with
            | '\x7d' :: after' => some (insert k v done, after')
            | ',' :: after' => readFields fuel depth (insert k v done) (skipSpace after')
            | _ => none
        | _ => none
    | _ => none

end

def parse? (s : String) : Option Json :=
  let s := s.toList
  match readValue (2 * s.length + 2) 127 (skipSpace s) with
  | some (v, rest) => if (skipSpace rest).isEmpty then some v else none
  | none => none

end ClusterTransport.Json
