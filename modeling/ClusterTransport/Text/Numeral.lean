/-!
# Numerals

Decimal numerals of a bounded integer type, read from left to right, and digits for writing.
-/

namespace ClusterTransport.Text.Numeral

/-- Why a text is no numeral of the type asked for. -/
inductive Fault where
  | empty
  | invalidDigit
  | tooLarge
  | tooSmall
deriving DecidableEq, Repr

def Fault.message : Fault → String
  | .empty => "cannot parse integer from empty string"
  | .invalidDigit => "invalid digit found in string"
  | .tooLarge => "number too large to fit in target type"
  | .tooSmall => "number too small to fit in target type"

def digit? (c : Char) : Option Nat :=
  if '0' ≤ c ∧ c ≤ '9' then some (c.toNat - 48) else none

/-- Appends the digits of the text to `value`; the first character that is no digit, or takes the
value beyond `limit`, decides the fault. -/
def readDigits (limit : Nat) (beyond : Fault) : Nat → List Char → Except Fault Nat
  | value, [] => .ok value
  | value, c :: cs =>
    match digit? c with
    | none => .error .invalidDigit
    | some d =>
      if limit < value * 10 + d then .error beyond
      else readDigits limit beyond (value * 10 + d) cs

/-- A natural number up to `limit`: an optional plus sign, then digits. -/
def readNat (limit : Nat) : List Char → Except Fault Nat
  | [] => .error .empty
  | ['+'] => .error .invalidDigit
  | '+' :: cs => readDigits limit .tooLarge 0 cs
  | cs => readDigits limit .tooLarge 0 cs

/-- An integer from `-(limit + 1)` up to `limit`: an optional sign, then digits. -/
def readInt (limit : Nat) : List Char → Except Fault Int
  | [] => .error .empty
  | ['+'] => .error .invalidDigit
  | ['-'] => .error .invalidDigit
  | '+' :: cs => (readDigits limit .tooLarge 0 cs).map Int.ofNat
  | '-' :: cs => (readDigits (limit + 1) .tooSmall 0 cs).map fun n => -Int.ofNat n
  | cs => (readDigits limit .tooLarge 0 cs).map Int.ofNat

def hexDigit? (c : Char) : Option Nat :=
  if '0' ≤ c ∧ c ≤ '9' then some (c.toNat - 48)
  else if 'a' ≤ c ∧ c ≤ 'f' then some (c.toNat - 87)
  else if 'A' ≤ c ∧ c ≤ 'F' then some (c.toNat - 55)
  else none

def hexDigit (n : Nat) : Char :=
  if n < 10 then Char.ofNat (48 + n) else Char.ofNat (87 + n)

def upperHexDigit (n : Nat) : Char :=
  if n < 10 then Char.ofNat (48 + n) else Char.ofNat (55 + n)

/-- The shortest lower-case hexadecimal numeral of a number. -/
def hex (n : Nat) : List Char :=
  Nat.toDigits 16 n

def hexBytes (bytes : List UInt8) : List Char :=
  bytes.flatMap fun b => [hexDigit (b.toNat / 16), hexDigit (b.toNat % 16)]

def readHexBytes : List Char → Option (List UInt8)
  | [] => some []
  | a :: b :: cs => do
    let hi ← hexDigit? a
    let lo ← hexDigit? b
    let rest ← readHexBytes cs
    pure (UInt8.ofNat (16 * hi + lo) :: rest)
  | [_] => none

end ClusterTransport.Text.Numeral
