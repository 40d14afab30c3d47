/-!
# UTF-8

Texts as byte lists. Reading is strict (`decode?`) or replaces what is no character (`decodeLossy`).
-/

namespace ClusterTransport.Text.Utf8

def encode (s : String) : List UInt8 :=
  s.toUTF8.data.toList

def decode? (bytes : List UInt8) : Option String :=
  String.fromUTF8? ⟨bytes.toArray⟩

theorem decode?_encode (s : String) : decode? (encode s) = some s := by
  have h : (⟨s.toUTF8.data.toList.toArray⟩ : ByteArray) = s.toUTF8 := by simp
  have hv : s.toUTF8.IsValidUTF8 := s.isValidUTF8
  simp only [decode?, encode, h, String.fromUTF8?]
  rw [dif_pos hv]
  rfl

/-- What a first byte announces: the number of bytes that follow it, and the least and the
greatest value of the next one. -/
def announced (b : Nat) : Option (Nat × Nat × Nat) :=
  if b < 0x80 then some (0, 0x80, 0xBF)
  else if b < 0xC2 then none
  else if b < 0xE0 then some (1, 0x80, 0xBF)
  else if b = 0xE0 then some (2, 0xA0, 0xBF)
  else if b = 0xED then some (2, 0x80, 0x9F)
  else if b < 0xF0 then some (2, 0x80, 0xBF)
  else if b = 0xF0 then some (3, 0x90, 0xBF)
  else if b < 0xF4 then some (3, 0x80, 0xBF)
  else if b = 0xF4 then some (3, 0x80, 0x8F)
  else none

/-- Reads `n` continuation bytes, the first of them between `lo` and `hi`, onto the code point
read so far. Stops in front of the first byte that does not fit. -/
def continuation : Nat → Nat → Nat → Nat → List UInt8 → Option Nat × List UInt8
  | 0, _, _, point, bytes => (some point, bytes)
  | _ + 1, _, _, _, [] => (none, [])
  | n + 1, lo, hi, point, b :: bytes =>
    if lo ≤ b.toNat ∧ b.toNat ≤ hi then
      continuation n 0x80 0xBF (point * 64 + b.toNat % 64) bytes
    else (none, b :: bytes)

theorem continuation_length (n lo hi point : Nat) (bytes : List UInt8) :
    (continuation n lo hi point bytes).2.length ≤ bytes.length := by
  induction n generalizing lo hi point bytes with
  | zero => simp [continuation]
  | succ n ih =>
    cases bytes with
    | nil => simp [continuation]
    | cons b bytes =>
      unfold continuation
      split
      · exact Nat.le_trans (ih ..) (by simp)
      · simp

/-- The bits of a first byte that belong to the code point. -/
def leadingBits (b tails : Nat) : Nat :=
  match tails with
  | 0 => b
  | 1 => b % 32
  | 2 => b % 16
  | _ => b % 8

/-- One character from the front, or the replacement character for the longest start of a
character that breaks off. -/
def nextLossy (b : UInt8) (bytes : List UInt8) : Char × List UInt8 :=
  match announced b.toNat with
  | none => ('\uFFFD', bytes)
  | some (n, lo, hi) =>
    let r := continuation n lo hi (leadingBits b.toNat n) bytes
    (r.1.elim '\uFFFD' Char.ofNat, r.2)

theorem nextLossy_length (b : UInt8) (bytes : List UInt8) :
    (nextLossy b bytes).2.length ≤ bytes.length := by
  unfold nextLossy
  split
  · exact Nat.le_refl _
  · exact continuation_length ..

/-- Reads any bytes, with U+FFFD for each longest piece that is no character. -/
def replaceInvalid : List UInt8 → List Char
  | [] => []
  | b :: bytes =>
    have := nextLossy_length b bytes
    (nextLossy b bytes).1 :: replaceInvalid (nextLossy b bytes).2
termination_by bytes => bytes.length
decreasing_by simp only [List.length_cons]; omega

def decodeLossy (bytes : List UInt8) : String :=
  (decode? bytes).getD (String.ofList (replaceInvalid bytes))

/-- Where bytes stop to be a text: after `position` bytes comes a piece of `length` bytes that is no
character, or the bytes break off within a character. -/
structure Fault where
  position : Nat
  length : Option Nat
deriving DecidableEq, Repr

def Fault.message (f : Fault) : String :=
  match f.length with
  | some n =>
    "invalid utf-8 sequence of " ++ toString n ++ " bytes from index " ++ toString f.position
  | none => "incomplete utf-8 byte sequence from index " ++ toString f.position

def firstFault (position : Nat) : List UInt8 → Option Fault
  | [] => none
  | b :: bytes =>
    match announced b.toNat with
    | none => some ⟨position, some 1⟩
    | some (n, lo, hi) =>
      have := continuation_length n lo hi 0 bytes
      match (continuation n lo hi 0 bytes).1, (continuation n lo hi 0 bytes).2 with
      | none, [] => some ⟨position, none⟩
      | none, rest => some ⟨position, some (1 + (bytes.length - rest.length))⟩
      | some _, _ => firstFault (position + 1 + n) (continuation n lo hi 0 bytes).2
termination_by bytes => bytes.length
decreasing_by simp only [List.length_cons]; omega

theorem decodeLossy_encode (s : String) : decodeLossy (encode s) = s := by
  simp [decodeLossy, decode?_encode]

end ClusterTransport.Text.Utf8
