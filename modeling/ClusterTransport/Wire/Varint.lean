/-!
# Variable-length integers

A number as bytes of seven bits each, lowest first; every byte but the last has its high bit set.
A number has at most 64 bits, so at most ten bytes.
-/

namespace ClusterTransport.Wire

def varint (n : Nat) : List UInt8 :=
  if n < 128 then [UInt8.ofNat n] else UInt8.ofNat (n % 128 + 128) :: varint (n / 128)
termination_by n
decreasing_by omega

/-- Reads a number whose next byte is the one after `count` others. The tenth byte has room for
one bit. -/
def readVarintFrom (count : Nat) : List UInt8 → Option (Nat × List UInt8)
  | [] => none
  | b :: bytes =>
    if b.toNat < 128 then
      if count < 9 ∨ (count = 9 ∧ b.toNat < 2) then some (b.toNat, bytes) else none
    else if count < 9 then
      (readVarintFrom (count + 1) bytes).map fun r => (b.toNat - 128 + 128 * r.1, r.2)
    else none

def readVarint? (bytes : List UInt8) : Option (Nat × List UInt8) :=
  readVarintFrom 0 bytes

private theorem toNat_byte {n : Nat} (h : n < 256) : (UInt8.ofNat n).toNat = n := by
  simp [Nat.mod_eq_of_lt h]

private theorem readVarintFrom_varint (count n : Nat) (rest : List UInt8)
    (hc : count ≤ 9) (h : n * Nat.pow 128 count < 0x10000000000000000) :
    readVarintFrom count (varint n ++ rest) = some (n, rest) := by
  induction n using Nat.strongRecOn generalizing count with
  | ind n ih =>
    rw [varint]
    split
    · rename_i small
      have byte := toNat_byte (show n < 256 by omega)
      simp only [List.singleton_append, readVarintFrom, byte, small, if_true]
      by_cases h9 : count = 9
      · subst h9
        have : n < 2 := by
          rw [show Nat.pow 128 9 = 0x8000000000000000 from rfl] at h
          omega
        simp [this]
      · rw [if_pos (by omega)]
    · rename_i big
      have byte := toNat_byte (show n % 128 + 128 < 256 by omega)
      have hc9 : count < 9 := by
        rcases Nat.lt_or_ge count 9 with h1 | h1
        · exact h1
        · have : count = 9 := by omega
          subst this
          rw [show Nat.pow 128 9 = 0x8000000000000000 from rfl] at h
          omega
      have hdiv : n / 128 * Nat.pow 128 (count + 1) < 0x10000000000000000 := by
        rw [show Nat.pow 128 (count + 1) = 128 * Nat.pow 128 count from Nat.mul_comm ..,
          ← Nat.mul_assoc]
        exact Nat.lt_of_le_of_lt (Nat.mul_le_mul_right _ (Nat.div_mul_le_self n 128)) h
      have hb : ¬(n % 128 + 128 < 128) := by omega
      simp only [List.cons_append, readVarintFrom, byte, hb, if_false, hc9, if_true,
        ih (n / 128) (by omega) (count + 1) (by omega) hdiv, Option.map_some, Option.some.injEq,
        Prod.mk.injEq, and_true]
      omega

/-- What is written is read back, and the bytes after it are left. -/
theorem readVarint?_varint (n : Nat) (rest : List UInt8) (h : n < 0x10000000000000000) :
    readVarint? (varint n ++ rest) = some (n, rest) :=
  readVarintFrom_varint 0 n rest (by omega) (by rwa [show Nat.pow 128 0 = 1 from rfl, Nat.mul_one])

end ClusterTransport.Wire
