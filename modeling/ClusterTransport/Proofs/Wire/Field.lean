import ClusterTransport.Wire.Field

/-!
# Fields read back

Written fields take a message to the message that has them, whatever bytes come after them. A field
that is left out has the value that the message had before.
-/

namespace ClusterTransport.Wire

/-! ## Values -/

theorem varint_ne_nil (n : Nat) : varint n ≠ [] := by
  rw [varint]
  split <;> exact List.cons_ne_nil _ _

variable {n : Nat} {rest : List UInt8}

private theorem readVarint_varint (h : n < 0x10000000000000000) :
    readVarint (varint n ++ rest) = .ok (n, rest) := by
  rw [readVarint, readVarint?_varint n rest h]

def IsFieldNumber (number : Nat) : Prop :=
  0 < number ∧ number < 0x20000000

instance (number : Nat) : Decidable (IsFieldNumber number) :=
  inferInstanceAs (Decidable (_ ∧ _))

private theorem readKey_key {number : Nat} {w : WireType} (hnumber : IsFieldNumber number) :
    readKey (key number w ++ rest) = .ok (⟨number, w⟩, rest) := by
  obtain ⟨hpos, hmax⟩ := hnumber
  have hw : w.number < 8 := by cases w <;> decide
  have hread : readVarint (key number w ++ rest) = .ok (number * 8 + w.number, rest) :=
    readVarint_varint (by omega)
  have hmod : (number * 8 + w.number) % 8 = w.number := by omega
  have hdiv : (number * 8 + w.number) / 8 = number := by omega
  have hsize : ¬ 0xFFFFFFFF < number * 8 + w.number := by omega
  have hne : ¬ number = 0 := by omega
  simp only [readKey, hread, hmod, hdiv, hsize, hne, WireType.ofNumber?_number, if_false]

private theorem readNat_varint (h : n < 0x10000000000000000) :
    readNat .varint (varint n ++ rest) = .ok (n, rest) :=
  readVarint_varint h

private theorem readChunk_append {bytes : List UInt8} (h : bytes.length < 0x10000000000000000) :
    readChunk (varint bytes.length ++ (bytes ++ rest)) = .ok (bytes, rest) := by
  have hfits : ¬ (bytes ++ rest).length < bytes.length := by simp
  simp only [readChunk, readVarint_varint h, hfits, if_false, List.take_left, List.drop_left]

private theorem readString_append {s : String}
    (h : (Text.Utf8.encode s).length < 0x10000000000000000) :
    readString .lengthDelimited
      (varint (Text.Utf8.encode s).length ++ (Text.Utf8.encode s ++ rest)) = .ok (s, rest) := by
  have hread : readBytes .lengthDelimited
      (varint (Text.Utf8.encode s).length ++ (Text.Utf8.encode s ++ rest)) =
        .ok (Text.Utf8.encode s, rest) := readChunk_append h
  simp only [readString, hread, Text.Utf8.decode?_encode]

private theorem readFixed32_append (bits : UInt32) :
    readFixed32 .thirtyTwoBit (fixed32 bits ++ rest) = .ok (bits, rest) := by
  have hlt := bits.toNat_lt
  have hbits : UInt32.ofNat (bits.toNat % 256 + 256 * (bits.toNat / 256 % 256) +
      65536 * (bits.toNat / 65536 % 256) + 16777216 * (bits.toNat / 16777216 % 256)) = bits := by
    have hsum : bits.toNat % 256 + 256 * (bits.toNat / 256 % 256) +
        65536 * (bits.toNat / 65536 % 256) + 16777216 * (bits.toNat / 16777216 % 256) =
          bits.toNat := by omega
    rw [hsum, UInt32.ofNat_toNat]
  simp [readFixed32, expecting, fixed32, hbits]

/-! ## Lengths -/

theorem length_le_delimited (number : Nat) (bytes : List UInt8) :
    bytes.length ≤ (delimited number bytes).length := by
  rw [delimited, List.length_append]
  exact Nat.le_add_left ..

theorem length_le_flatMap {α : Type} (write : α → List UInt8) {l : List α} {a : α} (h : a ∈ l) :
    (write a).length ≤ (l.flatMap write).length :=
  (List.sublist_flatten_of_mem (List.mem_map_of_mem h)).length_le

/-! ## Fields of a message -/

variable {μ : Type} {merge : Key → μ → List UInt8 → Read μ} {m m' m'' : μ}
  {bytes bytes' : List UInt8}

/-- Fields that take one message to another in front of any other bytes. -/
def Carries (merge : Key → μ → List UInt8 → Read μ) (bytes : List UInt8) (m m' : μ) : Prop :=
  ∀ stop rest, stop ≤ rest.length →
    mergeFields merge stop m (bytes ++ rest) = mergeFields merge stop m' rest

private theorem carries_nil (m : μ) : Carries merge [] m m := fun _ _ _ => rfl

theorem Carries.append (h : Carries merge bytes m m') (h' : Carries merge bytes' m' m'') :
    Carries merge (bytes ++ bytes') m m'' := by
  intro stop rest hstop
  have hmore : stop ≤ (bytes' ++ rest).length := by
    rw [List.length_append]
    omega
  rw [List.append_assoc, h stop _ hmore, h' stop rest hstop]

theorem carries_flatMap {α : Type} {write : α → List UInt8} (put : List α → μ) {l : List α}
    (h : ∀ before, ∀ a ∈ l, Carries merge (write a) (put before) (put (before ++ [a])))
    (before : List α) : Carries merge (l.flatMap write) (put before) (put (before ++ l)) := by
  induction l generalizing before with
  | nil =>
    rw [List.append_nil]
    exact carries_nil _
  | cons a l ih =>
    have hrest := ih (fun before b hb => h before b (List.mem_cons_of_mem _ hb)) (before ++ [a])
    rw [List.append_assoc, List.singleton_append] at hrest
    rw [List.flatMap_cons]
    exact (h before a List.mem_cons_self).append hrest

private theorem carries_field {number : Nat} {w : WireType} {value : List UInt8}
    (hnumber : IsFieldNumber number)
    (hvalue : ∀ rest, merge ⟨number, w⟩ m (value ++ rest) = .ok (m', rest)) :
    Carries merge (key number w ++ value) m m' := by
  intro stop rest hstop
  have hkey : 0 < (key number w).length := List.length_pos_iff.mpr (varint_ne_nil _)
  have hmore : ¬ (key number w ++ value ++ rest).length ≤ stop := by
    simp only [List.length_append]
    omega
  have hless : rest.length < (key number w ++ value ++ rest).length := by
    simp only [List.length_append]
    omega
  have hread : readKey (key number w ++ value ++ rest) = .ok (⟨number, w⟩, value ++ rest) := by
    rw [List.append_assoc, readKey_key hnumber]
  rw [mergeFields, if_neg hmore]
  simp only [hread, hvalue, hless, if_true]

private theorem mergeFields_of_carries (h : Carries merge bytes m m') (rest : List UInt8) :
    mergeFields merge rest.length m (bytes ++ rest) = .ok (m', rest) := by
  rw [h rest.length rest (Nat.le_refl _), mergeFields, if_pos (Nat.le_refl _)]

/-- A message that its fields carry from the empty one is read back. -/
theorem decodeMessage_of_carries {merge : Nat → Key → μ → List UInt8 → Read μ}
    (h : Carries (merge recursionLimit) bytes m m') :
    decodeMessage merge m bytes = .ok m' := by
  have hall : mergeFields (merge recursionLimit) 0 m bytes = .ok (m', []) := by
    simpa using mergeFields_of_carries h []
  rw [decodeMessage, hall]
  rfl

private theorem mergeMessage_of_carries {merge : Nat → Key → μ → List UInt8 → Read μ} {depth : Nat}
    (h : Carries (merge depth) bytes m m') (hlength : bytes.length < 0x10000000000000000)
    (rest : List UInt8) :
    mergeMessage merge (depth + 1) .lengthDelimited m
      (varint bytes.length ++ (bytes ++ rest)) = .ok (m', rest) := by
  have hfits : ¬ (bytes ++ rest).length < bytes.length := by simp
  have hstop : (bytes ++ rest).length - bytes.length = rest.length := by simp
  have hmerge : mergeDelimited (merge depth) m (varint bytes.length ++ (bytes ++ rest)) =
      .ok (m', rest) := by
    simp only [mergeDelimited, readVarint_varint hlength, hfits, hstop, if_false, if_true,
      mergeFields_of_carries h]
  rw [mergeMessage, expecting, if_pos rfl]
  exact hmerge

/-! ## Kinds of fields -/

section Kinds

variable {number : Nat} {message name : String} (hnumber : IsFieldNumber number)
include hnumber

private theorem carries_of_read {α : Type} {w : WireType} {read : List UInt8 → Read α} (put : α → μ)
    {value : List UInt8} {a : α}
    (hmerge : ∀ bytes, merge ⟨number, w⟩ m bytes =
      within message name ((read bytes).map fun r => (put r.1, r.2)))
    (hput : put a = m') (hread : ∀ rest, read (value ++ rest) = .ok (a, rest)) :
    Carries merge (key number w ++ value) m m' := by
  refine carries_field hnumber fun rest => ?_
  rw [hmerge, hread, ← hput]
  rfl

theorem carries_text {s : String} (put : String → μ)
    (hmerge : ∀ bytes, merge ⟨number, .lengthDelimited⟩ m bytes =
      within message name ((readString .lengthDelimited bytes).map fun r => (put r.1, r.2)))
    (hput : put s = m') (hlength : (Text.Utf8.encode s).length < 0x10000000000000000) :
    Carries merge (delimited number (Text.Utf8.encode s)) m m' := by
  rw [delimited, List.append_assoc]
  refine carries_of_read hnumber put hmerge hput fun rest => ?_
  rw [List.append_assoc, readString_append hlength]

theorem carries_stringField {s : String} (put : String → μ)
    (hmerge : ∀ bytes, merge ⟨number, .lengthDelimited⟩ m bytes =
      within message name ((readString .lengthDelimited bytes).map fun r => (put r.1, r.2)))
    (hempty : put "" = m) (hput : put s = m')
    (hlength : (stringField number s).length < 0x10000000000000000) :
    Carries merge (stringField number s) m m' := by
  unfold stringField at hlength ⊢
  split
  next hs =>
    rw [← hput, String.isEmpty_iff.mp hs, hempty]
    exact carries_nil m
  next hs =>
    refine carries_text hnumber put hmerge hput ?_
    rw [if_neg hs, delimited, List.length_append] at hlength
    omega

theorem carries_natField (put : Nat → μ)
    (hmerge : ∀ bytes, merge ⟨number, .varint⟩ m bytes =
      within message name ((readNat .varint bytes).map fun r => (put r.1, r.2)))
    (hzero : put 0 = m) (hput : put n = m') (h : n < 0x10000000000000000) :
    Carries merge (natField number n) m m' := by
  unfold natField
  split
  next hn =>
    rw [← hput, hn, hzero]
    exact carries_nil m
  next => exact carries_of_read hnumber put hmerge hput fun rest => readNat_varint h

theorem carries_boolField {b : Bool} (put : Nat → μ)
    (hmerge : ∀ bytes, merge ⟨number, .varint⟩ m bytes =
      within message name ((readNat .varint bytes).map fun r => (put r.1, r.2)))
    (hzero : put 0 = m) (hput : put b.toNat = m') : Carries merge (boolField number b) m m' :=
  carries_natField hnumber put hmerge hzero hput (by cases b <;> decide)

theorem carries_floatField {bits : UInt32} (put : UInt32 → μ)
    (hmerge : ∀ bytes, merge ⟨number, .thirtyTwoBit⟩ m bytes =
      within message name ((readFixed32 .thirtyTwoBit bytes).map fun r => (put r.1, r.2)))
    (hzero : put 0 = m) (hput : put bits = m') (h : bits ≠ 0x80000000) :
    Carries merge (floatField number bits) m m' := by
  unfold floatField
  split
  next hbits =>
    have hsign : bits = 0 := by
      have hne : bits.toNat ≠ 0x80000000 := fun heq => h (UInt32.toNat_inj.mp heq)
      have hlt := bits.toNat_lt
      exact UInt32.toNat_inj.mp (by simp only [UInt32.toNat_zero]; omega)
    rw [← hput, hsign, hzero]
    exact carries_nil m
  next => exact carries_of_read hnumber put hmerge hput fun rest => readFixed32_append bits

theorem carries_message {ν : Type} {sub : Nat → Key → ν → List UInt8 → Read ν} {depth : Nat}
    {x x' : ν} (put : ν → μ)
    (hmerge : ∀ bytes, merge ⟨number, .lengthDelimited⟩ m bytes = within message name
      ((mergeMessage sub (depth + 1) .lengthDelimited x bytes).map fun r => (put r.1, r.2)))
    (hput : put x' = m') (h : Carries (sub depth) bytes x x')
    (hlength : bytes.length < 0x10000000000000000) :
    Carries merge (delimited number bytes) m m' := by
  rw [delimited, List.append_assoc]
  refine carries_of_read hnumber put hmerge hput fun rest => ?_
  rw [List.append_assoc, mergeMessage_of_carries h hlength]

end Kinds

end ClusterTransport.Wire
