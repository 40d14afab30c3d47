import ClusterTransport.Proofs.Url.Host

/-!
# Form encoding read back

Every text is read back from its form encoding, and a text without plus signs and percent signs
stands for itself.
-/

namespace ClusterTransport

namespace Text.Utf8

private theorem encode_ofList (s : List Char) :
    encode (String.ofList s) = s.flatMap String.utf8EncodeChar := by
  simp [encode, String.toUTF8, List.utf8Encode]

private theorem utf8EncodeChar_of_ascii {c : Char} (h : c.toNat < 0x80) :
    String.utf8EncodeChar c = [UInt8.ofNat c.toNat] := by
  have hle : c.val.toNat ≤ 127 := Nat.le_of_lt_succ h
  rw [String.utf8EncodeChar]
  exact if_pos hle

private theorem encode_of_ascii {s : List Char} (h : ∀ c ∈ s, c.toNat < 0x80) :
    encode (String.ofList s) = s.map fun c => UInt8.ofNat c.toNat := by
  rw [encode_ofList]
  induction s with
  | nil => rfl
  | cons c s ih =>
    rw [List.forall_mem_cons] at h
    rw [List.flatMap_cons, utf8EncodeChar_of_ascii h.1, ih h.2, List.map_cons,
      List.singleton_append]

private theorem toNat_eq_of_mem_utf8EncodeChar {c : Char} {b : UInt8}
    (hmem : b ∈ String.utf8EncodeChar c) (hb : b.toNat < 0x80) : c.toNat = b.toNat := by
  have hc : c.val.toNat = c.toNat := rfl
  unfold String.utf8EncodeChar at hmem
  simp only [hc] at hmem
  split at hmem
  next hle =>
    obtain rfl := List.mem_singleton.mp hmem
    rw [UInt8.toNat_ofNat', Nat.mod_eq_of_lt (by omega)]
  next =>
    -- All bytes of a longer sequence are 0x80 at least.
    split at hmem
    · simp only [List.mem_cons, List.not_mem_nil, or_false] at hmem
      rcases hmem with rfl | rfl <;> rw [UInt8.toNat_ofNat'] at hb <;> omega
    · split at hmem
      · simp only [List.mem_cons, List.not_mem_nil, or_false] at hmem
        rcases hmem with rfl | rfl | rfl <;> rw [UInt8.toNat_ofNat'] at hb <;> omega
      · simp only [List.mem_cons, List.not_mem_nil, or_false] at hmem
        rcases hmem with rfl | rfl | rfl | rfl <;> rw [UInt8.toNat_ofNat'] at hb <;> omega

private theorem not_mem_encode {s : List Char} {b : UInt8} (hb : b.toNat < 0x80)
    (h : ∀ c ∈ s, c.toNat ≠ b.toNat) : b ∉ encode (String.ofList s) := by
  rw [encode_ofList]
  intro hmem
  obtain ⟨c, hc, hbc⟩ := List.mem_flatMap.mp hmem
  exact h c hc (toNat_eq_of_mem_utf8EncodeChar hbc hb)

end Text.Utf8

namespace Url.Percent

open Text

private theorem decode_cons_of_ne {b : UInt8} (h : b ≠ 37) (rest : List UInt8) :
    decode (b :: rest) = b :: decode rest := by
  rw [decode]
  exact fun _ _ _ hb _ => h hb

private theorem decode_eq_self {bytes : List UInt8} (h : 37 ∉ bytes) : decode bytes = bytes := by
  induction bytes with
  | nil => rfl
  | cons b bytes ih =>
    rw [List.mem_cons, not_or] at h
    rw [decode_cons_of_ne (Ne.symm h.1), ih h.2]

private theorem hexDigit?_upperHexDigit (n : Nat) (hn : n < 16) :
    Numeral.hexDigit? (Numeral.upperHexDigit n) = some n ∧
      42 ≤ (Numeral.upperHexDigit n).toNat ∧ (Numeral.upperHexDigit n).toNat < 0x80 ∧
      Numeral.upperHexDigit n ≠ '+' := by
  decide +revert

private theorem decode_byte_append (b : UInt8) (rest : List UInt8) :
    decode ((byte b).map (fun c => UInt8.ofNat c.toNat) ++ rest) = b :: decode rest := by
  have hb := b.toNat_lt
  have hdigit (n : Nat) (hn : n < 16) :
      Char.ofNat (UInt8.ofNat (Numeral.upperHexDigit n).toNat).toNat = Numeral.upperHexDigit n := by
    have hascii := (hexDigit?_upperHexDigit n hn).2.2.1
    rw [UInt8.toNat_ofNat', Nat.mod_eq_of_lt (by omega), Char.ofNat_toNat]
  have hvalue : 16 * (b.toNat / 16) + b.toNat % 16 = b.toNat := Nat.div_add_mod _ _
  change decode (37 :: _ :: _ :: rest) = _
  rw [decode, hdigit _ (by omega), hdigit _ (by omega),
    (hexDigit?_upperHexDigit _ (by omega)).1, (hexDigit?_upperHexDigit _ (by omega)).1]
  simp only [hvalue, UInt8.ofNat_toNat]

def spaced (b : UInt8) : UInt8 :=
  if b = 43 then 32 else b

private theorem decodeForm_eq (s : List Char) :
    decodeForm s = Utf8.decodeLossy (decode ((Utf8.encode (String.ofList s)).map spaced)) := rfl

private theorem map_spaced_eq_self {bytes : List UInt8} (h : 43 ∉ bytes) :
    bytes.map spaced = bytes := by
  have hkept (b : UInt8) (hb : b ∈ bytes) : spaced b = b := by
    refine if_neg ?_
    rintro rfl
    exact h hb
  rw [List.map_congr_left hkept, List.map_id']

theorem decodeForm_eq_self {s : List Char} (h : ∀ c ∈ s, c ≠ '+' ∧ c ≠ '%') :
    decodeForm s = String.ofList s := by
  have hplus : 43 ∉ Utf8.encode (String.ofList s) :=
    Utf8.not_mem_encode (by decide) fun c hc heq => (h c hc).1 (Char.toNat_inj.mp heq)
  have hpercent : 37 ∉ Utf8.encode (String.ofList s) :=
    Utf8.not_mem_encode (by decide) fun c hc heq => (h c hc).2 (Char.toNat_inj.mp heq)
  rw [decodeForm_eq, map_spaced_eq_self hplus, decode_eq_self hpercent, Utf8.decodeLossy_encode]

def formByte (b : UInt8) : List Char :=
  if b = 32 then ['+'] else if plainInForm b then [Char.ofNat b.toNat] else byte b

private theorem encodeForm_eq (s : String) : encodeForm s = (Utf8.encode s).flatMap formByte := rfl

private theorem plainInForm_bounds {b : UInt8} (h : plainInForm b = true) :
    42 ≤ b.toNat ∧ b.toNat < 0x80 ∧ b ≠ 43 := by
  simp only [plainInForm, Bool.or_eq_true, Bool.and_eq_true, decide_eq_true_eq, beq_iff_eq,
    UInt8.le_iff_toNat_le, ← UInt8.toNat_inj, ne_eq, UInt8.reduceToNat] at h ⊢
  omega

private theorem toNat_ofNat_of_ascii {n : Nat} (h : n < 0x80) : (Char.ofNat n).toNat = n := by
  have hvalid : n.isValidChar := Or.inl (by omega)
  rw [Char.ofNat, dif_pos hvalid]
  rfl

theorem encodeForm_forall {P : Char → Prop} (hpercent : P '%')
    (hplain : ∀ c : Char, 42 ≤ c.toNat → c.toNat < 0x80 → P c) (s : String) :
    ∀ c ∈ encodeForm s, P c := by
  intro c hc
  rw [encodeForm_eq] at hc
  obtain ⟨b, _, hc⟩ := List.mem_flatMap.mp hc
  unfold formByte at hc
  split at hc
  next =>
    rw [List.mem_singleton.mp hc]
    exact hplain '+' (by decide) (by decide)
  next =>
    split at hc
    next hb =>
      obtain ⟨hlow, hascii, _⟩ := plainInForm_bounds hb
      have hvalue := toNat_ofNat_of_ascii hascii
      rw [List.mem_singleton.mp hc]
      exact hplain _ (by rwa [hvalue]) (by rwa [hvalue])
    next =>
      refine byte_forall hpercent (fun n hn => ?_) b c hc
      obtain ⟨_, hlow, hascii, _⟩ := hexDigit?_upperHexDigit n hn
      exact hplain _ hlow hascii

def asciiBytes (s : List Char) : List UInt8 :=
  s.map fun c => UInt8.ofNat c.toNat

private theorem ascii_encodeForm (s : String) : ∀ c ∈ encodeForm s, c.toNat < 0x80 :=
  encodeForm_forall (by decide) (fun _ _ hascii => hascii) s

private theorem decode_formByte_append (b : UInt8) (rest : List UInt8) :
    decode ((asciiBytes (formByte b)).map spaced ++ rest) = b :: decode rest := by
  unfold formByte
  split
  next hb =>
    subst hb
    exact decode_cons_of_ne (by decide) rest
  next =>
    split
    next hb =>
      obtain ⟨hlow, hascii, hplus⟩ := plainInForm_bounds hb
      have hpercent : b ≠ 37 := by
        rintro rfl
        exact absurd hlow (by decide)
      have hbyte : asciiBytes [Char.ofNat b.toNat] = [b] := by
        rw [asciiBytes, List.map_singleton, toNat_ofNat_of_ascii hascii, UInt8.ofNat_toNat]
      rw [hbyte, map_spaced_eq_self (by simpa using Ne.symm hplus), List.singleton_append,
        decode_cons_of_ne hpercent]
    next =>
      have hplus : 43 ∉ asciiBytes (byte b) := by
        intro hmem
        obtain ⟨c, hc, hbyte⟩ := List.mem_map.mp hmem
        obtain ⟨hascii, hne⟩ := byte_forall (P := fun c => c.toNat < 0x80 ∧ c ≠ '+')
          (by decide) (fun n hn => (hexDigit?_upperHexDigit n hn).2.2) b c hc
        rw [← UInt8.toNat_inj, UInt8.toNat_ofNat', Nat.mod_eq_of_lt (by omega)] at hbyte
        exact hne (Char.toNat_inj.mp hbyte)
      rw [map_spaced_eq_self hplus, asciiBytes, decode_byte_append]

/-- Every text is read back from its form encoding. -/
theorem decodeForm_encodeForm (s : String) : decodeForm (encodeForm s) = s := by
  have hdecode (bytes : List UInt8) :
      decode ((asciiBytes (bytes.flatMap formByte)).map spaced) = bytes := by
    induction bytes with
    | nil => rfl
    | cons b bytes ih =>
      rw [List.flatMap_cons, asciiBytes, List.map_append, List.map_append]
      exact (decode_formByte_append b _).trans (congrArg (b :: ·) ih)
  rw [decodeForm_eq, Utf8.encode_of_ascii (ascii_encodeForm s), encodeForm_eq]
  exact (congrArg Utf8.decodeLossy (hdecode _)).trans (Utf8.decodeLossy_encode s)

end Url.Percent

end ClusterTransport
