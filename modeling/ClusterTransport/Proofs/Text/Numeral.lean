import ClusterTransport.Proofs.Outcomes
import ClusterTransport.Text.Numeral

/-!
# Numerals read back

The texts that are read as a number are its numerals: digits that spell it, with zeros or a sign in
front of them. The usual one is the numeral that is written.
-/

namespace ClusterTransport.Text.Numeral

variable {limit n : Nat} {beyond : Fault}

theorem hexDigit?_digitChar : ∀ d < 16, hexDigit? (Nat.digitChar d) = some d := by
  decide

private theorem digit?_eq_some_iff {c : Char} {d : Nat} :
    digit? c = some d ↔ c.isDigit = true ∧ c.toNat - '0'.toNat = d := by
  have hrange : '0' ≤ c ∧ c ≤ '9' ↔ c.isDigit = true := by
    rw [Char.isDigit_iff_toNat]
    rfl
  rw [digit?, Option.ite_none_right_eq_some, hrange, Option.some_inj]
  rfl

private theorem le_ofDigitChars (value : Nat) (cs : List Char) :
    value ≤ Nat.ofDigitChars 10 cs value := by
  have hpow : 0 < 10 ^ cs.length := Nat.pow_pos (by decide)
  rw [Nat.ofDigitChars_eq_ofDigitChars_zero]
  exact Nat.le_add_right_of_le (Nat.le_mul_of_pos_left value hpow)

private theorem readDigits_eq_ok_iff {value : Nat} {cs : List Char} (hvalue : value ≤ limit) :
    readDigits limit beyond value cs = .ok n ↔
      (∀ c ∈ cs, c.isDigit = true) ∧ Nat.ofDigitChars 10 cs value = n ∧ n ≤ limit := by
  induction cs generalizing value with
  | nil =>
    rw [readDigits, Except.ok.injEq, Nat.ofDigitChars_nil]
    constructor
    · rintro rfl
      exact ⟨by simp, rfl, hvalue⟩
    · rintro ⟨-, rfl, -⟩
      rfl
  | cons c cs ih =>
    rw [List.forall_mem_cons, Nat.ofDigitChars_cons, Nat.mul_comm, readDigits]
    cases hc : digit? c with
    | none =>
      have hdigit : ¬ c.isDigit = true := by
        intro hdigit
        cases hc.symm.trans (digit?_eq_some_iff.mpr ⟨hdigit, rfl⟩)
      simp [hdigit]
    | some d =>
      obtain ⟨hdigit, hd⟩ := digit?_eq_some_iff.mp hc
      rw [hd]
      by_cases hbeyond : limit < value * 10 + d
      · have hgrows := le_ofDigitChars (value * 10 + d) cs
        simp only [hbeyond, if_true]
        constructor
        · intro hread
          cases hread
        · rintro ⟨-, rfl, hle⟩
          omega
      · simp only [hbeyond, if_false, hdigit, true_and]
        exact ih (Nat.le_of_not_lt hbeyond)

structure IsDigits (limit : Nat) (text : List Char) (n : Nat) : Prop where
  ne_nil : text ≠ []
  isDigit : ∀ c ∈ text, c.isDigit = true
  value : Nat.ofDigitChars 10 text 0 = n
  le_limit : n ≤ limit

inductive IsNumeral (limit : Nat) : List Char → Nat → Prop where
  | unsigned {text : List Char} {n : Nat} (h : IsDigits limit text n) : IsNumeral limit text n
  | signed {text : List Char} {n : Nat} (h : IsDigits limit text n) :
      IsNumeral limit ('+' :: text) n

private theorem not_isDigits_plus {cs : List Char} : ¬ IsDigits limit ('+' :: cs) n := by
  intro h
  exact absurd (h.isDigit '+' List.mem_cons_self) (by decide)

theorem IsNumeral.le_limit {s : List Char} (h : IsNumeral limit s n) : n ≤ limit := by
  cases h with
  | unsigned h => exact h.le_limit
  | signed h => exact h.le_limit

private theorem readDigits_zero_eq_ok_iff {cs : List Char} (h : cs ≠ []) :
    readDigits limit beyond 0 cs = .ok n ↔ IsDigits limit cs n := by
  rw [readDigits_eq_ok_iff (Nat.zero_le limit)]
  constructor
  · rintro ⟨hdigits, hvalue, hle⟩
    exact ⟨h, hdigits, hvalue, hle⟩
  · intro hdigits
    exact ⟨hdigits.isDigit, hdigits.value, hdigits.le_limit⟩

/-- Exactly the numerals up to the limit are read. -/
theorem readNat_eq_ok_iff {s : List Char} : readNat limit s = .ok n ↔ IsNumeral limit s n := by
  fun_cases readNat limit s with
  | case1 =>
    refine iff_of_false nofun ?_
    rintro ⟨h⟩
    exact h.ne_nil rfl
  | case2 =>
    refine iff_of_false nofun ?_
    rintro (h | h)
    · exact not_isDigits_plus h
    · exact h.ne_nil rfl
  | case3 cs hcs =>
    rw [readDigits_zero_eq_ok_iff hcs]
    constructor
    · exact .signed
    · rintro (h | h)
      · exact absurd h not_isDigits_plus
      · exact h
  | case4 _ hnil _ hplus =>
    rw [readDigits_zero_eq_ok_iff hnil]
    constructor
    · exact .unsigned
    · rintro (h | h)
      · exact h
      · exact absurd rfl (hplus _)

theorem isDigit_of_mem_toDigits {c : Char} (h : c ∈ Nat.toDigits 10 n) : c.isDigit = true :=
  Nat.isDigit_of_mem_toDigits (by decide) (by decide) h

theorem isDigits_toDigits (h : n ≤ limit) : IsDigits limit (Nat.toDigits 10 n) n where
  ne_nil := Nat.toDigits_ne_nil
  isDigit := fun _ hc => isDigit_of_mem_toDigits hc
  value := Nat.ofDigitChars_ten_toDigits
  le_limit := h

/-- The decimal digits of a number up to the limit are read as that number. -/
theorem readDigits_toDigits (h : n ≤ limit) :
    readDigits limit beyond 0 (Nat.toDigits 10 n) = .ok n :=
  (readDigits_zero_eq_ok_iff Nat.toDigits_ne_nil).mpr (isDigits_toDigits h)

private theorem digitChar_of_digit? {c : Char} {d : Nat} (h : digit? c = some d) :
    d < 10 ∧ Nat.digitChar d = c := by
  rw [digit?, Option.ite_none_right_eq_some] at h
  obtain ⟨⟨hlow, hhigh⟩, hd⟩ := h
  have hd := Option.some_inj.mp hd
  have hlow' : 48 ≤ c.toNat := hlow
  have hhigh' : c.toNat ≤ 57 := hhigh
  have hten : d < 10 := by omega
  refine ⟨hten, Char.toNat_inj.mp ?_⟩
  rw [Nat.toNat_digitChar_of_lt_ten hten]
  omega

private theorem digitChar_eq_zero_iff : ∀ d < 10, Nat.digitChar d = '0' ↔ d = 0 := by
  decide

private theorem readDigits_cons_eq_ok {value : Nat} {c : Char} {cs : List Char}
    (h : readDigits limit beyond value (c :: cs) = .ok n) :
    ∃ d, digit? c = some d ∧ readDigits limit beyond (value * 10 + d) cs = .ok n := by
  rw [readDigits] at h
  cases hd : digit? c with
  | none => simp [hd] at h
  | some d =>
    simp only [hd] at h
    split at h
    · cases h
    · exact ⟨d, rfl, h⟩

private theorem toDigits_of_readDigits {value : Nat} {cs : List Char} (hvalue : 0 < value)
    (h : readDigits limit beyond value cs = .ok n) :
    Nat.toDigits 10 n = Nat.toDigits 10 value ++ cs := by
  induction cs generalizing value with
  | nil =>
    cases h
    rw [List.append_nil]
  | cons c cs ih =>
    obtain ⟨d, hc, hrest⟩ := readDigits_cons_eq_ok h
    obtain ⟨hd, hchar⟩ := digitChar_of_digit? hc
    rw [ih (by omega) hrest, Nat.mul_comm,
      ← Nat.toDigits_append_toDigits (by decide) hvalue hd, Nat.toDigits_of_lt_base hd, hchar,
      List.append_assoc, List.singleton_append]

private theorem head?_toDigits_eq_zero_iff : (Nat.toDigits 10 n).head? = some '0' ↔ n = 0 := by
  induction n using Nat.strongRecOn with
  | ind n ih =>
    by_cases hn : n < 10
    · rw [Nat.toDigits_of_lt_base hn, List.head?_cons, Option.some_inj]
      exact digitChar_eq_zero_iff n hn
    · rw [Nat.toDigits_of_base_le (by decide) (by omega), List.head?_append,
        List.head?_eq_some_head Nat.toDigits_ne_nil, Option.some_or, ← List.head?_eq_some_head,
        ih (n / 10) (by omega)]
      omega

private theorem toDigits_eq_iff_of_readDigits {c : Char} {cs : List Char}
    (h : readDigits limit beyond 0 (c :: cs) = .ok n) :
    Nat.toDigits 10 n = c :: cs ↔ (c = '0' → cs = []) := by
  obtain ⟨d, hc, hrest⟩ := readDigits_cons_eq_ok h
  obtain ⟨hd, rfl⟩ := digitChar_of_digit? hc
  rw [Nat.zero_mul, Nat.zero_add] at hrest
  by_cases hzero : d = 0
  · subst hzero
    constructor
    · rintro hdigits -
      have hn : n = 0 := head?_toDigits_eq_zero_iff.mp (by rw [hdigits]; rfl)
      subst hn
      exact (List.cons.inj hdigits).2.symm
    · intro hcs
      obtain rfl := hcs rfl
      cases hrest
      rfl
  · refine iff_of_true ?_ fun hchar => absurd ((digitChar_eq_zero_iff d hd).mp hchar) hzero
    rw [toDigits_of_readDigits (by omega) hrest, Nat.toDigits_of_lt_base hd, List.singleton_append]

/-- Whether a numeral has no plus sign, no zeros in front of other digits and no minus sign in front
of zero. -/
def isCanonical : List Char → Bool
  | '+' :: _ => false
  | '-' :: '0' :: _ => false
  | '0' :: _ :: _ => false
  | _ => true

private theorem isCanonical_minus_iff {c : Char} {cs : List Char} :
    isCanonical ('-' :: c :: cs) ↔ c ≠ '0' := by
  by_cases h : c = '0' <;> simp [isCanonical, h]

private theorem isCanonical_cons_iff {c : Char} {cs : List Char} (hplus : c ≠ '+')
    (hminus : c ≠ '-') :
    isCanonical (c :: cs) ↔ (c = '0' → cs = []) := by
  by_cases h : c = '0'
  · subst h
    cases cs <;> simp [isCanonical]
  · simp [isCanonical, h, hplus, hminus]

private theorem toList_toString_ofNat (n : Nat) :
    (toString (Int.ofNat n)).toList = Nat.toDigits 10 n :=
  Nat.toList_repr

private theorem toList_toString_neg (h : n ≠ 0) :
    (toString (-Int.ofNat n)).toList = '-' :: Nat.toDigits 10 n := by
  obtain ⟨m, rfl⟩ := Nat.exists_eq_succ_of_ne_zero h
  exact (String.toList_append ..).trans (congrArg _ Nat.toList_repr)

private theorem toList_toString_eq_iff_minus {cs : List Char} (hcs : cs ≠ [])
    (h : readDigits limit beyond 0 cs = .ok n) :
    (toString (-Int.ofNat n)).toList = '-' :: cs ↔ isCanonical ('-' :: cs) := by
  obtain ⟨c, cs, rfl⟩ := List.exists_cons_of_ne_nil hcs
  have hdigits := toDigits_eq_iff_of_readDigits h
  rw [isCanonical_minus_iff]
  by_cases hn : n = 0
  · subst hn
    refine iff_of_false (fun hzero => ?_) fun hc => ?_
    · exact absurd (List.cons.inj hzero).1 (by decide)
    · have hzero := hdigits.mpr fun hc' => absurd hc' hc
      exact hc (List.cons.inj hzero).1.symm
  · rw [toList_toString_neg hn, List.cons_inj_right, hdigits]
    refine ⟨fun hlead hc => hn ?_, fun hc hc' => absurd hc' hc⟩
    rw [hlead hc, hc] at h
    cases h
    rfl

/-- A numeral is the usual one of the integer that it spells if and only if it is canonical. -/
theorem toList_toString_eq_iff {s : List Char} {i : Int} (h : readInt limit s = .ok i) :
    (toString i).toList = s ↔ isCanonical s := by
  revert h
  fun_cases readInt limit s with
  | case1 => nofun
  | case2 => nofun
  | case3 => nofun
  | case4 cs =>
    intro h
    obtain ⟨n, -, rfl⟩ := map_eq_ok_iff.mp h
    refine iff_of_false (fun hplus => ?_) (by simp [isCanonical])
    have hmem : '+' ∈ Nat.toDigits 10 n := by
      rw [← toList_toString_ofNat, hplus]
      exact List.mem_cons_self
    exact absurd (isDigit_of_mem_toDigits hmem) (by decide)
  | case5 cs hcs =>
    intro h
    obtain ⟨n, hdigits, rfl⟩ := map_eq_ok_iff.mp h
    exact toList_toString_eq_iff_minus hcs hdigits
  | case6 _ hnil _ _ hplus hminus =>
    intro h
    obtain ⟨n, hdigits, rfl⟩ := map_eq_ok_iff.mp h
    obtain ⟨c, cs, rfl⟩ := List.exists_cons_of_ne_nil hnil
    rw [toList_toString_ofNat, toDigits_eq_iff_of_readDigits hdigits, isCanonical_cons_iff]
    · rintro rfl
      exact hplus cs rfl
    · rintro rfl
      exact hminus cs rfl

end ClusterTransport.Text.Numeral
