import Mathlib

/-!
# Rounding in double width

Sums and quotients of positive numbers in double width are within half a unit of their last place.
The bits that are kept of what the digits leave out tell where the exact number lies, and shifting
digits out keeps that in step.
-/

namespace ClusterTransport

namespace Rounding

open Float.Model Float.Model.UnpackedFloat

/-- The digits and the two bits behind them are those of `v`: the first bit stands for a half, and
the second one tells whether anything is left. -/
def Reads (em : ExtendedMantissa) (v : ℚ) : Prop :=
  ∃ rest : ℚ, 0 ≤ rest ∧ rest < 1 / 2 ∧ (em.stickyBit = false ↔ rest = 0) ∧
    v = em.mantissa + (if em.roundBit then 1 / 2 else 0) + rest

private theorem reads_exact (m : Nat) : Reads (.ofMantissaAndAccuracy m .exact) m :=
  ⟨0, by simp [ExtendedMantissa.ofMantissaAndAccuracy]⟩

private theorem reads_fraction {num den : Nat} (m : Nat) (h : num < den) :
    Reads (.ofMantissaAndAccuracy m (accuracyOfFraction num den)) (m + num / den) := by
  have hden : (0 : ℚ) < den := by exact_mod_cast Nat.zero_lt_of_lt h
  have hlt : (num : ℚ) / den < 1 := (div_lt_one hden).mpr (by exact_mod_cast h)
  unfold accuracyOfFraction
  split
  next hzero => simpa [hzero] using reads_exact m
  next hzero =>
    have hpos : (0 : ℚ) < num / den := by
      have hnum : (0 : ℚ) < num := by exact_mod_cast Nat.pos_of_ne_zero hzero
      positivity
    rcases lt_trichotomy (2 * num) den with hhalf | hhalf | hhalf
    · have hbelow : (num : ℚ) / den < 1 / 2 := by
        rw [div_lt_div_iff₀ hden two_pos]
        exact_mod_cast (by omega : num * 2 < 1 * den)
      rw [Nat.compare_eq_lt.mpr hhalf]
      exact ⟨num / den, hpos.le, hbelow, by simp [ExtendedMantissa.ofMantissaAndAccuracy, hpos.ne'],
        by simp [ExtendedMantissa.ofMantissaAndAccuracy]⟩
    · have heq : (num : ℚ) / den = 1 / 2 := by
        rw [div_eq_div_iff hden.ne' two_ne_zero]
        exact_mod_cast (by omega : num * 2 = 1 * den)
      rw [Nat.compare_eq_eq.mpr hhalf]
      exact ⟨0, le_refl _, by norm_num, by simp [ExtendedMantissa.ofMantissaAndAccuracy],
        by simp [ExtendedMantissa.ofMantissaAndAccuracy, heq]⟩
    · have habove : 1 / 2 < (num : ℚ) / den := by
        rw [div_lt_div_iff₀ two_pos hden]
        exact_mod_cast (by omega : 1 * den < num * 2)
      rw [Nat.compare_eq_gt.mpr hhalf]
      refine ⟨num / den - 1 / 2, by linarith, by linarith, ?_, ?_⟩
      · simpa [ExtendedMantissa.ofMantissaAndAccuracy] using (sub_pos.mpr habove).ne'
      · simp [ExtendedMantissa.ofMantissaAndAccuracy]

private theorem reads_quotient {den : Nat} (num : Nat) (h : 0 < den) :
    Reads (.ofMantissaAndAccuracy (num / den) (accuracyOfFraction (num % den) den))
      (num / den : ℚ) := by
  have hreads := reads_fraction (num / den) (Nat.mod_lt num h)
  have hden : (den : ℚ) ≠ 0 := by exact_mod_cast h.ne'
  have hnum : (den * (num / den : Nat) + (num % den : Nat) : ℚ) = num := by
    exact_mod_cast Nat.div_add_mod num den
  have hvalue : ((num / den : Nat) + (num % den : Nat) / den : ℚ) = num / den := by
    rw [eq_div_iff hden, add_mul, div_mul_cancel₀ _ hden, mul_comm, hnum]
  rwa [hvalue] at hreads

namespace Reads

variable {em : ExtendedMantissa} {v : ℚ}

theorem shiftRightOne (h : Reads em v) : Reads em.shiftRightOne (v / 2) := by
  obtain ⟨rest, hlow, hhigh, hsticky, rfl⟩ := h
  have hdigits : (em.mantissa : ℚ) = 2 * (em.mantissa / 2 : Nat) + (em.mantissa % 2 : Nat) := by
    exact_mod_cast (Nat.div_add_mod em.mantissa 2).symm
  -- the digit shifted out becomes the first bit, and the old first bit is left with the rest
  refine ⟨(if em.roundBit then 1 / 4 else 0) + rest / 2, ?_, ?_, ?_, ?_⟩
  · split <;> linarith
  · split <;> linarith
  · cases hround : em.roundBit <;> simp [ExtendedMantissa.shiftRightOne, hround, hsticky]
    linarith
  · rw [hdigits]
    rcases Nat.mod_two_eq_zero_or_one em.mantissa with hmod | hmod <;>
      cases em.roundBit <;> simp [ExtendedMantissa.shiftRightOne, hmod] <;> ring

private theorem shiftRight (h : Reads em v) (k : Nat) : Reads (em >>> k) (v / 2 ^ k) := by
  change Reads (k.repeat ExtendedMantissa.shiftRightOne em) _
  induction k with
  | zero => simpa [Nat.repeat] using h
  | succ k ih =>
    rw [pow_succ, ← div_div]
    exact ih.shiftRightOne

private theorem floor (h : Reads em v) : em.mantissa ≤ v ∧ v < em.mantissa + 1 := by
  obtain ⟨rest, hlow, hhigh, -, rfl⟩ := h
  constructor <;> split <;> linarith

private theorem abs_sub_le (h : Reads em v) : |em.roundedMantissa - v| ≤ 1 / 2 := by
  obtain ⟨rest, hlow, hhigh, hsticky, rfl⟩ := h
  obtain ⟨m, round, sticky⟩ := em
  have hmod : ((m % 2 : Nat) : ℚ) ≤ 1 := by exact_mod_cast (by omega : m % 2 ≤ 1)
  have hnonneg : (0 : ℚ) ≤ (m % 2 : Nat) := Nat.cast_nonneg _
  rw [abs_le]
  cases round <;> cases sticky <;>
    simp only [ExtendedMantissa.roundedMantissa, ExtendedMantissa.accuracy,
      Accuracy.roundToNearestEven, Nat.cast_add, Nat.cast_one, Bool.false_eq_true, if_false,
      if_true, true_iff] at hsticky ⊢ <;>
    constructor <;> linarith

private theorem roundedMantissa_eq {n : Nat} (h : Reads em n) : em.roundedMantissa = n := by
  obtain ⟨hlow, hhigh⟩ := abs_le.mp h.abs_sub_le
  have hle : em.roundedMantissa < n + 1 := by
    have hcast : (em.roundedMantissa : ℚ) < n + 1 := by linarith
    exact_mod_cast hcast
  have hge : n < em.roundedMantissa + 1 := by
    have hcast : (n : ℚ) < em.roundedMantissa + 1 := by linarith
    exact_mod_cast hcast
  omega

end Reads

section Digits

variable {m k : Nat} {e : Int} {a : Accuracy} {v : ℚ}

private theorem mantissa_ofMantissaAndAccuracy (m : Nat) (a : Accuracy) :
    (ExtendedMantissa.ofMantissaAndAccuracy m a).mantissa = m := by
  cases a with
  | exact => rfl
  | inexact order => cases order <;> rfl

private theorem shiftToTargetExponent_eq (a : Accuracy) (hm : m.log2 = 52 + k)
    (he : -1074 ≤ e + k) :
    shiftToTargetExponent .binary64 m e a =
      ((ExtendedMantissa.ofMantissaAndAccuracy m a) >>> k, e + k) := by
  have htarget : Format.binary64.targetExponent (totalExponent m e) = e + k := by
    simp only [Format.targetExponent, totalExponent, Format.mantissaBits, Format.minExponent]
    omega
  have hshift : (e + (k : Int) - e).toNat = k := by omega
  simp only [shiftToTargetExponent, shiftToExponent, htarget, hshift]

private theorem roundWithAccuracy_eq {r : Nat} (s : Sign) (hm : m.log2 = 52 + k)
    (he : -1074 ≤ e + k)
    (hr : ((ExtendedMantissa.ofMantissaAndAccuracy m a) >>> k).roundedMantissa = r)
    (hlog : r.log2 = 52) (hpos : 0 < r) :
    roundWithAccuracy .binary64 s m e a = .finite s r (e + k) hpos := by
  have hagain := shiftToTargetExponent_eq (k := 0) (e := e + k) .exact hlog (by omega)
  rw [Nat.cast_zero, add_zero] at hagain
  simp only [roundWithAccuracy, shiftToTargetExponent_eq a hm he, hr, hagain]
  exact dif_neg hpos.ne'

/-- Where a carry makes the digits one more, the last one is dropped. -/
private theorem roundWithAccuracy_carry (s : Sign) (hm : m.log2 = 52 + k) (he : -1074 ≤ e + k)
    (hr : ((ExtendedMantissa.ofMantissaAndAccuracy m a) >>> k).roundedMantissa = 2 ^ 53) :
    roundWithAccuracy .binary64 s m e a = .finite s (2 ^ 52) (e + k + 1) (by decide) := by
  have hagain := shiftToTargetExponent_eq (k := 1) (e := e + k) .exact
    (Nat.log2_two_pow (n := 53)) (by omega)
  rw [Nat.cast_one] at hagain
  simp only [roundWithAccuracy, shiftToTargetExponent_eq a hm he, hr, hagain]
  rfl

private theorem log2_mul_two_pow (hm : m ≠ 0) (k : Nat) : (m * 2 ^ k).log2 = m.log2 + k := by
  induction k with
  | zero => simp
  | succ k ih =>
    rw [Nat.pow_succ, ← Nat.mul_assoc, Nat.mul_comm _ 2, Nat.log2_two_mul (by positivity), ih,
      Nat.add_assoc]

/-- Nothing is lost of a number with 53 digits or fewer. -/
theorem roundWithAccuracy_exact (s : Sign) (h : 0 < m) (hm : m.log2 = 52) (he : -1074 ≤ e + k) :
    roundWithAccuracy .binary64 s (m * 2 ^ k) e .exact = .finite s m (e + k) h := by
  have hlog : (m * 2 ^ k).log2 = 52 + k := by rw [log2_mul_two_pow h.ne', hm]
  have hreads := (reads_exact (m * 2 ^ k)).shiftRight k
  rw [Nat.cast_mul, Nat.cast_pow, Nat.cast_ofNat, mul_div_cancel_right₀ _ (by positivity)] at hreads
  exact roundWithAccuracy_eq s hlog he hreads.roundedMantissa_eq hm h

private theorem rounded_of_near {r : Nat} {x : ℚ} (hlow : 2 ^ 52 ≤ x) (hhigh : x < 2 ^ 53)
    (hclose : |r - x| ≤ 1 / 2) : 2 ^ 52 ≤ r ∧ r ≤ 2 ^ 53 ∧ |r - x| ≤ x / 2 ^ 53 := by
  obtain ⟨hunder, hover⟩ := abs_le.mp hclose
  have hrlow : (2 : ℚ) ^ 52 < r + 1 := by linarith
  have hrhigh : (r : ℚ) < 2 ^ 53 + 1 := by linarith
  refine ⟨Nat.le_of_lt_succ (by exact_mod_cast hrlow), Nat.le_of_lt_succ (by exact_mod_cast hrhigh),
    hclose.trans ?_⟩
  rw [le_div_iff₀ (by positivity : (0 : ℚ) < 2 ^ 53)]
  linarith

/-- Rounded to 53 digits, a number is off by half a unit of the last place at most. -/
theorem roundWithAccuracy_near (s : Sign) (hm : m.log2 = 52 + k) (he : -1074 ≤ e + k)
    (hreads : Reads (.ofMantissaAndAccuracy m a) v) :
    ∃ m' e' h, roundWithAccuracy .binary64 s m e a = .finite s m' e' h ∧ m'.log2 = 52 ∧
      (e' = e + k ∨ e' = e + k + 1) ∧
      |(m' : ℚ) * 2 ^ e' - v * 2 ^ e| ≤ v * 2 ^ e / 2 ^ 53 := by
  have hne : m ≠ 0 := by
    rintro rfl
    simp at hm
    omega
  obtain ⟨hbelow, habove⟩ := (Nat.log2_eq_iff hne).mp hm
  obtain ⟨hlow, hhigh⟩ := hreads.floor
  rw [mantissa_ofMantissaAndAccuracy] at hlow hhigh
  have hunit : (0 : ℚ) < 2 ^ k := by positivity
  -- 53 digits stand before the point once the others are shifted out
  have hfirst : (2 : ℚ) ^ 52 ≤ v / 2 ^ k := by
    rw [le_div_iff₀ hunit, ← pow_add]
    exact le_trans (by exact_mod_cast hbelow) hlow
  have hlast : v / 2 ^ k < 2 ^ 53 := by
    rw [div_lt_iff₀ hunit, ← pow_add, show 53 + k = 52 + k + 1 by omega]
    exact hhigh.trans_le (by exact_mod_cast habove)
  generalize hr : ((ExtendedMantissa.ofMantissaAndAccuracy m a) >>> k).roundedMantissa = r
  have hclose : |(r : ℚ) - v / 2 ^ k| ≤ 1 / 2 := hr ▸ (hreads.shiftRight k).abs_sub_le
  obtain ⟨hrlow, hrhigh, hrelative⟩ := rounded_of_near hfirst hlast hclose
  have hv : v * 2 ^ e = v / 2 ^ k * 2 ^ (e + k) := by
    rw [zpow_add₀ two_ne_zero, zpow_natCast]
    field_simp
  have hscale : (0 : ℚ) < 2 ^ (e + k) := zpow_pos two_pos _
  have herror : |(r : ℚ) * 2 ^ (e + k) - v * 2 ^ e| ≤ v * 2 ^ e / 2 ^ 53 := by
    rw [hv, ← sub_mul, abs_mul, abs_of_pos hscale, mul_div_right_comm]
    exact mul_le_mul_of_nonneg_right hrelative hscale.le
  rcases Nat.lt_or_eq_of_le hrhigh with hlt | rfl
  · have hlog : r.log2 = 52 := (Nat.log2_eq_iff (by omega)).mpr ⟨hrlow, hlt⟩
    exact ⟨r, e + k, by omega, roundWithAccuracy_eq s hm he hr hlog (by omega), hlog, .inl rfl,
      herror⟩
  · refine ⟨2 ^ 52, e + k + 1, by decide, roundWithAccuracy_carry s hm he hr, Nat.log2_two_pow,
      .inr rfl, ?_⟩
    have hcarry : ((2 ^ 52 : Nat) : ℚ) * 2 ^ (e + k + 1) = (2 ^ 53 : Nat) * 2 ^ (e + k) := by
      rw [zpow_add_one₀ two_ne_zero]
      push_cast
      ring
    rwa [hcarry]

private theorem round_eq {j : Nat} (s : Sign) (hm : m.log2 + j = 52 + k) (hjk : j = 0 ∨ k = 0)
    (he : -1074 ≤ e - j + k) :
    UnpackedFloat.round .binary64 s m e =
      roundWithAccuracy .binary64 s (m * 2 ^ j) (e - j) .exact := by
  have htarget : Format.binary64.targetExponent (totalExponent m e) = e - j + k := by
    simp only [Format.targetExponent, totalExponent, Format.mantissaBits, Format.minExponent]
    omega
  have hshift : (e - (e - j + k)).toNat = j := by omega
  simp only [UnpackedFloat.round, decreaseExponent, htarget, hshift, Nat.shiftLeft_eq]

end Digits

section Packing

variable {m : Nat} {e : Int}

private theorem toNat_one_append (h : m.log2 = 52) (hm : m ≠ 0) :
    (1#1 ++ BitVec.ofNat 52 m).toNat = m := by
  obtain ⟨hbelow, habove⟩ := (Nat.log2_eq_iff hm).mp h
  have hlt : (BitVec.ofNat 52 m).toNat < 2 ^ 52 := (BitVec.ofNat 52 m).isLt
  rw [BitVec.toNat_append, ← Nat.shiftLeft_add_eq_or_of_lt hlt, BitVec.toNat_ofNat,
    BitVec.toNat_ofNat, Nat.shiftLeft_eq]
  omega

private theorem pack_eq {b : Nat} (s : Sign) (h : 0 < m) (hm : m.log2 = 52) (hb : e + 1075 = b)
    (hlt : b < 2047) : UnpackedFloat.pack .binary64 (.finite s m e h) =
      packComponents .binary64 s (BitVec.ofNat 11 b) (BitVec.ofNat 52 m) := by
  have hbias : Format.binary64.exponentBias = 1023 := rfl
  have hbiased : (e + 1023 + 52).toNat = b := by omega
  simp only [UnpackedFloat.pack, hbias, Nat.cast_ofNat, hbiased, hm]
  rw [if_neg (by omega)]
  exact if_pos rfl

/-- A number of 53 digits in range comes back from its bits. -/
theorem unpack_pack (s : Sign) (h : 0 < m) (hm : m.log2 = 52) (hlow : -1074 ≤ e)
    (hhigh : e ≤ 971) : (Float.Model.pack (.finite s m e h)).unpack = .finite s m e h := by
  obtain ⟨b, hb⟩ : ∃ b : Nat, e + 1075 = b := ⟨(e + 1075).toNat, by omega⟩
  have hbias : Format.binary64.exponentBias = 1023 := rfl
  have hfield : (BitVec.ofNat 11 b).toNat = b := by
    rw [BitVec.toNat_ofNat, Nat.mod_eq_of_lt (by omega)]
  have hzero : BitVec.ofNat 11 b ≠ 0#11 := by
    intro hz
    have hnat : b = 0 := by simpa [hfield] using congrArg BitVec.toNat hz
    omega
  have hones : BitVec.ofNat 11 b ≠ -1#11 := by
    intro hz
    have hnat : b = 2047 := by simpa [hfield] using congrArg BitVec.toNat hz
    omega
  have hexponent : (b : Int) - (1023 + 52) = e := by omega
  change UnpackedFloat.unpack .binary64 (UnpackedFloat.pack .binary64 (.finite s m e h)) = _
  rw [pack_eq s h hm hb (by omega), UnpackedFloat.unpack]
  simp only [unpackExponent_packComponents, unpackMantissa_packComponents,
    unpackSign_packComponents, Sign.ofBitVec_toBitVec, if_neg hzero, if_neg hones, hfield,
    toNat_one_append hm h.ne', hbias, Nat.cast_ofNat, hexponent]

end Packing

def number (x : Float) : Option ℚ :=
  match x.toModel.unpack with
  | .zero _ => some 0
  | .finite s m e _ => some (s.apply m * 2 ^ e)
  | _ => none

private theorem lt_iff {x y : Float} : x < y ↔ x.toModel.unpack.lt y.toModel.unpack = true :=
  decide_eq_true_iff

/-- A float is the positive number with these 53 digits. -/
structure Holds (x : Float) (m : Nat) (e : Int) : Prop where
  pos : 0 < m
  unpack : x.toModel.unpack = .finite .positive m e pos
  digits : m.log2 = 52
  low : -1074 ≤ e
  high : e ≤ 971

namespace Holds

variable {x y : Float} {m m₁ m₂ n : Nat} {e e₁ e₂ : Int}

theorem number_eq (h : Holds x m e) : number x = some (m * 2 ^ e : ℚ) := by
  rw [number, h.unpack]
  simp [Sign.apply]

private theorem pack (h : 0 < m) (hm : m.log2 = 52) (hlow : -1074 ≤ e) (hhigh : e ≤ 971) :
    Holds (.ofModel (.pack (.finite .positive m e h))) m e :=
  ⟨h, unpack_pack .positive h hm hlow hhigh, hm, hlow, hhigh⟩

private theorem neg_unpack (h : Holds x m e) :
    (-x).toModel.unpack = .finite .negative m e h.pos := by
  change (Float.Model.pack x.toModel.unpack.neg).unpack = _
  rw [h.unpack]
  exact unpack_pack .negative h.pos h.digits h.low h.high

theorem number_neg (h : Holds x m e) : number (-x) = some (-(m * 2 ^ e) : ℚ) := by
  rw [number, h.neg_unpack]
  simp [Sign.apply]

theorem not_lt_zero (h : Holds x m e) : ¬x < 0.0 := by
  rw [lt_iff, h.unpack]
  exact Bool.false_ne_true

theorem neg_lt_zero (h : Holds x m e) : -x < 0.0 := by
  rw [lt_iff, h.neg_unpack]
  rfl

theorem ofBits {b : Nat} (hpos : 0 < b) (hlt : b < 2047) :
    Holds (.ofBits (b.toUInt64 * 0x10000000000000)) (2 ^ 52) (b - 1075) := by
  have hone : 0 < 2 ^ 52 := by decide
  have hpack := pack_eq (e := b - 1075) .positive hone Nat.log2_two_pow (by omega) hlt
  have hword : (b.toUInt64 * 0x10000000000000).toNat = b * 2 ^ 52 := by
    rw [UInt64.toNat_mul, Nat.toUInt64, UInt64.toNat_ofNat',
      Nat.mod_eq_of_lt (by omega : b < 2 ^ 64)]
    exact Nat.mod_eq_of_lt (by omega : b * 2 ^ 52 < 2 ^ 64)
  have hfield : (BitVec.ofNat 11 b).toNat = b := by
    rw [BitVec.toNat_ofNat, Nat.mod_eq_of_lt (by omega)]
  have happend : (0#1 ++ BitVec.ofNat 11 b ++ 0#52).toNat = b * 2 ^ 52 := by
    rw [BitVec.toNat_append, BitVec.toNat_append, hfield, Nat.shiftLeft_eq]
    simp
  have hbits : (b.toUInt64 * 0x10000000000000).toBitVec =
      packComponents .binary64 .positive (BitVec.ofNat 11 b) (BitVec.ofNat 52 (2 ^ 52)) :=
    BitVec.eq_of_toNat_eq (hword.trans happend.symm)
  have hunpack := unpack_pack (e := b - 1075) .positive hone Nat.log2_two_pow (by omega) (by omega)
  refine ⟨hone, ?_, Nat.log2_two_pow, by omega, by omega⟩
  change (Float.Model.pack
    (UnpackedFloat.unpack .binary64 (b.toUInt64 * 0x10000000000000).toBitVec)).unpack = _
  rw [hbits, ← hpack]
  exact (congrArg (fun u => (Float.Model.pack u).unpack) hunpack).trans hunpack

theorem one : Holds 1.0 (2 ^ 52) (-52) := by
  have hbits : (1.0 : Float) = .ofBits ((1023 : Nat).toUInt64 * 0x10000000000000) := by
    decide +kernel
  rw [hbits]
  exact ofBits (by decide) (by decide)

theorem ofNat (hpos : 0 < n) (hlt : n < 2 ^ 53) :
    ∃ m e, Holds n.toUInt64.toFloat m e ∧ -52 ≤ e ∧ e ≤ 0 ∧ (m : ℚ) * 2 ^ e = n := by
  have hlog : n.log2 < 53 := (Nat.log2_lt hpos.ne').mpr hlt
  obtain ⟨j, hj⟩ : ∃ j, n.log2 + j = 52 := ⟨52 - n.log2, by omega⟩
  have hdigits : (n * 2 ^ j).log2 = 52 := by rw [log2_mul_two_pow hpos.ne', hj]
  have hm : 0 < n * 2 ^ j := by positivity
  have hword : n.toUInt64.toNat = n := by
    rw [Nat.toUInt64, UInt64.toNat_ofNat']
    omega
  have hround : UnpackedFloat.ofNat .binary64 n = .finite .positive (n * 2 ^ j) (0 - j) hm := by
    have hcompare : compare (n : Int) 0 = .gt := Int.compare_eq_gt.mpr (by omega)
    simp only [UnpackedFloat.ofNat, UnpackedFloat.ofInt, UnpackedFloat.normalize,
      hcompare, Int.toNat_natCast]
    rw [round_eq (k := 0) .positive hj (.inr rfl) (by omega)]
    have hexact := roundWithAccuracy_exact (k := 0) (e := 0 - j) .positive hm hdigits (by omega)
    simpa using hexact
  have hmodel :
      n.toUInt64.toFloat = .ofModel (.pack (.finite .positive (n * 2 ^ j) (0 - j) hm)) := by
    rw [← hround]
    exact congrArg (fun n => Float.ofModel (.pack (UnpackedFloat.ofNat .binary64 n))) hword
  refine ⟨n * 2 ^ j, 0 - j, hmodel ▸ pack hm hdigits (by omega) (by omega), by omega, by omega, ?_⟩
  rw [zero_sub, zpow_neg, zpow_natCast]
  push_cast
  field_simp

private theorem log2_add (hlog₁ : m₁.log2 = 52) (hlog₂ : m₂.log2 = 52) (hm₁ : 0 < m₁) (hm₂ : 0 < m₂)
    (k₁ k₂ : Nat) :
    (m₁ * 2 ^ k₁ + m₂ * 2 ^ k₂).log2 = 52 + max k₁ k₂ ∨
      (m₁ * 2 ^ k₁ + m₂ * 2 ^ k₂).log2 = 53 + max k₁ k₂ := by
  obtain ⟨hbelow₁, habove₁⟩ := (Nat.log2_eq_iff hm₁.ne').mp hlog₁
  obtain ⟨hbelow₂, habove₂⟩ := (Nat.log2_eq_iff hm₂.ne').mp hlog₂
  have hle₁ : 2 ^ k₁ ≤ 2 ^ max k₁ k₂ := Nat.pow_le_pow_right two_pos (Nat.le_max_left _ _)
  have hle₂ : 2 ^ k₂ ≤ 2 ^ max k₁ k₂ := Nat.pow_le_pow_right two_pos (Nat.le_max_right _ _)
  have hmax : 2 ^ max k₁ k₂ = 2 ^ k₁ ∨ 2 ^ max k₁ k₂ = 2 ^ k₂ := by
    rcases Nat.le_total k₁ k₂ with hle | hle <;> simp [hle]
  have hlow₁ := Nat.mul_le_mul_right (2 ^ k₁) hbelow₁
  have hlow₂ := Nat.mul_le_mul_right (2 ^ k₂) hbelow₂
  have hhigh₁ := Nat.mul_lt_mul_of_pos_right habove₁ (Nat.two_pow_pos k₁)
  have hhigh₂ := Nat.mul_lt_mul_of_pos_right habove₂ (Nat.two_pow_pos k₂)
  have hne : m₁ * 2 ^ k₁ + m₂ * 2 ^ k₂ ≠ 0 := by positivity
  have hge : 52 + max k₁ k₂ ≤ (m₁ * 2 ^ k₁ + m₂ * 2 ^ k₂).log2 := by
    rw [Nat.le_log2 hne, Nat.pow_add]
    omega
  have hlt : (m₁ * 2 ^ k₁ + m₂ * 2 ^ k₂).log2 < 54 + max k₁ k₂ := by
    rw [Nat.log2_lt hne, Nat.pow_add]
    omega
  omega

private theorem add_eq {t : Int} {k₁ k₂ k : Nat} (hm₁ : 0 < m₁) (hm₂ : 0 < m₂)
    (ht : min e₁ e₂ = t) (hk₁ : (e₁ - t).toNat = k₁) (hk₂ : (e₂ - t).toNat = k₂)
    (hk : (m₁ * 2 ^ k₁ + m₂ * 2 ^ k₂).log2 = 52 + k) (hlow : -1074 ≤ t) :
    UnpackedFloat.add .binary64 (.finite .positive m₁ e₁ hm₁) (.finite .positive m₂ e₂ hm₂) =
      roundWithAccuracy .binary64 .positive (m₁ * 2 ^ k₁ + m₂ * 2 ^ k₂) t .exact := by
  have hpos : 0 < m₁ * 2 ^ k₁ + m₂ * 2 ^ k₂ := by positivity
  have hcompare : compare ((m₁ * 2 ^ k₁ + m₂ * 2 ^ k₂ : Nat) : Int) 0 = .gt :=
    Int.compare_eq_gt.mpr (by exact_mod_cast hpos)
  have hround := round_eq (j := 0) (e := t) .positive hk (.inl rfl) (by omega)
  simp only [UnpackedFloat.add, decreaseExponent, ht, hk₁, hk₂, Sign.apply,
    UnpackedFloat.normalize, Nat.shiftLeft_eq, ← Nat.cast_add, hcompare, Int.toNat_natCast]
  simpa using hround

/-- A sum is off by half a unit of the last place at most. -/
theorem add_near (hx : Holds x m₁ e₁) (hy : Holds y m₂ e₂) (h₁ : e₁ ≤ 969) (h₂ : e₂ ≤ 969) :
    ∃ m e, Holds (x + y) m e ∧ max e₁ e₂ ≤ e ∧ e ≤ max e₁ e₂ + 2 ∧
      |(m : ℚ) * 2 ^ e - (m₁ * 2 ^ e₁ + m₂ * 2 ^ e₂)| ≤
        (m₁ * 2 ^ e₁ + m₂ * 2 ^ e₂ : ℚ) / 2 ^ 53 := by
  obtain ⟨hm₁, hx, hlog₁, hlow₁, -⟩ := hx
  obtain ⟨hm₂, hy, hlog₂, hlow₂, -⟩ := hy
  obtain ⟨t, ht⟩ : ∃ t, min e₁ e₂ = t := ⟨_, rfl⟩
  obtain ⟨k₁, hk₁⟩ : ∃ k : Nat, (e₁ - t).toNat = k := ⟨_, rfl⟩
  obtain ⟨k₂, hk₂⟩ : ∃ k : Nat, (e₂ - t).toNat = k := ⟨_, rfl⟩
  have hlog := log2_add hlog₁ hlog₂ hm₁ hm₂ k₁ k₂
  obtain ⟨k, hk, hkmax⟩ : ∃ k : Nat, (m₁ * 2 ^ k₁ + m₂ * 2 ^ k₂).log2 = 52 + k ∧
      (k = max k₁ k₂ ∨ k = max k₁ k₂ + 1) := by
    rcases hlog with hlog | hlog
    · exact ⟨_, hlog, .inl rfl⟩
    · exact ⟨_, by omega, .inr rfl⟩
  have hsum := add_eq hm₁ hm₂ ht hk₁ hk₂ hk (by omega)
  obtain ⟨m, e, hm, hround, hdigits, he, herror⟩ :=
    roundWithAccuracy_near (e := t) .positive hk (by omega) (reads_exact _)
  have hmodel : x + y = .ofModel (.pack (.finite .positive m e hm)) := by
    change Float.ofModel (.pack (UnpackedFloat.add .binary64 x.toModel.unpack y.toModel.unpack)) = _
    rw [hx, hy, hsum, hround]
  refine ⟨m, e, hmodel ▸ pack hm hdigits (by omega) (by omega), by omega, by omega, ?_⟩
  have hexact : ((m₁ * 2 ^ k₁ + m₂ * 2 ^ k₂ : Nat) : ℚ) * 2 ^ t = m₁ * 2 ^ e₁ + m₂ * 2 ^ e₂ := by
    rw [show e₁ = k₁ + t by omega, show e₂ = k₂ + t by omega, zpow_add₀ two_ne_zero,
      zpow_add₀ two_ne_zero, zpow_natCast, zpow_natCast]
    push_cast
    ring
  rwa [hexact] at herror

private theorem div_eq (hlog₁ : m₁.log2 = 52) (hlog₂ : m₂.log2 = 52) (hm₁ : 0 < m₁) (hm₂ : 0 < m₂)
    (hlow : -1021 ≤ e₁ - e₂) :
    UnpackedFloat.div .binary64 (.finite .positive m₁ e₁ hm₁) (.finite .positive m₂ e₂ hm₂) =
      roundWithAccuracy .binary64 .positive (m₁ * 2 ^ 53 / m₂) (e₁ - e₂ - 53)
        (accuracyOfFraction (m₁ * 2 ^ 53 % m₂) m₂) := by
  have htarget : min (e₁ - e₂)
      (Format.binary64.targetExponent (totalExponent m₁ e₁ - totalExponent m₂ e₂)) =
      e₁ - e₂ - 53 := by
    simp only [Format.targetExponent, totalExponent, Format.mantissaBits, Format.minExponent]
    omega
  have hshift : (e₁ - e₂ - (e₁ - e₂ - 53)).toNat = 53 := by omega
  simp only [UnpackedFloat.div, divCore, htarget, hshift, Nat.shiftLeft_eq]
  rfl

/-- A quotient is off by half a unit of the last place at most. -/
theorem div_near (hx : Holds x m₁ e₁) (hy : Holds y m₂ e₂) (hlow : -1021 ≤ e₁ - e₂)
    (hhigh : e₁ - e₂ ≤ 1020) :
    ∃ m e, Holds (x / y) m e ∧ |(m : ℚ) * 2 ^ e - (m₁ * 2 ^ e₁) / (m₂ * 2 ^ e₂)| ≤
      (m₁ * 2 ^ e₁ : ℚ) / (m₂ * 2 ^ e₂) / 2 ^ 53 := by
  obtain ⟨hm₁, hx, hlog₁, -, -⟩ := hx
  obtain ⟨hm₂, hy, hlog₂, -, -⟩ := hy
  obtain ⟨hbelow₁, habove₁⟩ := (Nat.log2_eq_iff hm₁.ne').mp hlog₁
  obtain ⟨hbelow₂, habove₂⟩ := (Nat.log2_eq_iff hm₂.ne').mp hlog₂
  have hquotient : 2 ^ 52 ≤ m₁ * 2 ^ 53 / m₂ ∧ m₁ * 2 ^ 53 / m₂ < 2 ^ 54 := by
    constructor
    · rw [Nat.le_div_iff_mul_le hm₂]
      omega
    · rw [Nat.div_lt_iff_lt_mul hm₂]
      omega
  have hlog : (m₁ * 2 ^ 53 / m₂).log2 = 52 ∨ (m₁ * 2 ^ 53 / m₂).log2 = 53 := by
    have hge : 52 ≤ (m₁ * 2 ^ 53 / m₂).log2 := (Nat.le_log2 (by omega)).mpr hquotient.1
    have hlt : (m₁ * 2 ^ 53 / m₂).log2 < 54 := (Nat.log2_lt (by omega)).mpr hquotient.2
    omega
  obtain ⟨k, hk, hkle⟩ : ∃ k, (m₁ * 2 ^ 53 / m₂).log2 = 52 + k ∧ k ≤ 1 :=
    hlog.elim (fun h => ⟨0, h, by decide⟩) (fun h => ⟨1, h, by decide⟩)
  have hreads := reads_quotient (m₁ * 2 ^ 53) hm₂
  rw [Nat.cast_mul, Nat.cast_pow, Nat.cast_ofNat] at hreads
  obtain ⟨m, e, hm, hround, hdigits, he, herror⟩ :=
    roundWithAccuracy_near (e := e₁ - e₂ - 53) .positive hk (by omega) hreads
  have hmodel : x / y = .ofModel (.pack (.finite .positive m e hm)) := by
    change Float.ofModel (.pack (UnpackedFloat.div .binary64 x.toModel.unpack y.toModel.unpack)) = _
    rw [hx, hy, div_eq hlog₁ hlog₂ hm₁ hm₂ hlow, hround]
  refine ⟨m, e, hmodel ▸ pack hm hdigits (by omega) (by omega), ?_⟩
  have hexact : (m₁ * 2 ^ 53 / m₂ : ℚ) * 2 ^ (e₁ - e₂ - 53) = (m₁ * 2 ^ e₁) / (m₂ * 2 ^ e₂) := by
    rw [zpow_sub₀ two_ne_zero, zpow_sub₀ two_ne_zero]
    field_simp
  rwa [hexact] at herror

theorem mul_two_pow (hx : Holds x m e) (hy : Holds y (2 ^ 52) e₂) (hlow : -1074 ≤ e + e₂ + 52)
    (hhigh : e + e₂ + 52 ≤ 971) : Holds (x * y) m (e + e₂ + 52) := by
  obtain ⟨hm, hx, hlog, -, -⟩ := hx
  obtain ⟨hm₂, hy, -, -, -⟩ := hy
  have hproduct : (x * y).toModel = .pack (.finite .positive m (e + e₂ + 52) hm) := by
    change Float.Model.pack (UnpackedFloat.mul .binary64 x.toModel.unpack y.toModel.unpack) = _
    rw [hx, hy]
    exact congrArg Float.Model.pack (roundWithAccuracy_exact .positive hm hlog hlow)
  have hholds := pack hm hlog hlow hhigh
  rwa [← hproduct] at hholds

end Holds

end Rounding

end ClusterTransport
