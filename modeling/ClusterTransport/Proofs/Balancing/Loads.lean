import ClusterTransport.Balancing
import ClusterTransport.Proofs.Balancing.Rounding

/-!
# Weights of loads

A load stands for a number unless it is infinite or none, and that number is held as it is in double
width. The weight it gets there is within a few units of the last place of the exact one.
-/

namespace ClusterTransport

open Balancing Rounding

namespace LoadFactor

variable {l : LoadFactor}

def infinite : LoadFactor := ⟨0x7F800000⟩

def value (l : LoadFactor) : ℚ :=
  (if l.isNegative then -1 else 1) * l.mantissa * 2 ^ l.exponent

private theorem eq_infinite_iff :
    l = infinite ↔ l.isNaN = false ∧ l.exponentField = 0xFF ∧ l.isNegative = false := by
  constructor
  · rintro rfl
    decide
  · rintro ⟨hnan, hfield, hsign⟩
    rw [isNaN, decide_eq_false_iff_not] at hnan
    rw [isNegative, decide_eq_false_iff_not] at hsign
    rw [exponentField] at hfield
    have hbits : l.bits.toNat = 0x7F800000 := by omega
    exact congrArg LoadFactor.mk (UInt32.toNat_inj.mp hbits)

section Finite

/-- What a finite load is but for its sign, in double width. -/
def scaled (l : LoadFactor) : Float :=
  l.mantissa.toUInt64.toFloat *
    Float.ofBits ((l.exponent + 1023).toNat.toUInt64 * 0x10000000000000)

private theorem toFloat_of_finite (h : l.exponentField ≠ 0xFF) :
    l.toFloat = if l.isNegative then -l.scaled else l.scaled := by
  have hnan : l.isNaN = false := by
    rw [exponentField] at h
    rw [isNaN, decide_eq_false_iff_not]
    omega
  simp [toFloat, scaled, h, hnan]

private theorem mantissa_lt (l : LoadFactor) : l.mantissa < 2 ^ 24 := by
  rw [mantissa]
  split <;> omega

private theorem exponent_bounds (l : LoadFactor) : -149 ≤ l.exponent ∧ l.exponent ≤ 105 := by
  have hlt : l.exponentField < 0x100 := Nat.mod_lt _ (by decide)
  have hexponent : l.exponent = (max l.exponentField 1 : Nat) - 150 := rfl
  omega

private theorem holds_power (l : LoadFactor) :
    Holds (.ofBits ((l.exponent + 1023).toNat.toUInt64 * 0x10000000000000)) (2 ^ 52)
      (l.exponent - 52) := by
  obtain ⟨hlow, hhigh⟩ := l.exponent_bounds
  have hholds := Holds.ofBits (b := (l.exponent + 1023).toNat) (by omega) (by omega)
  rwa [show ((l.exponent + 1023).toNat : Int) - 1075 = l.exponent - 52 by omega] at hholds

private theorem holds_scaled (hpos : 0 < l.mantissa) :
    ∃ m e, Holds l.scaled m e ∧ -201 ≤ e ∧ e ≤ 105 ∧
      (m : ℚ) * 2 ^ e = l.mantissa * 2 ^ l.exponent := by
  obtain ⟨hlow, hhigh⟩ := l.exponent_bounds
  obtain ⟨m, e, hholds, hmin, hmax, hvalue⟩ :=
    Holds.ofNat hpos (l.mantissa_lt.trans (by decide))
  have hscaled := hholds.mul_two_pow l.holds_power (by omega) (by omega)
  refine ⟨m, _, hscaled, by omega, by omega, ?_⟩
  rw [← hvalue, mul_assoc, ← zpow_add₀ two_ne_zero]
  congr 2
  omega

private theorem scaled_of_zero (hzero : l.mantissa = 0) : l.scaled = 0.0 := by
  obtain ⟨y, hy⟩ : ∃ y, y = Float.ofBits ((l.exponent + 1023).toNat.toUInt64 * 0x10000000000000) :=
    ⟨_, rfl⟩
  have hholds : Holds y (2 ^ 52) (l.exponent - 52) := hy ▸ l.holds_power
  rw [scaled, hzero, ← hy]
  change Float.ofModel (.pack (Float.Model.UnpackedFloat.mul .binary64
    ((0 : Nat).toUInt64.toFloat).toModel.unpack y.toModel.unpack)) = 0.0
  rw [hholds.unpack]
  rfl

/-- A finite load is held as it is. -/
theorem number_toFloat (h : l.exponentField ≠ 0xFF) : number l.toFloat = some l.value := by
  rw [toFloat_of_finite h, value]
  rcases Nat.eq_zero_or_pos l.mantissa with hzero | hpos
  · rw [scaled_of_zero hzero, hzero]
    split
    · rw [Nat.cast_zero, mul_zero, zero_mul]
      decide +kernel
    · rw [Nat.cast_zero, mul_zero, zero_mul]
      decide +kernel
  · obtain ⟨m, e, hholds, -, -, hvalue⟩ := holds_scaled hpos
    split
    · rw [hholds.number_neg, hvalue, neg_one_mul, neg_mul]
    · rw [hholds.number_eq, hvalue, one_mul]

end Finite

end LoadFactor

namespace Balancing

variable {l : LoadFactor}

def exactWeight (l : LoadFactor) : ℚ :=
  if l.isNaN then 1
  else if l.exponentField = 0xFF then if l.isNegative then 1 else 0
  else 1 / (1 + max l.value 0)

theorem weight_infinite : weight .infinite = 0.0 := by
  decide +kernel

private theorem reciprocal_near {s t w : ℚ} (hs : 0 < s) (hsum : |t - s| ≤ s / 2 ^ 53)
    (hquotient : |w - 1 / t| ≤ 1 / t / 2 ^ 53) : |w - 1 / s| ≤ 1 / s / 2 ^ 51 := by
  obtain ⟨hbelow, habove⟩ := abs_le.mp hsum
  have hhalf : s / 2 ≤ t := by linarith
  have ht : 0 < t := by linarith
  have htwice : 1 / t ≤ 2 * (1 / s) :=
    (one_div_le_one_div_of_le (half_pos hs) hhalf).trans_eq (by field_simp)
  have hbetween : |1 / t - 1 / s| ≤ 1 / t / 2 ^ 53 := by
    have hdifference : 1 / t - 1 / s = (s - t) / s * (1 / t) := by field_simp
    have hrelative : |t - s| / s ≤ 1 / 2 ^ 53 := by
      rw [div_le_iff₀ hs, div_mul_eq_mul_div, one_mul]
      exact hsum
    rw [hdifference, abs_mul, abs_div, abs_of_pos hs, abs_of_pos (one_div_pos.mpr ht), abs_sub_comm,
      div_eq_mul_one_div (1 / t), mul_comm (1 / t)]
    exact mul_le_mul_of_nonneg_right hrelative (one_div_pos.mpr ht).le
  calc |w - 1 / s| ≤ |w - 1 / t| + |1 / t - 1 / s| := abs_sub_le _ _ _
    _ ≤ 1 / t / 2 ^ 53 + 1 / t / 2 ^ 53 := add_le_add hquotient hbetween
    _ ≤ 1 / s / 2 ^ 51 := by linarith

private theorem one_div_one_add_near {x : Float} {m : Nat} {e : Int} (h : Holds x m e)
    (hlow : -201 ≤ e) (hhigh : e ≤ 105) : ∃ q, number (1.0 / (1.0 + x)) = some q ∧
      |q - 1 / (1 + m * 2 ^ e : ℚ)| ≤ 1 / (1 + m * 2 ^ e : ℚ) / 2 ^ 51 := by
  obtain ⟨m₁, e₁, hsum, hmin, hmax, hclose⟩ := Holds.one.add_near h (by decide) (by omega)
  obtain ⟨m₂, e₂, hquotient, hnear⟩ := Holds.one.div_near hsum (by omega) (by omega)
  have hone : ((2 ^ 52 : Nat) : ℚ) * 2 ^ (-52 : Int) = 1 := by norm_num
  rw [hone] at hclose hnear
  exact ⟨_, hquotient.number_eq, reciprocal_near (by positivity) hclose hnear⟩

private theorem number_weight_of_none (h : l.isNaN = true ∨ l.toFloat < 0.0 ∨ l.toFloat = 0.0 ∨
    l.toFloat = -0.0) : number (weight l) = some 1 := by
  have hplus : number (1.0 / (1.0 + 0.0)) = some 1 := by decide +kernel
  have hminus : number (1.0 / (1.0 + -0.0)) = some 1 := by decide +kernel
  rw [weight]
  split
  next => exact hplus
  next hnan =>
    split
    next => exact hplus
    next hlt =>
      rcases (h.resolve_left hnan).resolve_left hlt with hzero | hzero
      · rw [hzero]
        exact hplus
      · rw [hzero]
        exact hminus

/-- The weight of a load is within two units of the last place of the exact one. -/
theorem weight_near_exactWeight (l : LoadFactor) :
    ∃ q, number (weight l) = some q ∧ |q - exactWeight l| ≤ exactWeight l / 2 ^ 51 := by
  rw [exactWeight]
  split
  next hnan => exact ⟨1, number_weight_of_none (.inl hnan), by norm_num⟩
  next hnan =>
  split
  next hfield =>
    split
    next hsign =>
      have hlt : l.toFloat < 0.0 := by
        simp only [LoadFactor.toFloat, hnan, hfield, hsign, if_true]
        decide +kernel
      exact ⟨1, number_weight_of_none (.inr (.inl hlt)), by norm_num⟩
    next hsign =>
      have hinfinite : l = .infinite := LoadFactor.eq_infinite_iff.mpr
        ⟨eq_false_of_ne_true hnan, hfield, eq_false_of_ne_true hsign⟩
      rw [hinfinite, weight_infinite]
      exact ⟨0, by decide +kernel, by norm_num⟩
  next hfield =>
    have hfloat := LoadFactor.toFloat_of_finite hfield
    rcases Nat.eq_zero_or_pos l.mantissa with hzero | hpos
    · have hvalue : l.value = 0 := by simp [LoadFactor.value, hzero]
      rw [LoadFactor.scaled_of_zero hzero] at hfloat
      refine ⟨1, number_weight_of_none ?_, by rw [hvalue]; norm_num⟩
      split at hfloat
      · exact .inr (.inr (.inr hfloat))
      · exact .inr (.inr (.inl hfloat))
    · obtain ⟨m, e, hholds, hlow, hhigh, hscaled⟩ := LoadFactor.holds_scaled hpos
      have hnonneg : (0 : ℚ) ≤ m * 2 ^ e := by positivity
      rw [LoadFactor.value]
      split at hfloat
      next hsign =>
        rw [if_pos hsign, neg_one_mul, neg_mul, ← hscaled, max_eq_right (neg_nonpos.mpr hnonneg)]
        exact ⟨1, number_weight_of_none (.inr (.inl (hfloat ▸ hholds.neg_lt_zero))), by norm_num⟩
      next hsign =>
        rw [if_neg hsign, one_mul, ← hscaled, max_eq_left hnonneg, weight, if_neg hnan, hfloat,
          if_neg hholds.not_lt_zero]
        exact one_div_one_add_near hholds hlow hhigh

-- the loads 0, 1, 3, -2, the two infinite ones and one that is no number
example : [0, 0x3F800000, 0x40400000, 0xC0000000, 0x7F800000, 0xFF800000, 0x7FC00000].map
      (fun bits => (weight ⟨bits⟩, exactWeight ⟨bits⟩)) =
    [(1.0, 1), (0.5, 1 / 2), (0.25, 1 / 4), (1.0, 1), (0.0, 0), (1.0, 1), (1.0, 1)] := by
  decide +kernel

end Balancing

end ClusterTransport
