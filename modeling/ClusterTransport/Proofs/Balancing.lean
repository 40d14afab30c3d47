import ClusterTransport.Balancing

/-!
# Picks

A draw from candidates gives one of those that are eligible, whatever words are drawn; and every
eligible candidate is drawn by some words if the draw is uniform.
-/

namespace ClusterTransport

namespace Balancing

theorem drawSpan_pos (k : Nat) : 0 < drawSpan k := by
  unfold drawSpan
  split <;> omega

theorem le_drawSpan {k : Nat} (h : k ≤ UInt64.size) : k ≤ drawSpan k := by
  unfold UInt64.size at h
  unfold drawSpan
  split <;> omega

private theorem drawSpan_le (k : Nat) : drawSpan k ≤ UInt64.size := by
  unfold drawSpan UInt64.size
  split <;> omega

theorem uniformHigh_lt {span k part : Nat} (hk : 0 < k) (hpart : part < span) :
    uniformHigh span k part < k ∧
      (needsCorrection span k part = true → uniformHigh span k part + 1 < k) := by
  have hspan : 0 < span := by omega
  have hsplit := Nat.div_add_mod (part * k) span
  have htop : part * k + k ≤ span * k := by
    have := Nat.mul_le_mul_right k (Nat.succ_le_of_lt hpart)
    rwa [Nat.succ_mul] at this
  have hlt : uniformHigh span k part < k := by
    rw [uniformHigh, Nat.div_lt_iff_lt_mul hspan, Nat.mul_comm k]
    omega
  refine ⟨hlt, ?_⟩
  intro hneeds
  have hlow : span - k < part * k % span := by simpa [needsCorrection] using hneeds
  refine Nat.lt_of_not_le fun hlast => ?_
  have hhigh : part * k / span = k - 1 := by
    unfold uniformHigh at hlt hlast
    omega
  have hprod : span * (k - 1) + span = span * k := by
    rw [← Nat.mul_succ, Nat.succ_eq_add_one, Nat.sub_add_cancel hk]
  rw [hhigh] at hsplit
  omega

theorem uniformIndex_lt {k : Nat} (hk : 0 < k) (w : Words) : (uniformIndex k w).1 < k := by
  have hpart : (w.drawBelow (drawSpan k)).1 < drawSpan k := Nat.mod_lt _ (drawSpan_pos k)
  obtain ⟨hlt, hcorrected⟩ := uniformHigh_lt hk hpart
  simp only [uniformIndex]
  split
  next hneeds =>
    have hroom := hcorrected hneeds
    unfold correction
    split <;> omega
  next => exact hlt

def Words.startingWith (n : Nat) : Words :=
  { next := fun i => if i = 0 then UInt64.ofNat n else 0 }

private theorem drawBelow_startingWith {n span : Nat} (hn : n < span) (hspan : span ≤ UInt64.size) :
    (Words.startingWith n).drawBelow span =
      (n, { Words.startingWith n with drawn := 1 }) := by
  have hword : (UInt64.ofNat n).toNat = n := by
    rw [UInt64.toNat_ofNat']
    exact Nat.mod_eq_of_lt (Nat.lt_of_lt_of_le hn hspan)
  simp [Words.drawBelow, Words.draw, Words.startingWith, hword, Nat.mod_eq_of_lt hn]

private theorem exists_part {k : Nat} (hk : 0 < k) (j span : Nat) :
    ∃ part, j * span ≤ part * k ∧ part * k < j * span + k := by
  refine ⟨(j * span + k - 1) / k, ?_, ?_⟩
  · have := Nat.div_add_mod (j * span + k - 1) k
    have := Nat.mod_lt (j * span + k - 1) hk
    rw [Nat.mul_comm _ k]
    omega
  · have := Nat.div_mul_le_self (j * span + k - 1) k
    omega

private theorem uniformHigh_eq_and_lt {span k j part : Nat} (hj : j < k) (hspan : k ≤ span)
    (hlow : j * span ≤ part * k) (hhigh : part * k < j * span + k) :
    uniformHigh span k part = j ∧ part < span := by
  refine ⟨?_, ?_⟩
  · refine Nat.div_eq_of_lt_le hlow ?_
    rw [Nat.succ_mul]
    omega
  · have hjk : (j + 1) * span ≤ k * span := Nat.mul_le_mul_right span hj
    rw [Nat.succ_mul] at hjk
    have hlt : part * k < span * k := by
      rw [Nat.mul_comm span]
      omega
    exact Nat.lt_of_mul_lt_mul_right hlt

private theorem correction_zero {span : Nat} (hspan : 0 < span) (k part : Nat) :
    correction span k part 0 = 0 := by
  have hlow := Nat.mod_lt (part * k) hspan
  simp only [correction, Nat.zero_mul, Nat.zero_div, Nat.add_zero]
  exact if_neg (by omega)

/-- Every index is drawn by some words: the least part that stands for it, and then no
correction. -/
theorem exists_uniformIndex {k j : Nat} (hj : j < k) (hk : k ≤ UInt64.size) :
    ∃ w, (uniformIndex k w).1 = j := by
  obtain ⟨part, hlow, hhigh⟩ := exists_part (by omega : 0 < k) j (drawSpan k)
  obtain ⟨hindex, hpart⟩ := uniformHigh_eq_and_lt hj (le_drawSpan hk) hlow hhigh
  have hfirst := drawBelow_startingWith hpart (drawSpan_le k)
  refine ⟨Words.startingWith part, ?_⟩
  simp only [uniformIndex, hfirst]
  split
  next =>
    have hsecond : ({ Words.startingWith part with drawn := 1 } : Words).drawBelow (drawSpan k) =
        (0, { Words.startingWith part with drawn := 2 }) := by
      simp [Words.drawBelow, Words.draw, Words.startingWith]
    rw [hsecond, correction_zero (drawSpan_pos k), hindex]
    rfl
  next => exact hindex

variable {α : Type} {items : List α}

theorem uniformPick_eq (h : items ≠ []) (w : Words) :
    (uniformPick items w).1 = items[(uniformIndex items.length w).1]? := by
  have hempty : items.isEmpty = false := by simpa using h
  simp [uniformPick, hempty]

private theorem exists_mem_uniformPick (h : items ≠ []) (w : Words) :
    ∃ a ∈ items, (uniformPick items w).1 = some a := by
  have hlt := uniformIndex_lt (List.length_pos_iff.mpr h) w
  exact ⟨_, List.getElem_mem hlt, by rw [uniformPick_eq h, List.getElem?_eq_getElem hlt]⟩

theorem exists_uniformPick {a : α} (ha : a ∈ items) (hsize : items.length ≤ UInt64.size) :
    ∃ w, (uniformPick items w).1 = some a := by
  obtain ⟨j, hj⟩ := List.mem_iff_getElem?.mp ha
  obtain ⟨hlt, _⟩ := List.getElem?_eq_some_iff.mp hj
  obtain ⟨w, hw⟩ := exists_uniformIndex hlt hsize
  exact ⟨w, by rw [uniformPick_eq (List.ne_nil_of_mem ha), hw, hj]⟩

section Weighted

variable {β : Type} [Add β]

private theorem length_properPartialSums (total : β) (weights : List β) :
    (properPartialSums total weights).length = weights.length - 1 := by
  induction weights generalizing total with
  | nil => rfl
  | cons w weights ih =>
    cases weights with
    | nil => rfl
    | cons v weights =>
      have hrest := ih (total + w)
      simp only [properPartialSums, List.length_cons] at hrest ⊢
      omega

theorem weightedIndex_lt (exceeds : β → β → Bool) (zero x : β) {weights : List β}
    (h : weights ≠ []) : weightedIndex exceeds zero x weights < weights.length := by
  have hpos := List.length_pos_iff.mpr h
  have hcount : weightedIndex exceeds zero x weights ≤ (properPartialSums zero weights).length :=
    List.countP_le_length
  rw [length_properPartialSums] at hcount
  omega

end Weighted

private theorem weightedPick_cases (weightOf : α → Float) (h : items ≠ []) (w : Words) :
    weightedPick weightOf items w = (none, w) ∨
      ∃ a ∈ items, (weightedPick weightOf items w).1 = some a := by
  simp only [weightedPick]
  split
  next => exact Or.inl rfl
  next =>
    have hweights : items.map weightOf ≠ [] := by simpa using h
    have hlt := weightedIndex_lt (fun sum x => decide (x < sum)) 0.0
      (unitPoint w.draw.1 * (items.map weightOf).foldl (· + ·) 0.0) hweights
    rw [List.length_map] at hlt
    exact Or.inr ⟨_, List.getElem_mem hlt, List.getElem?_eq_getElem hlt⟩

end Balancing

namespace BalancingSettings

open Balancing

variable {s : BalancingSettings} {selfLocation : String} {candidates : List Endpoint} {e : Endpoint}

/-- One policy prefers a location: the one that is set, or else that of the discovery server. The
endpoint is there if its location is the same but for the case of ASCII letters. -/
def IsLocal (s : BalancingSettings) (selfLocation : String) (e : Endpoint) : Prop :=
  let target := s.preferableLocation.getD selfLocation
  s.policy = .usePreferableLocation ∧ target ≠ "" ∧
    e.location.toList.map Char.toLower = target.toList.map Char.toLower

theorem targetLocation_eq (s : BalancingSettings) (selfLocation : String) :
    s.targetLocation selfLocation =
      if s.policy = .usePreferableLocation ∧ s.preferableLocation.getD selfLocation ≠ "" then
        some (s.preferableLocation.getD selfLocation)
      else none := by
  rw [targetLocation]
  split
  next hpolicy => simp [hpolicy]
  next hpolicy => simp [hpolicy]

private theorem mem_localTo : e ∈ s.localTo selfLocation candidates ↔
    e ∈ candidates ∧ s.IsLocal selfLocation e := by
  rw [localTo, targetLocation_eq]
  by_cases hpreferred : s.policy = .usePreferableLocation ∧
      s.preferableLocation.getD selfLocation ≠ ""
  · rw [if_pos hpreferred]
    simp [IsLocal, hpreferred, sameLocation]
  · rw [if_neg hpreferred]
    simp only [List.not_mem_nil, false_iff, not_and]
    rintro - ⟨hpolicy, htarget, -⟩
    exact hpreferred ⟨hpolicy, htarget⟩

theorem mem_eligible : e ∈ s.eligible selfLocation candidates ↔
    e ∈ candidates ∧ (s.IsLocal selfLocation e ∨
      ∀ q ∈ candidates, ¬ s.IsLocal selfLocation q) := by
  simp only [eligible]
  split
  next hnone =>
    have hnone : ∀ q ∈ candidates, ¬ s.IsLocal selfLocation q := by
      intro q hq hlocal
      have hmem := mem_localTo.mpr ⟨hq, hlocal⟩
      rw [List.isEmpty_iff.mp hnone] at hmem
      cases hmem
    exact ⟨fun he => ⟨he, Or.inr hnone⟩, And.left⟩
  next hsome =>
    rw [mem_localTo]
    refine and_congr_right fun _ => ⟨Or.inl, ?_⟩
    rintro (hlocal | hnone)
    · exact hlocal
    · obtain ⟨q, hq⟩ := List.exists_mem_of_ne_nil _ (by simpa using hsome)
      obtain ⟨hcandidate, hlocal⟩ := mem_localTo.mp hq
      exact absurd hlocal (hnone q hcandidate)

private theorem eligible_ne_nil (s : BalancingSettings) (selfLocation : String)
    (h : candidates ≠ []) :
    s.eligible selfLocation candidates ≠ [] := by
  simp only [eligible]
  split
  next => exact h
  next hsome => simpa using hsome

private theorem length_eligible_le :
    (s.eligible selfLocation candidates).length ≤ candidates.length := by
  simp only [eligible]
  split
  next => exact Nat.le_refl _
  next =>
    unfold localTo
    split
    next => simp
    next => exact List.length_filter_le _ _

theorem exists_mem_choose (s : BalancingSettings) (selfLocation : String) (h : candidates ≠ [])
    (w : Words) :
    ∃ e ∈ s.eligible selfLocation candidates,
      (s.choose candidates selfLocation w).1 = some e := by
  have hpool := s.eligible_ne_nil selfLocation h
  simp only [choose]
  split
  next => exact exists_mem_uniformPick hpool w
  next =>
    rcases weightedPick_cases (fun e => weight e.loadFactor) hpool w with hnone | ⟨e, he, hpick⟩
    · rw [hnone]
      exact exists_mem_uniformPick hpool w
    · refine ⟨e, he, ?_⟩
      split
      next q w' hq => exact (congrArg Prod.fst hq).symm.trans hpick
      next w' hq => cases (congrArg Prod.fst hq).symm.trans hpick

theorem exists_choose_of_uniform (h : s.weighting = .uniform)
    (he : e ∈ s.eligible selfLocation candidates) (hsize : candidates.length ≤ UInt64.size) :
    ∃ w, (s.choose candidates selfLocation w).1 = some e := by
  obtain ⟨w, hw⟩ := exists_uniformPick he (Nat.le_trans length_eligible_le hsize)
  refine ⟨w, ?_⟩
  simp only [choose, h]
  exact hw

end BalancingSettings

end ClusterTransport
