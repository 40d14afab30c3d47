import ClusterTransport.Proofs.Balancing

/-!
# Choices

What may be chosen of the candidates, said by policy and location. A uniform choice takes two words
as the digits of a fraction, and the element that stands at this fraction of the list.
-/

namespace ClusterTransport

namespace Balancing

/-- The part of a word to come that a draw below `span` takes. -/
def Words.part (w : Words) (span i : Nat) : Nat :=
  (w.next (w.drawn + i)).toNat % span

private theorem joined_div {span : Nat} (hspan : 0 < span) (k a b : Nat) :
    (a * span + b) * k / (span * span) =
      a * k / span + (a * k % span + b * k / span) / span := by
  have hsplit := Nat.div_add_mod (a * k) span
  have hjoined : (a * span + b) * k = b * k + span * (a * k) := by
    rw [Nat.add_mul, Nat.add_comm, Nat.mul_right_comm, Nat.mul_comm span]
  have hdigits : b * k / span + a * k =
      (a * k % span + b * k / span) + span * (a * k / span) := by omega
  rw [hjoined, ← Nat.div_div_eq_div_mul, Nat.add_mul_div_left _ _ hspan, hdigits,
    Nat.add_mul_div_left _ _ hspan, Nat.add_comm]

private theorem carry_eq {span x : Nat} (hx : x < span + span) :
    x / span = if span ≤ x then 1 else 0 := by
  split
  next hle => exact Nat.div_eq_of_lt_le (by omega) (by omega)
  next hlt => exact Nat.div_eq_of_lt (by omega)

private theorem carry_of_parts {span k a b : Nat} (hk : 0 < k) (hle : k ≤ span) (hb : b < span) :
    (a * k % span + b * k / span) / span =
      if needsCorrection span k a then correction span k a b else 0 := by
  have hspan : 0 < span := by omega
  have hlow := Nat.mod_lt (a * k) hspan
  have hhigh : b * k / span < k := (uniformHigh_lt hk hb).1
  cases hneeds : needsCorrection span k a with
  | true => exact carry_eq (by omega)
  | false =>
    have hsmall : a * k % span ≤ span - k := by simpa [needsCorrection] using hneeds
    exact Nat.div_eq_of_lt (by omega)

private theorem uniformPick_eq_getElem? {α : Type} (items : List α) (w : Words) :
    (uniformPick items w).1 = items[(uniformIndex items.length w).1]? := by
  cases items with
  | nil => rfl
  | cons a items => exact uniformPick_eq (List.cons_ne_nil a items) w

private theorem weightedPick_nil {α : Type} (weightOf : α → Float) (w : Words) :
    (weightedPick weightOf [] w).1 = none := by
  simp only [weightedPick]
  split <;> rfl

/-- The second word is drawn only where it decides, so the index is as if it were always drawn. -/
theorem uniformIndex_eq {k : Nat} (hk : 0 < k) (hsize : k ≤ UInt64.size) (w : Words) :
    (uniformIndex k w).1 = (w.part (drawSpan k) 0 * drawSpan k + w.part (drawSpan k) 1) * k /
      (drawSpan k * drawSpan k) := by
  have hspan := drawSpan_pos k
  have hsecond : w.part (drawSpan k) 1 < drawSpan k := Nat.mod_lt _ hspan
  rw [joined_div hspan, carry_of_parts hk (le_drawSpan hsize) hsecond]
  have hfirst : (w.drawBelow (drawSpan k)).1 = w.part (drawSpan k) 0 := rfl
  have hnext : ((w.drawBelow (drawSpan k)).2.drawBelow (drawSpan k)).1 = w.part (drawSpan k) 1 :=
    rfl
  simp only [uniformIndex, hfirst, hnext, uniformHigh]
  split <;> rfl

end Balancing

namespace BalancingSettings

open Balancing

variable {s : BalancingSettings} {selfLocation : String} {candidates : List Endpoint}

private theorem eligible_eq (s : BalancingSettings) (selfLocation : String)
    (candidates : List Endpoint) :
    s.eligible selfLocation candidates =
      let target := s.preferableLocation.getD selfLocation
      let here := candidates.filter fun e => sameLocation e.location target
      if s.policy = .usePreferableLocation ∧ target ≠ "" ∧ here ≠ [] then here
      else candidates := by
  simp only [eligible, localTo, targetLocation_eq, List.isEmpty_iff]
  by_cases hlocated : s.policy = .usePreferableLocation ∧
      s.preferableLocation.getD selfLocation ≠ ""
  · obtain ⟨hpolicy, htarget⟩ := hlocated
    simp only [hpolicy, htarget, ne_eq, not_false_eq_true, and_self, if_true, true_and, ite_not]
  · rw [if_neg hlocated, if_pos rfl, if_neg]
    rintro ⟨hpolicy, htarget, -⟩
    exact hlocated ⟨hpolicy, htarget⟩

private theorem choose_nil (s : BalancingSettings) (selfLocation : String) (w : Words) :
    (s.choose [] selfLocation w).1 = none := by
  have hpool : s.eligible selfLocation [] = [] := by simp [eligible_eq]
  simp only [choose, hpool]
  split
  next => rfl
  next =>
    have hnone := weightedPick_nil (fun e : Endpoint => weight e.loadFactor) w
    split
    next e w' hpick => cases (congrArg Prod.fst hpick).symm.trans hnone
    next => rfl

private theorem choose_eq_none_iff (w : Words) :
    (s.choose candidates selfLocation w).1 = none ↔ candidates = [] := by
  constructor
  · intro hnone
    refine Decidable.byContradiction fun hcandidates => ?_
    obtain ⟨e, -, hsome⟩ := s.exists_mem_choose selfLocation hcandidates w
    cases hnone.symm.trans hsome
  · rintro rfl
    exact s.choose_nil selfLocation w

private theorem mem_eligible_of_choose {w : Words} {e : Endpoint}
    (h : (s.choose candidates selfLocation w).1 = some e) :
    e ∈ s.eligible selfLocation candidates := by
  have hcandidates : candidates ≠ [] := by
    rintro rfl
    cases (s.choose_nil selfLocation w).symm.trans h
  obtain ⟨r, hr, hsome⟩ := s.exists_mem_choose selfLocation hcandidates w
  cases h.symm.trans hsome
  exact hr

private theorem choose_of_uniform (h : s.weighting = .uniform) (w : Words) :
    (s.choose candidates selfLocation w).1 =
      (s.eligible selfLocation candidates)[
        (uniformIndex (s.eligible selfLocation candidates).length w).1]? := by
  simp only [choose, h]
  exact uniformPick_eq_getElem? _ w

/-- Nothing is chosen only if there is no candidate. Else an eligible one is chosen: one at the
preferred location if the policy asks for that and any is there. A uniform choice takes the index
that the parts of two words stand for, the first before the second: it is in range for all words,
and every eligible candidate has words for it if the eligible ones can be counted in a word. -/
theorem choose_among_eligible (s : BalancingSettings) (candidates : List Endpoint)
    (selfLocation : String) :
    let target := s.preferableLocation.getD selfLocation
    let here := candidates.filter fun e => sameLocation e.location target
    let eligible :=
      if s.policy = .usePreferableLocation ∧ target ≠ "" ∧ here ≠ [] then here else candidates
    (∀ w, (s.choose candidates selfLocation w).1 = none ↔ candidates = []) ∧
    (∀ w e, (s.choose candidates selfLocation w).1 = some e → e ∈ eligible) ∧
    (∀ k w, 0 < k → k < UInt32.size → (uniformIndex k w).1 < k ∧ (uniformIndex k w).1 =
      (w.part UInt32.size 0 * UInt32.size + w.part UInt32.size 1) * k / UInt64.size) ∧
    (s.weighting = .uniform →
      (∀ w, (s.choose candidates selfLocation w).1 =
        eligible[(uniformIndex eligible.length w).1]?) ∧
      (eligible.length ≤ UInt64.size →
        ∀ e ∈ eligible, ∃ w, (s.choose candidates selfLocation w).1 = some e)) := by
  intro target here eligible
  have heligible : s.eligible selfLocation candidates = eligible :=
    s.eligible_eq selfLocation candidates
  refine ⟨fun w => choose_eq_none_iff w, ?_, ?_, ?_⟩
  · intro w e h
    exact heligible ▸ mem_eligible_of_choose h
  · intro k w hk hlimit
    have hspan : drawSpan k = UInt32.size := if_pos hlimit
    have hsize : k ≤ UInt64.size := Nat.le_trans (Nat.le_of_lt hlimit) (by decide)
    have hindex := uniformIndex_eq hk hsize w
    rw [hspan] at hindex
    exact ⟨uniformIndex_lt hk w, hindex⟩
  · intro huniform
    refine ⟨?_, ?_⟩
    · intro w
      rw [choose_of_uniform huniform, heligible]
    · intro hsize e he
      obtain ⟨w, hw⟩ := exists_uniformPick he hsize
      refine ⟨w, ?_⟩
      rw [choose_of_uniform huniform, heligible, ← uniformPick_eq_getElem?]
      exact hw

/-- Two of three candidates are at the location that is set, written in other letters: the other one
is not chosen, and both of the two are. -/
theorem choose_among_eligible_of_location :
    let a : Endpoint := { host := "a", port := 1, location := "sas" }
    let b : Endpoint := { host := "b", port := 1, location := "vla" }
    let c : Endpoint := { host := "c", port := 1, location := "VLA" }
    let s : BalancingSettings := { preferableLocation := some "Vla" }
    (0 < 3 ∧ 3 < UInt32.size ∧ ∀ w, (uniformIndex 3 w).1 < 3) ∧
      s.weighting = .uniform ∧ (∀ w e, (s.choose [a, b, c] "sas" w).1 = some e → e ∈ [b, c]) ∧
      [b, c].length ≤ UInt64.size ∧ ∀ e ∈ [b, c], ∃ w, (s.choose [a, b, c] "sas" w).1 = some e := by
  intro a b c s
  have hlist : (if s.policy = .usePreferableLocation ∧ s.preferableLocation.getD "sas" ≠ "" ∧
      [a, b, c].filter (fun e => sameLocation e.location (s.preferableLocation.getD "sas")) ≠ []
      then [a, b, c].filter fun e => sameLocation e.location (s.preferableLocation.getD "sas")
      else [a, b, c]) = [b, c] := by decide +kernel
  obtain ⟨-, heligible, hindex, huniform⟩ := choose_among_eligible s [a, b, c] "sas"
  rw [hlist] at heligible huniform
  exact ⟨⟨by decide, by decide, fun w => (hindex 3 w (by decide) (by decide)).1⟩, rfl, heligible,
    by decide, (huniform rfl).2 (by decide)⟩

end BalancingSettings

end ClusterTransport
