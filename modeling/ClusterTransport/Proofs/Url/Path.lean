import ClusterTransport.Proofs.Url.Reading

/-!
# Paths of URLs

A path is its segments, percent-encoded one by one. Segments of one dot or two are resolved: behind
others that are not, one that ends a path leaves an empty segment.
-/

namespace ClusterTransport.Url

open Text

private theorem eq_of_lowerAscii_eq {c d : Char} (h : lowerAscii c = d) (hd : d.toNat < 97) :
    c = d := by
  unfold lowerAscii at h
  split at h
  next hupper =>
    have hrange : 65 ≤ c.toNat ∧ c.toNat ≤ 90 := hupper
    have hvalue : (Char.ofNat (c.toNat + 32)).toNat = c.toNat + 32 := by
      rw [Char.ofNat, dif_pos (Or.inl (by omega))]
      rfl
    rw [← h, hvalue] at hd
    omega
  next => exact h

private theorem eq_of_map_lowerAscii_eq {s t : List Char} (h : s.map lowerAscii = t)
    (ht : ∀ d ∈ t, d.toNat < 97) : s = t := by
  induction s generalizing t with
  | nil => exact h
  | cons c s ih =>
    cases t with
    | nil => cases h
    | cons d t =>
      rw [List.map_cons, List.cons.injEq] at h
      rw [List.forall_mem_cons] at ht
      rw [eq_of_lowerAscii_eq h.1 ht.1, ih h.2 ht.2]

private theorem eq_toList_of_contains {segment : List Char} {first : String} {others : List String}
    (h : '%' ∉ segment) (hfirst : ∀ c ∈ first.toList, c.toNat < 97)
    (hothers : ∀ other ∈ others, '%' ∈ other.toList)
    (hmem : (first :: others).contains (String.ofList (segment.map lowerAscii)) = true) :
    segment = first.toList := by
  rcases List.mem_cons.mp (List.contains_iff_mem.mp hmem) with heq | hother
  · rw [← heq, String.toList_ofList] at hfirst ⊢
    exact eq_of_map_lowerAscii_eq rfl hfirst
  · have hpercent := hothers _ hother
    rw [String.toList_ofList] at hpercent
    obtain ⟨c, hc, hlower⟩ := List.mem_map.mp hpercent
    exact absurd (eq_of_lowerAscii_eq hlower (by decide) ▸ hc) h

private theorem isDoubleDot_iff {segment : List Char} (h : '%' ∉ segment) :
    isDoubleDot segment = true ↔ segment = ['.', '.'] :=
  ⟨eq_toList_of_contains h (List.all_iff_forall_prop.mp (by decide)) (by decide),
    by rintro rfl; decide⟩

private theorem isSingleDot_iff {segment : List Char} (h : '%' ∉ segment) :
    isSingleDot segment = true ↔ segment = ['.'] :=
  ⟨eq_toList_of_contains h (List.all_iff_forall_prop.mp (by decide)) (by decide),
    by rintro rfl; decide⟩

def isOrdinary (segment : List Char) : Bool :=
  !isDoubleDot segment && !isSingleDot segment

theorem isOrdinary_iff {segment : List Char} (h : '%' ∉ segment) :
    isOrdinary segment = true ↔ segment ≠ ['.'] ∧ segment ≠ ['.', '.'] := by
  rw [isOrdinary, Bool.and_eq_true, Bool.not_eq_true', Bool.not_eq_true', ← Bool.not_eq_true,
    ← Bool.not_eq_true, isDoubleDot_iff h, isSingleDot_iff h]
  exact And.comm

/-- The path of some segments: a slash in front of each. -/
def pathOf (segments : List (List Char)) : List Char :=
  segments.flatMap ('/' :: ·)

theorem resolveDots_append {xs : List (List Char)} (done ys : List (List Char))
    (h : ∀ g ∈ xs, isOrdinary g = true) :
    resolveDots done (xs ++ ys) = resolveDots (xs.reverse ++ done) ys := by
  induction xs generalizing done with
  | nil => rfl
  | cons g xs ih =>
    rw [List.forall_mem_cons, isOrdinary, Bool.and_eq_true, Bool.not_eq_true',
      Bool.not_eq_true'] at h
    rw [List.cons_append, resolveDots, if_neg (by simp [h.1.1]), if_neg (by simp [h.1.2]), ih _ h.2,
      List.reverse_cons, List.append_assoc, List.singleton_append]

theorem resolveDots_of_ordinary {segments : List (List Char)}
    (h : ∀ g ∈ segments, isOrdinary g = true) : resolveDots [] segments = segments := by
  have happend := resolveDots_append [] [] h
  rwa [List.append_nil, List.append_nil, resolveDots, List.reverse_reverse] at happend

/-- A last segment of dots leaves an empty one. -/
theorem exists_resolveDots_eq (done : List (List Char)) {last : List Char}
    (h : isOrdinary last = false) : ∃ rest, resolveDots done [last] = rest ++ [[]] := by
  rw [resolveDots]
  split
  next => exact ⟨(leaveSegment done).reverse, List.reverse_cons⟩
  next hdouble =>
    split
    next => exact ⟨done.reverse, List.reverse_cons⟩
    next hsingle => simp [isOrdinary, hdouble, hsingle] at h

theorem encode_pathOf (segments : List (List Char)) :
    Percent.encode Percent.reservedInPath (pathOf segments) =
      pathOf (segments.map (Percent.encode Percent.reservedInPath)) := by
  induction segments with
  | nil => rfl
  | cons g segments ih =>
    rw [pathOf, List.flatMap_cons, Percent.encode, List.flatMap_append, List.map_cons, pathOf,
      List.flatMap_cons]
    exact congrArg (_ ++ ·) ih

theorem readPath_pathOf {segments : List (List Char)} (hne : segments ≠ [])
    (h : ∀ g ∈ segments, '/' ∉ g) :
    readPath (pathOf segments) =
      String.ofList (Percent.encode Percent.reservedInPath (pathOf (resolveDots [] segments))) := by
  cases segments with
  | nil => exact absurd rfl hne
  | cons g segments =>
    rw [List.forall_mem_cons] at h
    rw [encode_pathOf, pathOf, pathOf, List.flatMap_cons, List.cons_append, readPath,
      splitAll_append_flatMap h.1 h.2, List.flatMap_map]

end ClusterTransport.Url
