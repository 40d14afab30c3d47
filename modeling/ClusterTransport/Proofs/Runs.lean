/-!
# Runs

A system of several actors is a function that makes one move, or refuses it; a run is a list of
moves made one after another. What every move keeps, every run keeps.
-/

namespace ClusterTransport

variable {σ μ α : Type} {move : σ → μ → Option σ}

theorem exists_move_of_foldlM_cons {s t : σ} {m : μ} {ms : List μ}
    (hrun : (m :: ms).foldlM move s = some t) :
    ∃ u, move s m = some u ∧ ms.foldlM move u = some t := by
  rw [List.foldlM_cons] at hrun
  exact Option.bind_eq_some_iff.mp hrun

theorem foldlM_invariant_of_forall (allowed : μ → Prop) (kept : σ → Prop)
    (step : ∀ s m t, allowed m → kept s → move s m = some t → kept t) {s t : σ} {ms : List μ}
    (hall : ∀ m ∈ ms, allowed m) (hs : kept s) (hrun : ms.foldlM move s = some t) : kept t := by
  induction ms generalizing s with
  | nil =>
    have he : s = t := by simpa using hrun
    exact he ▸ hs
  | cons m ms ih =>
    obtain ⟨hm, hms⟩ := List.forall_mem_cons.mp hall
    obtain ⟨u, hu, hrest⟩ := exists_move_of_foldlM_cons hrun
    exact ih hms (step s m u hm hs hu) hrest

/-- A property that every move keeps holds at the end of a run that starts with it. -/
theorem foldlM_invariant (kept : σ → Prop)
    (step : ∀ s m t, kept s → move s m = some t → kept t) {s t : σ} {ms : List μ}
    (hs : kept s) (hrun : ms.foldlM move s = some t) : kept t :=
  foldlM_invariant_of_forall (fun _ => True) kept (fun s m t _ => step s m t)
    (fun _ _ => trivial) hs hrun

/-- Induction on a run, the last move last. -/
theorem foldlM_induction (kept : List μ → σ → Prop) {s : σ} (start : kept [] s)
    (step : ∀ ms u m t, ms.foldlM move s = some u → kept ms u → move u m = some t →
      kept (ms ++ [m]) t) {t : σ} {ms : List μ} (hrun : ms.foldlM move s = some t) :
    kept ms t := by
  suffices hmore : ∀ (later : List μ) (before : List μ) (u : σ), before.foldlM move s = some u →
      kept before u → later.foldlM move u = some t → kept (before ++ later) t from
    hmore ms [] s rfl start hrun
  intro later
  induction later with
  | nil =>
    intro before u _ hu hlater
    have he : u = t := by simpa using hlater
    rw [List.append_nil]
    exact he ▸ hu
  | cons m later ih =>
    intro before u hbefore hu hlater
    obtain ⟨v, hv, hrest⟩ := exists_move_of_foldlM_cons hlater
    have hnext : (before ++ [m]).foldlM move s = some v := by
      rw [List.foldlM_append, hbefore]
      simp [hv]
    have hlast := ih (before ++ [m]) v hnext (step before u m v hbefore hu hv) hrest
    simpa using hlast

theorem foldlM_cons_of_move {s t u : σ} {m : μ} {ms : List μ} (hm : move s m = some u)
    (hms : ms.foldlM move u = some t) : (m :: ms).foldlM move s = some t := by
  rw [List.foldlM_cons, hm]
  exact hms

theorem foldlM_trans {s t u : σ} {ms ns : List μ} (hms : ms.foldlM move s = some t)
    (hns : ns.foldlM move t = some u) : (ms ++ ns).foldlM move s = some u := by
  rw [List.foldlM_append, hms]
  exact hns

theorem foldlM_of_append {s t u : σ} {ms ns : List μ} (hrun : (ms ++ ns).foldlM move s = some t)
    (hms : ms.foldlM move s = some u) : ns.foldlM move u = some t := by
  rw [List.foldlM_append, hms] at hrun
  exact hrun

/-- Replacing one actor changes a count by that actor alone. -/
theorem countP_set_add (p : α → Bool) {l : List α} {i : Nat} {a : α} (b : α)
    (h : l[i]? = some a) :
    (l.set i b).countP p + (p a).toNat = l.countP p + (p b).toNat := by
  induction l generalizing i with
  | nil => simp at h
  | cons c l ih =>
    cases i with
    | zero =>
      have hc : c = a := by simpa using h
      subst hc
      simp only [List.set_cons_zero, List.countP_cons]
      cases p c <;> cases p b <;> simp
    | succ i =>
      have hrest := ih (by simpa using h)
      simp only [List.set_cons_succ, List.countP_cons]
      omega

theorem eq_of_countP_le_one {p : α → Bool} {l : List α} (h : l.countP p ≤ 1) {a b : α}
    (ha : a ∈ l) (hb : b ∈ l) (hpa : p a = true) (hpb : p b = true) : a = b := by
  obtain ⟨before, after, rfl⟩ := List.append_of_mem ha
  simp only [List.countP_append, List.countP_cons, hpa, if_true] at h
  have hbefore : before.countP p = 0 := by omega
  have hafter : after.countP p = 0 := by omega
  rcases List.mem_append.mp hb with hb | hb
  · exact absurd hpb (List.countP_eq_zero.mp hbefore b hb)
  · rcases List.mem_cons.mp hb with rfl | hb
    · rfl
    · exact absurd hpb (List.countP_eq_zero.mp hafter b hb)

theorem mem_set_or_eq {l : List α} {i : Nat} {a b c : α} (h : l[i]? = some a) (hc : c ∈ l) :
    c ∈ l.set i b ∨ c = a := by
  obtain ⟨j, hj⟩ := List.mem_iff_getElem?.mp hc
  by_cases hij : i = j
  · subst hij
    exact Or.inr (Option.some.inj (hj.symm.trans h))
  · refine Or.inl (List.mem_iff_getElem?.mpr ⟨j, ?_⟩)
    rw [List.getElem?_set_ne hij]
    exact hj

theorem getElem?_set_or {l : List α} {j : Nat} {a : α} (b : α) (h : l[j]? = some a) (i : Nat) :
    (l.set j b)[i]? = l[i]? ∨ (j = i ∧ (l.set j b)[i]? = some b) := by
  by_cases hji : j = i
  · subst hji
    exact Or.inr ⟨rfl, List.getElem?_set_self (List.getElem?_eq_some_iff.mp h).1⟩
  · exact Or.inl (List.getElem?_set_ne hji)

theorem forall_mem_set {p : α → Prop} {l : List α} {i : Nat} {b : α} (hl : ∀ a ∈ l, p a)
    (hb : p b) : ∀ a ∈ l.set i b, p a := by
  intro a ha
  rcases List.mem_or_eq_of_mem_set ha with hold | hnew
  · exact hl a hold
  · exact hnew ▸ hb

end ClusterTransport
