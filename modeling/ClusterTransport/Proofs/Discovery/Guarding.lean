import ClusterTransport.Proofs.Discovery.Steps
import ClusterTransport.Proofs.Runs

/-!
# The lock of a discovery task

Loops and stops take turns at one lock. A loop looks whether the task is stopped only when it holds
the lock, and a stop marks the task only when it does, so no result is with the handler once a stop
has marked the task.
-/

namespace ClusterTransport.DiscoveryTask

/-- What holds of a task and the stops of it at every moment. -/
structure Guarded (t : DiscoveryTask) (stops : List Stopping) : Prop where
  /-- Whoever holds the lock is alone with it. -/
  lock : t.loops.countP Round.holdsLock + stops.countP Stopping.holdsLock = t.isLocked.toNat
  handing : t.isStopped = true → ∀ r ∈ t.loops, r.isHanding = false
  marked : ∀ o ∈ stops, o.hasMarked = true → t.isStopped = true

variable {t u : DiscoveryTask} {stops : List Stopping}

theorem guarded_new (settings : DiscoverySettings) (timers : Timers) :
    Guarded { settings, timers } [] where
  lock := rfl
  handing := by simp
  marked := by simp

private theorem isLocked_of_pos {n : Nat} (h : n = t.isLocked.toNat) (hpos : 0 < n) :
    t.isLocked = true := by
  cases hlocked : t.isLocked with
  | true => rfl
  | false =>
    rw [hlocked, Bool.toNat_false] at h
    omega

private theorem Guarded.isLocked_of_loop (h : t.Guarded stops) {r : Round} (hr : r ∈ t.loops)
    (hlock : r.holdsLock = true) : t.isLocked = true := by
  have hpos : 0 < t.loops.countP Round.holdsLock := List.countP_pos_iff.mpr ⟨r, hr, hlock⟩
  exact isLocked_of_pos h.lock (Nat.add_pos_left hpos _)

private theorem Guarded.isLocked_of_stop (h : t.Guarded stops) {o : Stopping} (ho : o ∈ stops)
    (hlock : o.holdsLock = true) : t.isLocked = true := by
  have hpos : 0 < stops.countP Stopping.holdsLock := List.countP_pos_iff.mpr ⟨o, ho, hlock⟩
  exact isLocked_of_pos h.lock (Nat.add_pos_right _ hpos)

theorem Guarded.stepLoop (h : t.Guarded stops) {v : RoundView} {i : Nat}
    {action : Option RoundAction} (hstep : t.stepLoop v i = some (u, action)) :
    u.Guarded stops := by
  obtain ⟨before, w, after, hbefore, hshift, rfl⟩ := stepLoop_cases hstep
  refine ⟨?_, ?_, ?_⟩
  · have hcount := countP_set_add Round.holdsLock after hbefore
    have hlock := hshift.lock (h.isLocked_of_loop (List.mem_of_getElem? hbefore))
    have htotal := h.lock
    dsimp only
    omega
  · intro hstopped
    have hwas : t.isStopped = true := hshift.isStopped_eq.symm.trans hstopped
    refine forall_mem_set (h.handing hwas) ?_
    cases hhanding : after.isHanding with
    | false => rfl
    | true => cases hwas.symm.trans (hshift.isStopped_of_isHanding hhanding)
  · intro o ho hmarked
    exact hshift.isStopped_eq.trans (h.marked o ho hmarked)

private theorem Guarded.holdsLock_eq_false (h : t.Guarded stops) {o : Stopping} (ho : o ∈ stops)
    (hlock : o.holdsLock = true) {r : Round} (hr : r ∈ t.loops) : r.holdsLock = false := by
  have hpos : 0 < stops.countP Stopping.holdsLock := List.countP_pos_iff.mpr ⟨o, ho, hlock⟩
  have hle : t.isLocked.toNat ≤ 1 := Bool.toNat_le t.isLocked
  have htotal := h.lock
  have hnone : t.loops.countP Round.holdsLock = 0 := by omega
  exact Bool.eq_false_iff.mpr (List.countP_eq_zero.mp hnone r hr)

theorem Guarded.stepStop (h : t.Guarded stops) {j : Nat} {o next : Stopping}
    (ho : stops[j]? = some o) (hstep : o.step t = some (u, next)) :
    u.Guarded (stops.set j next) := by
  have hmem := List.mem_of_getElem? ho
  have hcount := countP_set_add Stopping.holdsLock next ho
  have htotal := h.lock
  rcases Stopping.step_cases hstep with ⟨rfl, hfree, rfl, rfl⟩ | ⟨rfl, rfl, rfl⟩ | ⟨rfl, rfl, rfl⟩
  · refine ⟨?_, h.handing, ?_⟩
    · rw [hfree] at htotal
      simp only [Stopping.holdsLock, Bool.toNat_true, Bool.toNat_false] at hcount htotal ⊢
      omega
    · exact forall_mem_set h.marked (by simp [Stopping.hasMarked])
  · refine ⟨?_, ?_, fun _ _ _ => rfl⟩
    · simp only [Stopping.holdsLock] at hcount ⊢
      omega
    · -- the stop has the lock to itself, so no loop is handing a result over
      intro _ r hr
      exact Round.isHanding_of_holdsLock (h.holdsLock_eq_false hmem rfl hr)
  · refine ⟨?_, h.handing, ?_⟩
    · have hlocked := h.isLocked_of_stop hmem rfl
      rw [hlocked] at htotal
      simp only [Stopping.holdsLock, Bool.toNat_true, Bool.toNat_false] at hcount htotal ⊢
      omega
    · intro o ho _
      exact h.marked .marked hmem rfl

theorem Guarded.beginStop (h : t.Guarded stops) : t.Guarded (stops ++ [.begun]) where
  lock := by
    rw [List.countP_append]
    exact h.lock
  handing := h.handing
  marked := by
    refine List.forall_mem_append.mpr ⟨h.marked, ?_⟩
    simp [Stopping.hasMarked]

theorem Guarded.replaceStop (h : t.Guarded stops) {j : Nat} {o next : Stopping}
    (ho : stops[j]? = some o) (hlock : next.holdsLock = o.holdsLock)
    (hmarked : next.hasMarked = true → o.hasMarked = true) : t.Guarded (stops.set j next) where
  lock := by
    have hcount := countP_set_add Stopping.holdsLock next ho
    have htotal := h.lock
    rw [hlock] at hcount
    omega
  handing := h.handing
  marked := by
    refine forall_mem_set h.marked ?_
    intro hnow
    exact h.marked o (List.mem_of_getElem? ho) (hmarked hnow)

theorem Guarded.spawn (h : t.Guarded stops) : t.spawn.Guarded stops where
  lock := by
    simp only [DiscoveryTask.spawn, List.countP_append]
    exact h.lock
  handing := by
    intro hstopped
    refine List.forall_mem_append.mpr ⟨h.handing hstopped, ?_⟩
    simp [Round.isHanding]
  marked := h.marked

theorem Guarded.takeHandle (h : t.Guarded stops) : t.takeHandle.1.Guarded stops :=
  ⟨h.lock, h.handing, h.marked⟩

end ClusterTransport.DiscoveryTask
