import ClusterTransport.Proofs.Discovery.Activity

/-!
# Calls after a stop

A loop looks whether the task is stopped when its call is over and while it sleeps, but not before
a call. So a loop that was on its way to a call when the task was stopped may still begin it, once,
and so may the loop of a start that had looked before. No other loop does.
-/

namespace ClusterTransport.DiscoveryTask.Activity

/-- The number of calls that are still to be expected if the task is stopped. -/
def pendingCalls (s : Activity) : Nat :=
  s.task.loops.countP Round.mayCall + s.isStarting.toNat

variable {s t : Activity}

/-- The task is stopped, and `bound` calls are not exceeded. -/
structure Winding (bound : Nat) (s : Activity) : Prop where
  guarded : s.Guarded
  stopped : s.task.isStopped = true
  calls : s.task.calls + s.pendingCalls ≤ bound

private theorem Winding.next {bound : Nat} (h : s.Winding bound) (hn : s.Next t) :
    t.Winding bound := by
  have hguarded := h.guarded.next hn
  have hcalls := h.calls
  cases hn with
  | look b hidle hb =>
    refine ⟨hguarded, h.stopped, ?_⟩
    have hnot : b = false := by
      cases b with
      | false => rfl
      | true => cases h.stopped.symm.trans (hb rfl)
    simp only [pendingCalls, hidle, hnot] at hcalls ⊢
    exact hcalls
  | spawn hstarting =>
    refine ⟨hguarded, h.stopped, ?_⟩
    simp only [pendingCalls, spawn, hstarting, List.countP_append, List.countP_singleton,
      Round.mayCall, Bool.toNat_true, Bool.toNat_false, if_true] at hcalls ⊢
    omega
  | takeHandle => exact ⟨hguarded, h.stopped, hcalls⟩
  | beginStop => exact ⟨hguarded, h.stopped, hcalls⟩
  | stepStop j o next u ho hstep =>
    rcases Stopping.step_cases hstep with ⟨_, _, rfl, _⟩ | ⟨_, rfl, _⟩ | ⟨_, rfl, _⟩
    · exact ⟨hguarded, h.stopped, hcalls⟩
    · exact ⟨hguarded, rfl, hcalls⟩
    · exact ⟨hguarded, h.stopped, hcalls⟩
  | stepLoop i v u action hstep =>
    obtain ⟨before, w, after, hbefore, hshift, rfl⟩ := stepLoop_cases hstep
    refine ⟨hguarded, hshift.isStopped_eq.trans h.stopped, ?_⟩
    have hnot := h.guarded.handing h.stopped before (List.mem_of_getElem? hbefore)
    have hadd := hshift.calls_add_le h.stopped hnot
    have hcount := countP_set_add Round.mayCall after hbefore
    simp only [pendingCalls] at hcalls ⊢
    omega
  | pass d => exact ⟨hguarded, h.stopped, hcalls⟩

theorem Winding.run {bound : Nat} {ms : List Move} (h : s.Winding bound)
    (hrun : s.run ms = some t) : t.Winding bound :=
  foldlM_invariant (Winding bound) (fun _ _ _ hs hm => hs.next (next_of_move hm)) h hrun

private theorem Next.calls_le (h : s.Next t) : s.task.calls ≤ t.task.calls := by
  cases h with
  | stepStop j o next u ho hstep =>
    rcases Stopping.step_cases hstep with ⟨_, _, rfl, _⟩ | ⟨_, rfl, _⟩ | ⟨_, rfl, _⟩ <;>
      exact Nat.le_refl _
  | stepLoop i v u action hstep =>
    obtain ⟨before, w, after, _, hshift, rfl⟩ := stepLoop_cases hstep
    exact hshift.calls_le
  | _ => exact Nat.le_refl _

theorem calls_le_of_run {ms : List Move} (hrun : s.run ms = some t) :
    s.task.calls ≤ t.task.calls :=
  foldlM_invariant (fun u : Activity => s.task.calls ≤ u.task.calls)
    (fun _ _ _ hs hm => Nat.le_trans hs (next_of_move hm).calls_le) (Nat.le_refl _) hrun

private theorem move_idle {i : Nat} {before after : Round} {u : DiscoveryTask}
    {action : Option RoundAction} (hi : s.task.loops[i]? = some before)
    (hround : s.task.stepRound { RoundView.idle with now := s.now } before =
      some (u, after, action)) :
    s.move (.stepLoop i .idle) =
      some { s with task := { u with loops := u.loops.set i after } } := by
  simp only [move, stepLoop_of_stepRound hi hround, Option.map_some]

/-- `t` is `s` after one more call, made by the loop with number `i`. -/
private structure Called (s : Activity) (i : Nat) (t : Activity) : Prop where
  calls : t.task.calls = s.task.calls + 1
  starting : t.isStarting = s.isStarting
  loops : ∃ r : Round, r.mayCall = false ∧ t.task.loops = s.task.loops.set i r

private def CanCall (s : Activity) (i : Nat) : Prop :=
  ∃ ms t, s.run ms = some t ∧ s.Called i t

private theorem CanCall.step {i : Nat} {before after : Round} {action : Option RoundAction}
    (hi : s.task.loops[i]? = some before)
    (hround : s.task.stepRound { RoundView.idle with now := s.now } before =
      some (s.task, after, action))
    (h : CanCall { s with task := { s.task with loops := s.task.loops.set i after } } i) :
    s.CanCall i := by
  obtain ⟨ms, t, hrun, hcalls, hstarting, r, hr, hloops⟩ := h
  refine ⟨_, t, foldlM_cons_of_move (move_idle hi hround) hrun, hcalls, hstarting, r, hr, ?_⟩
  rw [hloops, List.set_set]

private theorem canCall_of_calling {i : Nat} (hi : s.task.loops[i]? = some .calling) :
    s.CanCall i :=
  ⟨[.stepLoop i .idle], _, foldlM_cons_of_move (move_idle hi rfl) rfl, rfl, rfl, _, rfl, rfl⟩

private theorem getElem?_set_of_getElem? {i : Nat} {before : Round} (after : Round)
    (hi : s.task.loops[i]? = some before) : (s.task.loops.set i after)[i]? = some after :=
  List.getElem?_set_self (List.getElem?_eq_some_iff.mp hi).1

private theorem canCall_of_sleeping {i : Nat} {wake : Instant}
    (hi : s.task.loops[i]? = some (.sleeping wake)) : s.CanCall i := by
  let late : Activity := { s with now := s.now + wake }
  have hlate : ¬ (RoundView.idle.stopFirst || decide (late.now < wake)) = true := by
    simp [RoundView.idle, late]
  have hwake : wake ≤ late.now := Nat.le_add_left wake s.now
  have hround : late.task.stepRound { RoundView.idle with now := late.now } (.sleeping wake) =
      some (late.task, .calling, none) := by
    cases hstopped : late.task.isStopped with
    | true => simp only [stepRound, hstopped, if_true, if_neg hlate]
    | false => simp only [stepRound, hstopped, Bool.false_eq_true, if_false, if_pos hwake]
  have hcalling := getElem?_set_of_getElem? .calling hi
  obtain ⟨ms, t, hrun, hcalled⟩ := CanCall.step (s := late) hi hround (canCall_of_calling hcalling)
  have hpass : s.move (.pass wake) = some late := rfl
  exact ⟨_, t, foldlM_cons_of_move hpass hrun, hcalled.calls, hcalled.starting, hcalled.loops⟩

private theorem canCall_of_mayCall {i : Nat} {r : Round} (hi : s.task.loops[i]? = some r)
    (hr : r.mayCall = true) : s.CanCall i := by
  cases r with
  | calling => exact canCall_of_calling hi
  | sleeping wake => exact canCall_of_sleeping hi
  | asking => exact CanCall.step hi rfl (canCall_of_sleeping (getElem?_set_of_getElem? _ hi))
  | _ => cases hr

private theorem exists_call_of_starting (hstarting : s.isStarting = true) :
    ∃ ms t, s.run ms = some t ∧ t.task.calls = s.task.calls + 1 ∧
      t.pendingCalls + 1 = s.pendingCalls := by
  let spawned : Activity := { s with task := s.task.spawn, isStarting := false }
  have hspawn : s.move .spawn = some spawned := by simp [move, hstarting, spawned]
  have hi : spawned.task.loops[s.task.loops.length]? = some .calling := by
    simp [spawned, spawn]
  obtain ⟨ms, t, hrun, hcalls, hstart, r, hr, hloops⟩ := canCall_of_calling hi
  refine ⟨_, t, foldlM_cons_of_move hspawn hrun, hcalls, ?_⟩
  have hcount := countP_set_add Round.mayCall r hi
  have hspawned : spawned.task.loops.countP Round.mayCall =
      s.task.loops.countP Round.mayCall + 1 := by
    simp [spawned, spawn, List.countP_append, Round.mayCall]
  have hcalling : Round.mayCall .calling = true := rfl
  rw [← hloops, hr, hspawned, hcalling, Bool.toNat_true, Bool.toNat_false] at hcount
  have hnone : t.isStarting = false := hstart
  simp only [pendingCalls, hnone, hstarting, Bool.toNat_true, Bool.toNat_false]
  omega

private theorem exists_call_of_loop (hpos : 0 < s.task.loops.countP Round.mayCall) :
    ∃ ms t, s.run ms = some t ∧ t.task.calls = s.task.calls + 1 ∧
      t.pendingCalls + 1 = s.pendingCalls := by
  obtain ⟨before, hmem, hbefore⟩ := List.countP_pos_iff.mp hpos
  obtain ⟨i, hi⟩ := List.mem_iff_getElem?.mp hmem
  obtain ⟨ms, t, hrun, hcalls, hstart, r, hr, hloops⟩ := canCall_of_mayCall hi hbefore
  refine ⟨ms, t, hrun, hcalls, ?_⟩
  have hcount := countP_set_add Round.mayCall r hi
  rw [← hloops, hr, hbefore, Bool.toNat_true, Bool.toNat_false] at hcount
  simp only [pendingCalls, hstart]
  omega

/-- A pending call can be made, and then one fewer is pending. -/
theorem exists_call (h : 0 < s.pendingCalls) :
    ∃ ms t, s.run ms = some t ∧ t.task.calls = s.task.calls + 1 ∧
      t.pendingCalls + 1 = s.pendingCalls := by
  cases hstarting : s.isStarting with
  | true => exact exists_call_of_starting hstarting
  | false =>
    have hpos : 0 < s.task.loops.countP Round.mayCall := by
      simpa [pendingCalls, hstarting] using h
    exact exists_call_of_loop hpos

private theorem exists_calls (n : Nat) (h : s.pendingCalls = n) :
    ∃ ms t, s.run ms = some t ∧ t.task.calls = s.task.calls + n := by
  induction n generalizing s with
  | zero => exact ⟨[], s, rfl, rfl⟩
  | succ n ih =>
    obtain ⟨ms, u, hms, hcalls, hpending⟩ := exists_call (s := s) (by omega)
    obtain ⟨ns, t, hns, htotal⟩ := ih (s := u) (by omega)
    exact ⟨ms ++ ns, t, foldlM_trans hms hns, by omega⟩

/-- Once a stop is over, as many calls can still be begun as are pending, and no more. So none is
begun if and only if none is pending. -/
theorem calls_after_stop {settings : DiscoverySettings} {timers : Timers} {ms : List Move}
    (hrun : Activity.run { task := { settings, timers } } ms = some s)
    (hdone : .done ∈ s.stops) :
    ((∀ later t, s.run later = some t → t.task.calls = s.task.calls) ↔ s.pendingCalls = 0) ∧
      (∀ later t, s.run later = some t →
        s.task.calls ≤ t.task.calls ∧ t.task.calls ≤ s.task.calls + s.pendingCalls) ∧
      ∃ later t, s.run later = some t ∧ t.task.calls = s.task.calls + s.pendingCalls := by
  have hguarded := guarded_of_run hrun
  have hwinding : s.Winding (s.task.calls + s.pendingCalls) :=
    ⟨hguarded, hguarded.marked .done hdone rfl, Nat.le_refl _⟩
  have hbounds : ∀ later t, s.run later = some t →
      s.task.calls ≤ t.task.calls ∧ t.task.calls ≤ s.task.calls + s.pendingCalls := by
    intro later t hlater
    have htotal := (hwinding.run hlater).calls
    exact ⟨calls_le_of_run hlater, by omega⟩
  obtain ⟨all, u, hall, hcalls⟩ := exists_calls (s := s) _ rfl
  refine ⟨⟨?_, ?_⟩, hbounds, all, u, hall, hcalls⟩
  · intro hnone
    have hsame := hnone all u hall
    omega
  · intro hzero later t hlater
    obtain ⟨hle, hge⟩ := hbounds later t hlater
    omega

/-- A task that is stopped before its loop takes the first step. -/
theorem calls_after_stop_of_unstarted_loop :
    ∃ ms s, Activity.run { task := {} } ms = some s ∧ .done ∈ s.stops ∧
      s.pendingCalls = 1 ∧ s.task.calls = 0 ∧
      ∃ later t, s.run later = some t ∧ t.task.calls = 1 := by
  have hstop : ∃ s, Activity.run { task := {} } [.look true, .spawn, .beginStop, .stepStop 0,
      .stepStop 0, .stepStop 0] = some s ∧ .done ∈ s.stops ∧ s.pendingCalls = 1 ∧
      s.task.calls = 0 :=
    ⟨_, rfl, by decide, rfl, rfl⟩
  obtain ⟨s, hrun, hdone, hpending, hcalls⟩ := hstop
  obtain ⟨_, _, later, t, hlater, hlate⟩ := calls_after_stop hrun hdone
  rw [hpending, hcalls] at hlate
  exact ⟨_, s, hrun, hdone, hpending, hcalls, later, t, hlater, hlate⟩

/-- It is not so that no call is begun once a stop is over. -/
theorem call_begun_after_stop :
    ¬ ∀ (settings : DiscoverySettings) (timers : Timers) (ms later : List Move) (s t : Activity),
      Activity.run { task := { settings, timers } } ms = some s → .done ∈ s.stops →
        s.run later = some t → t.task.calls = s.task.calls := by
  intro hnone
  have hsame := hnone {} {}
    [.look true, .spawn, .beginStop, .stepStop 0, .stepStop 0, .stepStop 0]
    [.stepLoop 0 .idle] _ _ rfl (by decide) rfl
  cases hsame

end ClusterTransport.DiscoveryTask.Activity
