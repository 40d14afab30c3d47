import ClusterTransport.Discovery.Task

/-!
# Steps of discovery

What one step of a loop or of a stop changes in the task that they share.
-/

namespace ClusterTransport

def RoundView.idle : RoundView :=
  { now := 0, answer := none, handled := false, urgent := false, stopFirst := false }

namespace Round

def holdsLock : Round → Bool
  | rechecking _ => true
  | handing _ => true
  | _ => false

def isHanding : Round → Bool
  | handing _ => true
  | _ => false

def isAwaiting : Round → Bool
  | awaiting .. => true
  | _ => false

/-- The loop can come to its next call without minding whether the task is stopped. -/
def mayCall : Round → Bool
  | calling => true
  | asking => true
  | sleeping _ => true
  | _ => false

theorem isHanding_of_holdsLock {r : Round} (h : r.holdsLock = false) : r.isHanding = false := by
  cases r with
  | handing result => cases h
  | _ => rfl

/-- What a step of a loop can change in the task, with what the loop is before and after. -/
inductive Shift (t : DiscoveryTask) (v : RoundView) :
    Round → DiscoveryTask → Round → Option RoundAction → Prop where
  | calling : Shift t v .calling { t with calls := t.calls + 1 } (.awaiting t.calls v.now)
      (some (.call t.calls))
  | locking (result : DiscoveryResult) (h : t.isLocked = false) :
      Shift t v (.locking result) { t with isLocked := true } (.rechecking result) none
  | handing (result : DiscoveryResult) (h : t.isStopped = false) :
      Shift t v (.rechecking result) t (.handing result) (some (.handOver result))
  | quitting (result : DiscoveryResult) :
      Shift t v (.rechecking result) { t with isLocked := false } .ended none
  | releasing (result : DiscoveryResult) (h : v.handled = true) :
      Shift t v (.handing result) { t with isLocked := false } .asking none
  | unshared (before after : Round) (hbefore : before.holdsLock = false)
      (hafter : after.holdsLock = false)
      (hcall : after.mayCall = true → before.mayCall = true ∨ t.isStopped = false) :
      Shift t v before t after none

theorem shift_of_stepRound {t u : DiscoveryTask} {v : RoundView} {before after : Round}
    {action : Option RoundAction} (h : t.stepRound v before = some (u, after, action)) :
    Shift t v before u after action := by
  cases before with
  | calling =>
    cases h
    exact .calling
  | awaiting call since =>
    obtain ⟨outcome, _, heq⟩ := Option.map_eq_some_iff.mp h
    cases heq
    exact .unshared _ _ rfl rfl (by simp [mayCall])
  | answered outcome =>
    simp only [DiscoveryTask.stepRound] at h
    split at h
    next =>
      cases h
      exact .unshared _ _ rfl rfl (by simp [mayCall])
    next hrunning =>
      cases outcome with
      | ok result =>
        cases h
        exact .unshared _ _ rfl rfl (by simp [mayCall])
      | error e =>
        cases h
        exact .unshared _ _ rfl rfl fun _ => Or.inr (Bool.eq_false_iff.mpr hrunning)
  | locking result =>
    simp only [DiscoveryTask.stepRound] at h
    split at h
    next => cases h
    next hfree =>
      cases h
      exact .locking result (Bool.eq_false_iff.mpr hfree)
  | rechecking result =>
    simp only [DiscoveryTask.stepRound] at h
    split at h
    next =>
      cases h
      exact .quitting result
    next hrunning =>
      cases h
      exact .handing result (Bool.eq_false_iff.mpr hrunning)
  | handing result =>
    simp only [DiscoveryTask.stepRound] at h
    split at h
    next hhandled =>
      cases h
      exact .releasing result hhandled
    next => cases h
  | asking =>
    cases h
    exact .unshared _ _ rfl rfl fun _ => Or.inl rfl
  | sleeping wake =>
    have hquiet : ∀ r : Round, r.holdsLock = false → Shift t v (.sleeping wake) t r none :=
      fun r hr => .unshared _ r rfl hr fun _ => Or.inl rfl
    simp only [DiscoveryTask.stepRound] at h
    split at h
    next =>
      split at h
      next =>
        cases h
        exact hquiet .ended rfl
      next =>
        cases h
        exact hquiet .calling rfl
    next =>
      split at h
      next =>
        cases h
        exact hquiet .calling rfl
      next => cases h
  | ended => cases h

section Shift

variable {t u : DiscoveryTask} {v : RoundView} {before after : Round}
  {action : Option RoundAction}

theorem Shift.isStopped_eq (h : Shift t v before u after action) : u.isStopped = t.isStopped := by
  cases h <;> rfl

theorem Shift.loops_eq (h : Shift t v before u after action) : u.loops = t.loops := by
  cases h <;> rfl

theorem Shift.handle_eq (h : Shift t v before u after action) : u.handle = t.handle := by
  cases h <;> rfl

theorem Shift.lock (h : Shift t v before u after action)
    (hlocked : before.holdsLock = true → t.isLocked = true) :
    before.holdsLock.toNat + u.isLocked.toNat = after.holdsLock.toNat + t.isLocked.toNat := by
  cases h with
  | calling => rfl
  | locking result hfree => simp [holdsLock, hfree]
  | handing result _ => rfl
  | quitting result => simp [holdsLock, hlocked rfl]
  | releasing result _ => simp [holdsLock, hlocked rfl]
  | unshared _ _ hbefore hafter _ => rw [hbefore, hafter]

theorem Shift.isStopped_of_isHanding (h : Shift t v before u after action)
    (hafter : after.isHanding = true) : t.isStopped = false := by
  cases h with
  | handing result hrunning => exact hrunning
  | unshared _ _ _ hfree _ => cases hafter.symm.trans (isHanding_of_holdsLock hfree)
  | _ => cases hafter

theorem Shift.eq_handing {result : DiscoveryResult}
    (h : Shift t v before u after (some (.handOver result))) : after = .handing result := by
  cases h
  rfl

theorem Shift.handled {result : DiscoveryResult} (h : Shift t v (.handing result) u after action) :
    v.handled = true := by
  cases h with
  | releasing _ hhandled => exact hhandled
  | unshared _ _ hbefore _ _ => cases hbefore

theorem Shift.calls_le (h : Shift t v before u after action) : t.calls ≤ u.calls := by
  cases h with
  | calling => exact Nat.le_succ t.calls
  | _ => exact Nat.le_refl t.calls

/-- In a task that is stopped a loop makes no more calls than it was bound to. -/
theorem Shift.calls_add_le (h : Shift t v before u after action) (hstopped : t.isStopped = true)
    (hbefore : before.isHanding = false) :
    u.calls + after.mayCall.toNat ≤ t.calls + before.mayCall.toNat := by
  cases h with
  | calling => exact Nat.le_refl _
  | locking result _ => exact Nat.le_refl _
  | handing result _ => exact Nat.le_refl _
  | quitting result => exact Nat.le_refl _
  | releasing result _ => cases hbefore
  | unshared _ _ _ _ hcall =>
    have hle : after.mayCall.toNat ≤ before.mayCall.toNat := by
      cases hafter : after.mayCall with
      | false => exact Nat.zero_le _
      | true =>
        rcases hcall hafter with hbefore | hrunning
        · exact Nat.le_of_eq (congrArg Bool.toNat hbefore.symm)
        · rw [hstopped] at hrunning
          cases hrunning
    exact Nat.add_le_add_left hle t.calls

end Shift

end Round

theorem DiscoveryTask.start_cases (t : DiscoveryTask) (hasExecutor : Bool) :
    (t.start hasExecutor).1 = t ∨
      hasExecutor = true ∧ t.handle = none ∧ t.isStopped = false ∧
        (t.start hasExecutor).1 = t.spawn := by
  cases hasExecutor with
  | false => exact Or.inl rfl
  | true =>
    cases hhandle : t.handle with
    | some i => simp [start, hhandle]
    | none =>
      cases hstopped : t.isStopped with
      | true => simp [start, hhandle, hstopped]
      | false => simp [start, hhandle, hstopped]

theorem DiscoveryTask.stepRound_of_stepLoop {t u : DiscoveryTask} {v : RoundView} {i : Nat}
    {action : Option RoundAction} (h : t.stepLoop v i = some (u, action)) :
    ∃ before w after, t.loops[i]? = some before ∧
      t.stepRound v before = some (w, after, action) ∧
        u = { w with loops := w.loops.set i after } := by
  unfold stepLoop at h
  split at h
  next => cases h
  next before hbefore =>
    obtain ⟨⟨w, after, act⟩, hstep, heq⟩ := Option.map_eq_some_iff.mp h
    cases heq
    exact ⟨before, w, after, hbefore, hstep, rfl⟩

theorem DiscoveryTask.stepLoop_cases {t u : DiscoveryTask} {v : RoundView} {i : Nat}
    {action : Option RoundAction} (h : t.stepLoop v i = some (u, action)) :
    ∃ before w after, t.loops[i]? = some before ∧ Round.Shift t v before w after action ∧
      u = { w with loops := t.loops.set i after } := by
  obtain ⟨before, w, after, hbefore, hstep, rfl⟩ := stepRound_of_stepLoop h
  have hshift := Round.shift_of_stepRound hstep
  exact ⟨before, w, after, hbefore, hshift, by rw [hshift.loops_eq]⟩

theorem DiscoveryTask.stepLoop_of_stepRound {t u : DiscoveryTask} {v : RoundView} {i : Nat}
    {before after : Round} {action : Option RoundAction} (hi : t.loops[i]? = some before)
    (h : t.stepRound v before = some (u, after, action)) :
    t.stepLoop v i = some ({ u with loops := u.loops.set i after }, action) := by
  simp only [stepLoop, hi, h, Option.map_some]

namespace Stopping

def holdsLock : Stopping → Bool
  | locked => true
  | marked => true
  | _ => false

def hasMarked : Stopping → Bool
  | marked => true
  | done => true
  | _ => false

theorem step_cases {t u : DiscoveryTask} {o next : Stopping} (h : o.step t = some (u, next)) :
    (o = begun ∧ t.isLocked = false ∧ u = { t with isLocked := true } ∧ next = locked) ∨
    (o = locked ∧ u = { t with isStopped := true } ∧ next = marked) ∨
    (o = marked ∧ u = { t with isLocked := false } ∧ next = done) := by
  cases o with
  | begun =>
    simp only [step] at h
    split at h
    next => cases h
    next hfree =>
      cases h
      exact Or.inl ⟨rfl, Bool.eq_false_iff.mpr hfree, rfl, rfl⟩
  | locked =>
    cases h
    exact Or.inr (Or.inl ⟨rfl, rfl, rfl⟩)
  | marked =>
    cases h
    exact Or.inr (Or.inr ⟨rfl, rfl, rfl⟩)
  | done => cases h

theorem loops_of_step {t u : DiscoveryTask} {o next : Stopping}
    (h : o.step t = some (u, next)) : u.loops = t.loops := by
  rcases step_cases h with ⟨_, _, rfl, _⟩ | ⟨_, rfl, _⟩ | ⟨_, rfl, _⟩ <;> rfl

theorem isStopped_of_step {t u : DiscoveryTask} {o next : Stopping}
    (h : o.step t = some (u, next)) (hstopped : t.isStopped = true) : u.isStopped = true := by
  rcases step_cases h with ⟨_, _, rfl, _⟩ | ⟨_, rfl, _⟩ | ⟨_, rfl, _⟩
  · exact hstopped
  · rfl
  · exact hstopped

end Stopping

end ClusterTransport
