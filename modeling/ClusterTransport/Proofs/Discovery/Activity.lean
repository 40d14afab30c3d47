import ClusterTransport.Proofs.Discovery.Guarding

/-!
# A discovery task at work

Starts, stops and loops of one task take their steps in any order, and time passes between them. A
start first looks whether it may spawn a loop and then spawns it; meanwhile no other start gets at
the handle, but a stop can come between.
-/

namespace ClusterTransport.DiscoveryTask

/-- A task with the operations on it that are in progress. -/
structure Activity where
  task : DiscoveryTask
  now : Instant := 0
  /-- Whether a start found that it may spawn a loop and is to do so. -/
  isStarting : Bool := false
  stops : List Stopping := []

namespace Activity

inductive Move where
  | look (hasExecutor : Bool)
  | spawn
  | takeHandle
  | beginStop
  | stepStop (j : Nat)
  | stepLoop (i : Nat) (v : RoundView)
  | pass (d : Span)

def move (s : Activity) : Move → Option Activity
  | .look hasExecutor =>
    if s.isStarting then none
    else
      some { s with isStarting := hasExecutor && s.task.handle.isNone && !s.task.isStopped }
  | .spawn =>
    if s.isStarting then some { s with task := s.task.spawn, isStarting := false } else none
  | .takeHandle => if s.isStarting then none else some { s with task := s.task.takeHandle.1 }
  | .beginStop => some { s with stops := s.stops ++ [.begun] }
  | .stepStop j =>
    s.stops[j]?.bind fun o =>
      (o.step s.task).map fun r => { s with task := r.1, stops := s.stops.set j r.2 }
  | .stepLoop i v =>
    (s.task.stepLoop { v with now := s.now } i).map fun r => { s with task := r.1 }
  | .pass d => some { s with now := s.now + d }

def run (s : Activity) (ms : List Move) : Option Activity :=
  ms.foldlM move s

/-- A start that nothing comes between does what `start` does. -/
theorem run_start {s : Activity} (hidle : s.isStarting = false) (hasExecutor : Bool) :
    ∃ ms, s.run ms = some { s with task := (s.task.start hasExecutor).1 } := by
  by_cases hmay : hasExecutor = true ∧ s.task.handle = none ∧ s.task.isStopped = false
  · refine ⟨[.look hasExecutor, .spawn], ?_⟩
    simp [run, move, start, hmay, hidle]
  · refine ⟨[.look hasExecutor], ?_⟩
    have hrefused : (hasExecutor && s.task.handle.isNone && !s.task.isStopped) = false := by
      simpa [and_assoc] using hmay
    have hstays : (s.task.start hasExecutor).1 = s.task := by
      cases hasExecutor with
      | false => rfl
      | true =>
        cases hhandle : s.task.handle with
        | some i => simp [start, hhandle]
        | none =>
          cases hstopped : s.task.isStopped with
          | true => simp [start, hhandle, hstopped]
          | false => exact absurd ⟨rfl, hhandle, hstopped⟩ hmay
    simp [run, move, hrefused, hstays, hidle]

theorem run_stop {s : Activity} (hfree : s.task.isLocked = false) :
    ∃ ms, s.run ms = some { s with task := s.task.stop, stops := s.stops ++ [.done] } := by
  refine ⟨[.beginStop, .stepStop s.stops.length, .stepStop s.stops.length,
    .stepStop s.stops.length], ?_⟩
  simp [run, move, stop, Stopping.steps, Stopping.step, hfree]

inductive Next (s : Activity) : Activity → Prop where
  | look (b : Bool) (hidle : s.isStarting = false) (hb : b = true → s.task.isStopped = false) :
      Next s { s with isStarting := b }
  | spawn (hstarting : s.isStarting = true) :
      Next s { s with task := s.task.spawn, isStarting := false }
  | takeHandle : Next s { s with task := s.task.takeHandle.1 }
  | beginStop : Next s { s with stops := s.stops ++ [.begun] }
  | stepStop (j : Nat) (o next : Stopping) (u : DiscoveryTask) (ho : s.stops[j]? = some o)
      (hstep : o.step s.task = some (u, next)) :
      Next s { s with task := u, stops := s.stops.set j next }
  | stepLoop (i : Nat) (v : RoundView) (u : DiscoveryTask) (action : Option RoundAction)
      (hstep : s.task.stepLoop v i = some (u, action)) : Next s { s with task := u }
  | pass (d : Span) : Next s { s with now := s.now + d }

variable {s t : Activity}

theorem next_of_move {m : Move} (h : s.move m = some t) : s.Next t := by
  cases m with
  | look hasExecutor =>
    simp only [move] at h
    split at h
    next => cases h
    next hidle =>
      cases h
      refine .look _ (Bool.eq_false_iff.mpr hidle) ?_
      intro hb
      simp only [Bool.and_eq_true, Bool.not_eq_true'] at hb
      exact hb.2
  | spawn =>
    simp only [move] at h
    split at h
    next hstarting =>
      cases h
      exact .spawn hstarting
    next => cases h
  | takeHandle =>
    simp only [move] at h
    split at h
    next => cases h
    next =>
      cases h
      exact .takeHandle
  | beginStop =>
    cases h
    exact .beginStop
  | stepStop j =>
    obtain ⟨o, ho, hmap⟩ := Option.bind_eq_some_iff.mp h
    obtain ⟨⟨u, next⟩, hstep, heq⟩ := Option.map_eq_some_iff.mp hmap
    cases heq
    exact .stepStop j o next u ho hstep
  | stepLoop i v =>
    obtain ⟨⟨u, action⟩, hstep, heq⟩ := Option.map_eq_some_iff.mp h
    cases heq
    exact .stepLoop i _ u action hstep
  | pass d =>
    cases h
    exact .pass d

def Guarded (s : Activity) : Prop :=
  s.task.Guarded s.stops

theorem Guarded.next (h : s.Guarded) (hn : s.Next t) : t.Guarded := by
  cases hn with
  | look b _ _ => exact h
  | spawn _ => exact DiscoveryTask.Guarded.spawn h
  | takeHandle => exact DiscoveryTask.Guarded.takeHandle h
  | beginStop => exact DiscoveryTask.Guarded.beginStop h
  | stepStop j o next u ho hstep => exact DiscoveryTask.Guarded.stepStop h ho hstep
  | stepLoop i v u action hstep => exact DiscoveryTask.Guarded.stepLoop h hstep
  | pass d => exact h

theorem Guarded.run {ms : List Move} (h : s.Guarded) (hrun : s.run ms = some t) : t.Guarded :=
  foldlM_invariant Guarded (fun _ _ _ hs hm => hs.next (next_of_move hm)) h hrun

theorem guarded_of_run {settings : DiscoverySettings} {timers : Timers} {ms : List Move}
    (hrun : Activity.run { task := { settings, timers } } ms = some s) : s.Guarded := by
  have hnew : Activity.Guarded { task := { settings, timers } } := guarded_new settings timers
  exact hnew.run hrun

theorem done_of_run {ms : List Move} (hdone : .done ∈ s.stops) (hrun : s.run ms = some t) :
    .done ∈ t.stops := by
  refine foldlM_invariant (fun s : Activity => .done ∈ s.stops) ?_ hdone hrun
  intro s m t hs hm
  cases next_of_move hm with
  | beginStop => exact List.mem_append_left _ hs
  | stepStop j o next u ho hstep =>
    rcases mem_set_or_eq ho hs with hstays | rfl
    · exact hstays
    · cases hstep
  | look b _ _ => exact hs
  | spawn _ => exact hs
  | takeHandle => exact hs
  | stepLoop i v u action _ => exact hs
  | pass d => exact hs

end Activity

end ClusterTransport.DiscoveryTask
