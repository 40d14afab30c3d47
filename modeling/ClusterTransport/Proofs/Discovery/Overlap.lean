import ClusterTransport.Proofs.Discovery.Steps
import ClusterTransport.Proofs.Runs

/-!
# Calls that overlap

A task starts a second loop only when its handle was given away after the first start, and then two
calls can be in flight. Operations are made one after another here, between steps of the loops.
-/

namespace ClusterTransport.DiscoveryTask

inductive Operation where
  | start (hasExecutor : Bool)
  | stop
  | takeHandle
deriving DecidableEq

inductive Use where
  | operate (o : Operation)
  | stepLoop (i : Nat) (v : RoundView)

def Use.operation? : Use → Option Operation
  | operate o => some o
  | stepLoop _ _ => none

def operate (t : DiscoveryTask) : Operation → Option DiscoveryTask
  | .start hasExecutor => some (t.start hasExecutor).1
  | .stop => if t.isLocked then none else some t.stop
  | .takeHandle => some t.takeHandle.1

def use (t : DiscoveryTask) : Use → Option DiscoveryTask
  | .operate o => t.operate o
  | .stepLoop i v => (t.stepLoop v i).map Prod.fst

def perform (t : DiscoveryTask) (ms : List Use) : Option DiscoveryTask :=
  ms.foldlM use t

def inFlight (t : DiscoveryTask) : Nat :=
  t.loops.countP Round.isAwaiting

/-- The operations that a task needs to come to two loops. -/
def missing (t : DiscoveryTask) : List Operation :=
  match t.loops.length, t.handle with
  | 0, _ => [.start true, .takeHandle, .start true]
  | 1, some _ => [.takeHandle, .start true]
  | 1, none => [.start true]
  | _ + 2, _ => []

variable {t u : DiscoveryTask}

private theorem missing_eq_nil_iff : t.missing = [] ↔ 2 ≤ t.loops.length := by
  unfold missing
  split <;> simp [*]

private theorem missing_congr (hlength : u.loops.length = t.loops.length)
    (hhandle : u.handle = t.handle) :
    u.missing = t.missing := by
  simp only [missing, hlength, hhandle]

/-- The task is not stopped, and it keeps the handle of no loop but its own. -/
structure Orderly (t : DiscoveryTask) : Prop where
  running : t.isStopped = false
  handle : t.handle.isSome = true → t.loops ≠ []

private theorem orderly_new (settings : DiscoverySettings) (timers : Timers) :
    Orderly { settings, timers } where
  running := rfl
  handle := by simp

private theorem Orderly.congr (h : t.Orderly) (hstopped : u.isStopped = t.isStopped)
    (hhandle : u.handle = t.handle) (hlength : u.loops.length = t.loops.length) : u.Orderly where
  running := hstopped.trans h.running
  handle := by
    intro hsome hnil
    rw [hhandle] at hsome
    rw [hnil] at hlength
    exact h.handle hsome (List.length_eq_zero_iff.mp hlength.symm)

private theorem Orderly.spawn (h : t.Orderly) : t.spawn.Orderly where
  running := h.running
  handle := by simp [DiscoveryTask.spawn]

private theorem Orderly.takeHandle (h : t.Orderly) : t.takeHandle.1.Orderly where
  running := h.running
  handle := by simp [DiscoveryTask.takeHandle]

private theorem missing_spawn (hhandle : t.handle = none) :
    t.missing = .start true :: t.spawn.missing ∨ t.missing = [] ∧ t.spawn.missing = [] := by
  cases hloops : t.loops with
  | nil => simp [missing, spawn, hloops]
  | cons r rest =>
    cases rest with
    | nil => simp [missing, spawn, hloops, hhandle]
    | cons r' rest => simp [missing, spawn, hloops]

private theorem missing_takeHandle :
    t.missing = .takeHandle :: t.takeHandle.1.missing ∨
      t.missing = t.takeHandle.1.missing ∧ t.missing.head? ≠ some .takeHandle := by
  cases hloops : t.loops with
  | nil => simp [missing, takeHandle, hloops]
  | cons r rest =>
    cases rest with
    | nil => cases hhandle : t.handle <;> simp [missing, takeHandle, hloops, hhandle]
    | cons r' rest => simp [missing, takeHandle, hloops]

private theorem missing_start_self (h : t.Orderly) (hstays : (t.start true).1 = t) :
    t.missing.head? ≠ some (.start true) := by
  cases hhandle : t.handle with
  | none =>
    have hlonger := congrArg (fun u : DiscoveryTask => u.loops.length) hstays
    simp [start, hhandle, h.running, spawn] at hlonger
  | some i =>
    have hloops := h.handle (by simp [hhandle])
    cases hlist : t.loops with
    | nil => exact absurd hlist hloops
    | cons r rest => cases rest <;> simp [missing, hlist, hhandle]

/-- An operation other than a stop either is the next that the task needs, or changes nothing in
what it needs. -/
theorem Orderly.operate {o : Operation} (h : t.Orderly) (ho : o ≠ .stop)
    (hop : t.operate o = some u) :
    u.Orderly ∧ (t.missing = o :: u.missing ∨
      t.missing = u.missing ∧ t.missing.head? ≠ some o) := by
  cases o with
  | stop => exact absurd rfl ho
  | takeHandle =>
    cases hop
    exact ⟨h.takeHandle, missing_takeHandle⟩
  | start hasExecutor =>
    have hu : (t.start hasExecutor).1 = u := Option.some.inj hop
    rcases t.start_cases hasExecutor with hstays | ⟨rfl, hhandle, _, hspawn⟩
    · obtain rfl := hstays.symm.trans hu
      refine ⟨h, Or.inr ⟨rfl, ?_⟩⟩
      cases hasExecutor with
      | true => exact missing_start_self h hstays
      | false =>
        unfold missing
        split <;> simp
    · obtain rfl := hspawn.symm.trans hu
      refine ⟨h.spawn, ?_⟩
      rcases missing_spawn hhandle with hnext | ⟨hnone, hnone'⟩
      · exact Or.inl hnext
      · exact Or.inr ⟨hnone.trans hnone'.symm, by simp [hnone]⟩

private theorem Orderly.sublist_cons_iff {o : Operation} (h : t.Orderly) (ho : o ≠ .stop)
    (hop : t.operate o = some u) (rest : List Operation) :
    t.missing.Sublist (o :: rest) ↔ u.missing.Sublist rest := by
  rcases (h.operate ho hop).2 with hnext | ⟨hsame, hhead⟩
  · rw [hnext]
    exact List.cons_sublist_cons
  · rw [hsame] at hhead ⊢
    rw [List.sublist_cons_iff]
    refine ⟨?_, Or.inl⟩
    rintro (hsub | ⟨l, hl, _⟩)
    · exact hsub
    · exact absurd (by rw [hl]; rfl) hhead

private theorem frame_stepLoop {v : RoundView} {i : Nat} {action : Option RoundAction}
    (h : t.stepLoop v i = some (u, action)) :
    u.isStopped = t.isStopped ∧ u.handle = t.handle ∧ u.loops.length = t.loops.length := by
  obtain ⟨before, w, after, _, hshift, rfl⟩ := stepLoop_cases h
  exact ⟨hshift.isStopped_eq, hshift.handle_eq, List.length_set⟩

private theorem use_stepLoop {v : RoundView} {i : Nat} (h : t.use (.stepLoop i v) = some u) :
    u.isStopped = t.isStopped ∧ u.handle = t.handle ∧ u.loops.length = t.loops.length := by
  obtain ⟨⟨w, action⟩, hstep, rfl⟩ := Option.map_eq_some_iff.mp h
  exact frame_stepLoop hstep

private theorem operate_stop (h : t.operate .stop = some u) :
    u.isStopped = true ∧ u.loops = t.loops := by
  simp only [operate] at h
  split at h
  next => cases h
  next hfree =>
    cases h
    simp [stop, Stopping.steps, Stopping.step, hfree]

private theorem length_of_isStopped {ms : List Use} (hstopped : t.isStopped = true)
    (hrun : t.perform ms = some u) : u.loops.length = t.loops.length := by
  let kept (w : DiscoveryTask) := w.isStopped = true ∧ w.loops.length = t.loops.length
  have hkept : kept u := by
    refine foldlM_invariant kept ?_ ⟨hstopped, rfl⟩ hrun
    rintro w m w' ⟨hw, hlength⟩ hm
    cases m with
    | stepLoop i v =>
      obtain ⟨hsame, _, hloops⟩ := use_stepLoop hm
      exact ⟨hsame.trans hw, hloops.trans hlength⟩
    | operate o =>
      cases o with
      | start hasExecutor =>
        have hw' : (w.start hasExecutor).1 = w' := Option.some.inj hm
        rcases w.start_cases hasExecutor with hstays | ⟨_, _, hrunning, _⟩
        · obtain rfl := hstays.symm.trans hw'
          exact ⟨hw, hlength⟩
        · cases hw.symm.trans hrunning
      | stop =>
        obtain ⟨hnow, hloops⟩ := operate_stop hm
        exact ⟨hnow, by rw [hloops, hlength]⟩
      | takeHandle =>
        cases hm
        exact ⟨hw, hlength⟩
  exact hkept.2

def operationsBeforeStop (ops : List Operation) : List Operation :=
  ops.takeWhile fun o => o ≠ .stop

/-- A run comes to two loops if and only if it makes the operations that the task needs. -/
theorem Orderly.two_loops_iff {ms : List Use} (h : t.Orderly) (hrun : t.perform ms = some u) :
    2 ≤ u.loops.length ↔
      t.missing.Sublist (operationsBeforeStop (ms.filterMap Use.operation?)) := by
  induction ms generalizing t with
  | nil =>
    obtain rfl : t = u := Option.some.inj hrun
    rw [← missing_eq_nil_iff]
    exact List.sublist_nil.symm
  | cons m ms ih =>
    rw [perform, List.foldlM_cons] at hrun
    obtain ⟨w, hw, hrest⟩ := Option.bind_eq_some_iff.mp hrun
    cases m with
    | stepLoop i v =>
      obtain ⟨hstopped, hhandle, hlength⟩ := use_stepLoop hw
      have horderly := h.congr hstopped hhandle hlength
      rw [ih horderly hrest, missing_congr hlength hhandle]
      rfl
    | operate o =>
      by_cases ho : o = .stop
      · subst ho
        obtain ⟨hstopped, hloops⟩ := operate_stop hw
        have hlength := length_of_isStopped hstopped hrest
        rw [hlength, hloops, ← missing_eq_nil_iff]
        exact List.sublist_nil.symm
      · have horderly := (h.operate ho hw).1
        have hops : operationsBeforeStop ((Use.operate o :: ms).filterMap Use.operation?) =
            o :: operationsBeforeStop (ms.filterMap Use.operation?) := by
          simp [operationsBeforeStop, Use.operation?, ho]
        rw [ih horderly hrest, hops, h.sublist_cons_iff ho hw]

/-- Nothing was done by the loops yet. -/
structure Unstepped (t : DiscoveryTask) : Prop where
  free : t.isLocked = false
  loops : ∀ r ∈ t.loops, r = .calling

private theorem Unstepped.operate (h : t.Unstepped) (o : Operation) :
    ∃ u, t.operate o = some u ∧ u.Unstepped := by
  cases o with
  | start hasExecutor =>
    refine ⟨_, rfl, ?_⟩
    rcases t.start_cases hasExecutor with hstays | ⟨_, _, _, hspawn⟩
    · rw [hstays]
      exact h
    · rw [hspawn]
      exact ⟨h.free, List.forall_mem_append.mpr ⟨h.loops, by simp⟩⟩
  | stop =>
    have hop : t.operate .stop = some t.stop := by simp [DiscoveryTask.operate, h.free]
    refine ⟨t.stop, hop, ?_, ?_⟩
    · simp [stop, Stopping.steps, Stopping.step, h.free]
    · rw [(operate_stop hop).2]
      exact h.loops
  | takeHandle => exact ⟨_, rfl, h.free, h.loops⟩

theorem Unstepped.exists_run (h : t.Unstepped) (ops : List Operation) :
    ∃ u, t.perform (ops.map Use.operate) = some u ∧ u.Unstepped := by
  induction ops generalizing t with
  | nil => exact ⟨t, rfl, h⟩
  | cons o ops ih =>
    obtain ⟨w, hw, hunstepped⟩ := h.operate o
    obtain ⟨u, hu, hlast⟩ := ih hunstepped
    have hmove : t.use (.operate o) = some w := hw
    exact ⟨u, foldlM_cons_of_move hmove hu, hlast⟩

private theorem Unstepped.exists_overlap (h : t.Unstepped) (htwo : 2 ≤ t.loops.length)
    (v : RoundView) :
    ∃ u, t.perform [.stepLoop 0 v, .stepLoop 1 v] = some u ∧ 2 ≤ u.inFlight := by
  have hloops : ∃ rest, t.loops = .calling :: .calling :: rest := by
    cases hlist : t.loops with
    | nil => simp [hlist] at htwo
    | cons r rest =>
      cases rest with
      | nil => simp [hlist] at htwo
      | cons r' rest =>
        have hr : r = .calling := h.loops r (by simp [hlist])
        have hr' : r' = .calling := h.loops r' (by simp [hlist])
        exact ⟨rest, by rw [hr, hr']⟩
  obtain ⟨rest, hrest⟩ := hloops
  let first : DiscoveryTask :=
    { t with
      calls := t.calls + 1
      loops := .awaiting t.calls v.now :: .calling :: rest }
  have hfirst : t.use (.stepLoop 0 v) = some first := by
    simp [use, stepLoop, hrest, stepRound, first]
  let second : DiscoveryTask :=
    { first with
      calls := first.calls + 1
      loops := .awaiting t.calls v.now :: .awaiting first.calls v.now :: rest }
  have hsecond : first.use (.stepLoop 1 v) = some second := by
    simp [use, stepLoop, stepRound, first, second]
  refine ⟨second, foldlM_cons_of_move hfirst (foldlM_cons_of_move hsecond rfl), ?_⟩
  have hboth : second.inFlight = rest.countP Round.isAwaiting + 1 + 1 := by
    rw [inFlight, List.countP_cons_of_pos rfl, List.countP_cons_of_pos rfl]
  omega

/-- Two calls can be in flight if and only if the task is started, then gives its handle away, and
is started again, all before it is stopped. -/
theorem two_in_flight_iff (settings : DiscoverySettings) (timers : Timers)
    (ops : List Operation) :
    (∃ (ms : List Use) (t : DiscoveryTask), ms.filterMap Use.operation? = ops ∧
      perform { settings, timers } ms = some t ∧ 2 ≤ t.inFlight) ↔
      [Operation.start true, .takeHandle, .start true].Sublist (operationsBeforeStop ops) := by
  have horderly := orderly_new settings timers
  constructor
  · rintro ⟨ms, t, rfl, hrun, htwo⟩
    have hloops : 2 ≤ t.loops.length := Nat.le_trans htwo List.countP_le_length
    exact (horderly.two_loops_iff hrun).mp hloops
  · intro hsub
    have hnew : Unstepped { settings, timers } := ⟨rfl, by simp⟩
    obtain ⟨t, hrun, hunstepped⟩ := hnew.exists_run ops
    have hops : (ops.map Use.operate).filterMap Use.operation? = ops := by
      simp [List.filterMap_map, Function.comp_def, Use.operation?]
    have htwo := (horderly.two_loops_iff hrun).mpr (hops.symm ▸ hsub)
    obtain ⟨u, hlast, hinFlight⟩ := hunstepped.exists_overlap htwo .idle
    refine ⟨_, u, ?_, foldlM_trans hrun hlast, hinFlight⟩
    rw [List.filterMap_append, hops]
    simp [Use.operation?]

/-- It is not so that at most one call of a task is in flight. -/
theorem overlapping_calls :
    ¬ ∀ (settings : DiscoverySettings) (timers : Timers) (ms : List Use) (t : DiscoveryTask),
      perform { settings, timers } ms = some t → t.inFlight ≤ 1 := by
  intro hone
  have hle := hone {} {} [.operate (.start true), .stepLoop 0 .idle, .operate .takeHandle,
    .operate (.start true), .stepLoop 1 .idle] _ rfl
  revert hle
  decide

end ClusterTransport.DiscoveryTask
