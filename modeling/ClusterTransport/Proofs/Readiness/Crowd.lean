import ClusterTransport.Proofs.Runs
import ClusterTransport.Readiness
import Mathlib.Logic.Function.Iterate

/-!
# A crowd at the gate

Callers come to a gate, each at its own time. A caller reads the gate, sets a timer if the gate is
pending, and reads it again when it has settled or the timer has ended. Between any two steps of a
caller the gate may settle, and other callers may take steps of theirs. No time passes while some
caller can take a step, and never more than a caller has to wait.
-/

namespace ClusterTransport

theorem Timers.run_zero (c : Timers) : c.run 0 = 0 := by
  unfold run
  split
  · rfl
  · exact Nat.zero_min _

namespace Readiness

inductive Stage where
  /-- The caller has not read the gate yet. -/
  | coming
  /-- The gate was pending, and the timer is to be set. -/
  | setting
  | waiting (deadline : Instant)
  /-- The timer has ended, and the gate is to be read once more. -/
  | leaving
  | gone (left : Instant) (opened : Bool)
deriving DecidableEq, Repr

namespace Stage

/-- The most steps that are left. -/
def rank : Stage → Nat
  | coming => 4
  | setting => 3
  | waiting _ => 2
  | leaving => 1
  | gone .. => 0

def isGone : Stage → Bool
  | gone .. => true
  | _ => false

def ofWait (now : Instant) : Wait → Stage
  | .until deadline => waiting deadline
  | .over opened => gone now opened

end Stage

structure Caller where
  came : Instant
  timeout : Span
  stage : Stage := .coming
deriving DecidableEq, Repr

namespace Caller

variable {timers : Timers} {g : Readiness} {now : Instant} {c d : Caller} {stage : Stage}

def next? (timers : Timers) (g : Readiness) (now : Instant) (c : Caller) : Option Stage :=
  match c.stage with
  | .coming =>
    if now < c.came then none
    else if g.isSettled ∨ c.timeout = 0 then some (.gone now g.isReady)
    else some .setting
  | .setting => some (.waiting (now + timers.run c.timeout))
  | .waiting deadline =>
    if g.isSettled then some (.gone now g.isReady)
    else if deadline ≤ now then some .leaving
    else none
  | .leaving => some (.gone now g.isReady)
  | .gone .. => none

def step (timers : Timers) (g : Readiness) (now : Instant) (c : Caller) : Option Caller :=
  (c.next? timers g now).map fun stage => { c with stage }

/-- The instant beyond which a caller does not let time pass that cannot take a step. -/
def due? (c : Caller) : Option Instant :=
  match c.stage with
  | .coming => some c.came
  | .waiting deadline => some deadline
  | _ => none

inductive Next (timers : Timers) (g : Readiness) (now : Instant) (c : Caller) :
    Stage → Stage → Prop where
  | passing (hcame : c.came ≤ now) (hwhy : g ≠ .pending ∨ c.timeout = 0) :
      Next timers g now c .coming (.gone now g.isReady)
  | staying (hcame : c.came ≤ now) (hgate : g = .pending) : Next timers g now c .coming .setting
  | setting : Next timers g now c .setting (.waiting (now + timers.run c.timeout))
  | woken {deadline : Instant} (hgate : g ≠ .pending) :
      Next timers g now c (.waiting deadline) (.gone now g.isReady)
  | expired {deadline : Instant} (hgate : g = .pending) (hlate : deadline ≤ now) :
      Next timers g now c (.waiting deadline) .leaving
  | leaving : Next timers g now c .leaving (.gone now g.isReady)

private theorem next_of_next? (h : c.next? timers g now = some stage) :
    Next timers g now c c.stage stage := by
  obtain ⟨came, timeout, before⟩ := c
  cases before with
  | coming =>
    simp only [next?, isSettled, decide_eq_true_eq, Option.ite_none_left_eq_some] at h
    obtain ⟨hcame, h⟩ := h
    split at h
    next hwhy =>
      cases h
      exact .passing (Nat.le_of_not_lt hcame) hwhy
    next hstays =>
      cases h
      exact .staying (Nat.le_of_not_lt hcame) (not_not.mp (not_or.mp hstays).1)
  | setting =>
    cases h
    exact .setting
  | waiting deadline =>
    simp only [next?, isSettled, decide_eq_true_eq] at h
    split at h
    next hgate =>
      cases h
      exact .woken hgate
    next hgate =>
      simp only [Option.ite_none_right_eq_some] at h
      obtain ⟨hlate, h⟩ := h
      cases h
      exact .expired (not_not.mp hgate) hlate
  | leaving =>
    cases h
    exact .leaving
  | gone left opened => cases h

theorem next_of_step (h : c.step timers g now = some d) :
    ∃ stage, d = { c with stage } ∧ Next timers g now c c.stage stage := by
  obtain ⟨stage, hnext, rfl⟩ := Option.map_eq_some_iff.mp h
  exact ⟨stage, rfl, next_of_next? hnext⟩

theorem Next.rank_lt {before after : Stage} (h : Next timers g now c before after) :
    after.rank < before.rank := by
  cases h <;> simp [Stage.rank]

/-- A caller takes no step before it comes, while its timer runs and the gate is pending, and once
it is gone. -/
theorem step_eq_none_iff : c.step timers g now = none ↔
    match c.stage with
    | .coming => now < c.came
    | .waiting deadline => g = .pending ∧ now < deadline
    | .gone .. => True
    | _ => False := by
  obtain ⟨came, timeout, stage⟩ := c
  rw [step, Option.map_eq_none_iff]
  cases stage with
  | coming =>
    simp only [next?, ite_eq_left_iff]
    refine ⟨fun h => ?_, fun h hnot => absurd h hnot⟩
    by_contra hcame
    have hnone := h hcame
    split at hnone <;> cases hnone
  | waiting deadline => cases g <;> simp [next?, isSettled]
  | _ => simp [next?]

def advance (timers : Timers) (g : Readiness) (now : Instant) (c : Caller) : Caller :=
  (c.step timers g now).getD c

private theorem advance_of_next? (h : c.next? timers g now = some stage) :
    c.advance timers g now = { c with stage } := by
  simp [advance, step, h]

private theorem advance_gone {came left : Instant} {timeout : Span} {opened : Bool} (n : Nat) :
    (advance timers g now)^[n] ⟨came, timeout, .gone left opened⟩ =
      ⟨came, timeout, .gone left opened⟩ :=
  Function.iterate_fixed rfl n

/-- A waiting caller whose steps nothing interrupts does what it does when it looks again. -/
theorem iterate_advance_waiting (came deadline : Instant) (timeout : Span) :
    (advance timers g now)^[2] ⟨came, timeout, .waiting deadline⟩ =
      ⟨came, timeout, .ofWait now (g.look now (.until deadline))⟩ := by
  by_cases hgate : g.isSettled = true
  · have hfirst : advance timers g now ⟨came, timeout, .waiting deadline⟩ =
        ⟨came, timeout, .gone now g.isReady⟩ :=
      advance_of_next? (by simp [next?, hgate])
    rw [Function.iterate_succ_apply, hfirst, advance_gone]
    simp [look, hgate, Stage.ofWait]
  · by_cases hlate : deadline ≤ now
    · have hfirst : advance timers g now ⟨came, timeout, .waiting deadline⟩ =
          ⟨came, timeout, .leaving⟩ :=
        advance_of_next? (by simp [next?, hgate, hlate])
      rw [Function.iterate_succ_apply, hfirst]
      simp [look, hlate, Stage.ofWait, advance, step, next?]
    · have hfirst : advance timers g now ⟨came, timeout, .waiting deadline⟩ =
          ⟨came, timeout, .waiting deadline⟩ := by
        simp [advance, step, next?, hgate, hlate]
      rw [Function.iterate_fixed hfirst]
      simp [look, hgate, hlate, Stage.ofWait]

/-- A caller that comes and whose steps nothing interrupts does what it does when it arrives. -/
theorem iterate_advance_coming {came : Instant} (timeout : Span) (hcame : came ≤ now) :
    (advance timers g now)^[4] ⟨came, timeout, .coming⟩ =
      ⟨came, timeout, .ofWait now (g.arrive now (timers.run timeout))⟩ := by
  have hnot : ¬ now < came := Nat.not_lt.mpr hcame
  by_cases hwhy : g.isSettled ∨ timeout = 0
  · have hfirst : advance timers g now ⟨came, timeout, .coming⟩ =
        ⟨came, timeout, .gone now g.isReady⟩ :=
      advance_of_next? (by simp [next?, hnot, hwhy])
    have hover : (g.isSettled || timers.run timeout = 0) = true := by
      rcases hwhy with hgate | hzero
      · simp [hgate]
      · simp [hzero, Timers.run_zero]
    rw [Function.iterate_succ_apply, hfirst, advance_gone]
    simp only [arrive, hover, if_true, Stage.ofWait]
  · have hfirst : advance timers g now ⟨came, timeout, .coming⟩ = ⟨came, timeout, .setting⟩ :=
      advance_of_next? (by simp [next?, hnot, hwhy])
    have hsecond : advance timers g now ⟨came, timeout, .setting⟩ =
        ⟨came, timeout, .waiting (now + timers.run timeout)⟩ :=
      advance_of_next? rfl
    have hgate : g.isSettled = false := by simpa using (not_or.mp hwhy).1
    rw [Function.iterate_succ_apply, hfirst, Function.iterate_succ_apply, hsecond,
      iterate_advance_waiting]
    -- a timer that is set to some time and runs for none has ended at once
    by_cases hzero : timers.run timeout = 0
    · simp [arrive, look, hgate, hzero]
    · have hlater : ¬ now + timers.run timeout ≤ now := by lia
      simp [arrive, look, hgate, hzero, hlater]

end Caller

structure Crowd where
  timers : Timers := {}
  now : Instant := 0
  gate : Readiness := .pending
  /-- When the gate was signalled or closed for the first time. -/
  settledAt : Option Instant := none
  callers : List Caller
deriving DecidableEq, Repr

namespace Crowd

inductive Move where
  | signal
  | close
  | step (i : Nat)
  /-- Time passes while all callers have to wait. -/
  | pass (d : Span)
deriving DecidableEq, Repr

/-- How a move leaves a gate that is pending, if it settles it. -/
def Move.outcome? : Move → Option Readiness
  | signal => some .ready
  | close => some .closed
  | _ => none

/-- The move as it is made if one caller is alone at the gate. -/
def Move.seenBy (i : Nat) : Move → Option Move
  | step j => if j = i then some (step 0) else none
  | m => some m

def start (timers : Timers) (plan : List (Instant × Span)) : Crowd :=
  { timers, callers := plan.map fun p => { came := p.1, timeout := p.2 } }

def settle (s : Crowd) (gate : Readiness) : Crowd :=
  { s with gate, settledAt := s.settledAt.or (some s.now) }

def lets (s : Crowd) (d : Span) (c : Caller) : Bool :=
  (c.step s.timers s.gate s.now).isNone && c.due?.all fun due => s.now + d ≤ due

def move (s : Crowd) : Move → Option Crowd
  | .signal => some (s.settle s.gate.signal)
  | .close => some (s.settle s.gate.close)
  | .step i => s.callers[i]?.bind fun c =>
    (c.step s.timers s.gate s.now).map fun c => { s with callers := s.callers.set i c }
  | .pass d => if s.callers.all (s.lets d) then some { s with now := s.now + d } else none

def run (s : Crowd) (ms : List Move) : Option Crowd :=
  ms.foldlM move s

variable {s t u : Crowd} {m : Move} {ms : List Move} {i : Nat} {d : Span}

theorem move_step {c e : Caller} (hc : s.callers[i]? = some c)
    (he : c.step s.timers s.gate s.now = some e) :
    s.move (.step i) = some { s with callers := s.callers.set i e } := by
  simp [move, hc, he]

theorem step_of_move (h : s.move (.step i) = some t) :
    ∃ c stage, s.callers[i]? = some c ∧ c.Next s.timers s.gate s.now c.stage stage ∧
      t = { s with callers := s.callers.set i { c with stage } } := by
  obtain ⟨c, hc, hmap⟩ := Option.bind_eq_some_iff.mp h
  obtain ⟨e, he, rfl⟩ := Option.map_eq_some_iff.mp hmap
  obtain ⟨stage, rfl, hnext⟩ := Caller.next_of_step he
  exact ⟨c, stage, hc, hnext, rfl⟩

theorem pass_of_move (h : s.move (.pass d) = some t) :
    (∀ c ∈ s.callers, s.lets d c = true) ∧ t = { s with now := s.now + d } := by
  simp only [move, Option.ite_none_right_eq_some, List.all_eq_true] at h
  exact ⟨h.1, (Option.some.inj h.2).symm⟩

theorem gate_of_move (h : s.move m = some t) :
    t.gate = if s.gate = .pending then m.outcome?.getD .pending else s.gate := by
  cases m with
  | signal =>
    cases h
    cases s.gate <;> simp [settle, signal, Move.outcome?]
  | close =>
    cases h
    cases s.gate <;> simp [settle, close, Move.outcome?]
  | step i =>
    obtain ⟨c, stage, _, _, rfl⟩ := step_of_move h
    cases s.gate <;> simp [Move.outcome?]
  | pass d =>
    obtain ⟨_, rfl⟩ := pass_of_move h
    cases s.gate <;> simp [Move.outcome?]

theorem settledAt_of_move (h : s.move m = some t) :
    t.settledAt = s.settledAt.or (m.outcome?.map fun _ => s.now) := by
  cases m with
  | signal => cases h; rfl
  | close => cases h; rfl
  | step i =>
    obtain ⟨c, stage, _, _, rfl⟩ := step_of_move h
    simp [Move.outcome?]
  | pass d =>
    obtain ⟨_, rfl⟩ := pass_of_move h
    simp [Move.outcome?]

theorem timers_of_move (h : s.move m = some t) : t.timers = s.timers := by
  cases m with
  | signal => cases h; rfl
  | close => cases h; rfl
  | step i =>
    obtain ⟨c, stage, _, _, rfl⟩ := step_of_move h
    rfl
  | pass d =>
    obtain ⟨_, rfl⟩ := pass_of_move h
    rfl

/-- The gate is pending until the first signal or close, and stays as that has left it. -/
def Settles (s : Crowd) (ms : List Move) (t : Crowd) : Prop :=
  ((∀ m ∈ ms, m.outcome? = none) ∧ t.gate = .pending ∧ t.settledAt = none) ∨
  ∃ first m rest u, ms = first ++ m :: rest ∧ (∀ m' ∈ first, m'.outcome? = none) ∧
    s.run first = some u ∧ m.outcome? = some t.gate ∧ t.settledAt = some u.now

private theorem Move.outcome?_ne_pending : m.outcome? ≠ some .pending := by
  cases m <;> simp [outcome?]

theorem settles_of_run (hpending : s.gate = .pending) (hnever : s.settledAt = none)
    (hrun : s.run ms = some t) : s.Settles ms t := by
  refine foldlM_induction (fun ms t => s.Settles ms t) (.inl ⟨nofun, hpending, hnever⟩) ?_ hrun
  intro ms u m t hms hu hm
  have hgate := gate_of_move hm
  have hsettled := settledAt_of_move hm
  rcases hu with ⟨hnone, hpending, hnever⟩ | ⟨first, m', rest, v, rfl, hnone, hfirst, hm', hwhen⟩
  · simp only [hpending, if_true] at hgate
    simp only [hnever, Option.none_or] at hsettled
    cases hm : m.outcome? with
    | none =>
      refine .inl ⟨?_, by simp [hgate, hm], by simp [hsettled, hm]⟩
      intro m' hmem
      rcases List.mem_append.mp hmem with hmem | hmem
      · exact hnone m' hmem
      · exact List.mem_singleton.mp hmem ▸ hm
    | some g =>
      exact .inr ⟨ms, m, [], u, rfl, hnone, hms, by simp [hgate, hm], by simp [hsettled, hm]⟩
  · have hfixed : u.gate ≠ .pending := fun h => Move.outcome?_ne_pending (h ▸ hm')
    rw [if_neg hfixed] at hgate
    refine .inr ⟨first, m', rest ++ [m], v, by simp, hnone, hfirst, hgate ▸ hm', ?_⟩
    simp [hsettled, hwhen]

def alone (s : Crowd) (i : Nat) : Crowd :=
  { s with callers := s.callers[i]?.toList }

theorem alone_start (timers : Timers) {plan : List (Instant × Span)} {p : Instant × Span}
    (h : plan[i]? = some p) : (start timers plan).alone i = start timers [p] := by
  simp [alone, start, h]

private theorem all_alone {p : Caller → Bool} (h : ∀ c ∈ s.callers, p c = true) :
    ((s.alone i).callers.all p) = true := by
  rw [List.all_eq_true]
  intro c hc
  exact h c (List.mem_of_getElem? (Option.mem_toList.mp hc))

/-- The moves of the other callers do nothing to a caller and its gate, and all other moves can be
made without them. -/
theorem move_alone (h : s.move m = some t) :
    match m.seenBy i with
    | none => t.alone i = s.alone i
    | some m' => (s.alone i).move m' = some (t.alone i) := by
  cases m with
  | signal => cases h; rfl
  | close => cases h; rfl
  | pass d =>
    obtain ⟨hlets, rfl⟩ := pass_of_move h
    simp only [Move.seenBy, move]
    exact if_pos (all_alone hlets)
  | step j =>
    obtain ⟨c, hc, hmap⟩ := Option.bind_eq_some_iff.mp h
    obtain ⟨e, he, rfl⟩ := Option.map_eq_some_iff.mp hmap
    by_cases hj : j = i
    · subst hj
      have hset : (s.callers.set j e)[j]? = some e :=
        List.getElem?_set_self (List.getElem?_eq_some_iff.mp hc).1
      simp [Move.seenBy, move, alone, hc, he, hset]
    · simp [Move.seenBy, alone, hj, List.getElem?_set_ne hj]

/-- Without the other callers a run goes the same way for a caller. -/
theorem run_alone (hrun : s.run ms = some t) :
    (s.alone i).run (ms.filterMap (Move.seenBy i)) = some (t.alone i) := by
  refine foldlM_induction
    (fun ms t => (s.alone i).run (ms.filterMap (Move.seenBy i)) = some (t.alone i)) rfl ?_ hrun
  intro ms u m t _ hu hm
  have hlast := move_alone (i := i) hm
  rw [List.filterMap_append]
  cases hseen : m.seenBy i with
  | none =>
    simp only [hseen] at hlast
    simp [hseen, hlast, hu]
  | some m' =>
    simp only [hseen] at hlast
    refine foldlM_trans hu ?_
    simp [hseen, hlast]

end Crowd

end Readiness

end ClusterTransport
