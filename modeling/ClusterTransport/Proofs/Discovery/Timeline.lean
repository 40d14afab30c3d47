import ClusterTransport.Discovery.Run
import ClusterTransport.Proofs.Discovery.Steps
import ClusterTransport.Proofs.Runs

/-!
# The timeline of discovery

One loop by a clock that no timer outruns: time passes only while the loop has to wait, and not
beyond the instant that it waits for. What the loop does then follows from the replies of the
service and from what the handler says when it is asked.
-/

namespace ClusterTransport

inductive LoopEvent (σ : Type) where
  | called (number : Nat)
  | adopted (result : DiscoveryResult)
  /-- The handler, which was in this state, was asked whether the next round is urgent. -/
  | asked (state : σ)
deriving DecidableEq

abbrev Timeline (σ : Type) := List (Instant × LoopEvent σ)

def LoopEvent.adopted? {σ : Type} : LoopEvent σ → Option DiscoveryResult
  | adopted result => some result
  | _ => none

def Timeline.results {σ : Type} (timeline : Timeline σ) : List DiscoveryResult :=
  timeline.filterMap fun entry => entry.2.adopted?

/-- The state of a handler that adopts what a timeline says and that nothing else changes. -/
def DiscoveryHandler.follow {σ : Type} (h : DiscoveryHandler σ) (state : σ)
    (timeline : Timeline σ) : σ :=
  timeline.results.foldl (fun state result => h.adopt result state) state

private theorem DiscoveryHandler.follow_append {σ : Type} (h : DiscoveryHandler σ) (state : σ)
    (before after : Timeline σ) :
    h.follow state (before ++ after) = h.follow (h.follow state before) after := by
  simp only [follow, Timeline.results, List.filterMap_append, List.foldl_append]

namespace DiscoveryReply

/-- When a round ends: when its answer comes or when its time is up, whichever is first. -/
def ending (r : DiscoveryReply) (timeout : Span) (begun : Instant) : Instant :=
  begun + r.delay.elim timeout (min timeout)

/-- What is adopted of a round: a result that names endpoints and comes in time. -/
def adopted? (r : DiscoveryReply) (timeout : Span) : Option DiscoveryResult :=
  match r.delay, r.answer with
  | some delay, .ok result => if delay ≤ timeout ∧ result.endpoints ≠ [] then some result else none
  | _, _ => none

end DiscoveryReply

namespace DiscoverySettings

def roundTimeout (s : DiscoverySettings) : Span :=
  Span.seconds s.timeout.toNat

variable {σ : Type} (h : DiscoveryHandler σ) (replies : Nat → DiscoveryReply)

def pause (s : DiscoverySettings) (urgent : Bool) : Span :=
  Span.seconds (if urgent then s.minPeriod else s.period).toNat

/-- The timeline of so many rounds, of which the first has a number and begins at an instant, by the
states in which the handler is asked at the end of each of them. -/
def timeline (s : DiscoverySettings) : List σ → Nat → Instant → Timeline σ
  | [], _, _ => []
  | asked :: rest, number, begun =>
    let ended := (replies number).ending s.roundTimeout begun
    (begun, .called number) ::
      (((replies number).adopted? s.roundTimeout).toList.map fun r => (ended, .adopted r)) ++
      (ended, .asked asked) :: timeline s rest (number + 1) (ended + s.pause (h.isUrgent asked))

def closing (s : DiscoverySettings) (ended : Instant) (result : Option DiscoveryResult) (asked : σ)
    (rest : List σ) (number : Nat) : Timeline σ :=
  (result.toList.map fun r => (ended, .adopted r)) ++
    (ended, .asked asked) :: s.timeline h replies rest number (ended + s.pause (h.isUrgent asked))

end DiscoverySettings

namespace DiscoveryTask

def answerOf (replies : Nat → DiscoveryReply) (now : Instant) :
    Round → Option (Except Error DiscoveryResult)
  | .awaiting call since =>
    (replies call).delay.bind fun delay =>
      if since + delay ≤ now then some (replies call).answer else none
  | _ => none

def waitsFor (t : DiscoveryTask) (replies : Nat → DiscoveryReply) : Round → Option Instant
  | .awaiting call since => some ((replies call).ending t.timeout since)
  | .sleeping wake => some wake
  | _ => none

private theorem answerAt_eq (script : List DiscoveryReply) (now : Instant) (r : Round) :
    answerAt script now r = answerOf (DiscoveryReply.ofCall script) now r := by
  cases r with
  | awaiting call since =>
    simp only [answerAt, answerOf, DiscoveryReply.arrival?]
    cases (DiscoveryReply.ofCall script call).delay <;> rfl
  | _ => rfl

private theorem dueOf_eq (t : DiscoveryTask) (script : List DiscoveryReply) (r : Round) :
    t.dueOf script r = t.waitsFor (DiscoveryReply.ofCall script) r := by
  cases r with
  | awaiting call since =>
    simp only [dueOf, waitsFor, DiscoveryReply.arrival?, DiscoveryReply.ending]
    cases (DiscoveryReply.ofCall script call).delay with
    | none => rfl
    | some delay => simp [Nat.add_min_add_left]
  | _ => rfl

/-- A task with its loop, its handler and its clock, and what showed of the loop. -/
structure Pacing (σ : Type) where
  task : DiscoveryTask
  state : σ
  now : Instant := 0
  timeline : Timeline σ := []

namespace Pacing

variable {σ : Type} (h : DiscoveryHandler σ) (replies : Nat → DiscoveryReply)

inductive Move (σ : Type) where
  | step
  | pass (d : Span)
  /-- The state of the handler changes by what others do. -/
  | change (state : σ)

def Move.isChange : Move σ → Bool
  | change _ => true
  | _ => false

def round? (s : Pacing σ) : Option Round :=
  s.task.loops[0]?

/-- What the loop sees. The handler takes a result at once. -/
def view (s : Pacing σ) : RoundView :=
  { now := s.now
    answer := s.round?.bind (answerOf replies s.now)
    handled := true
    urgent := h.isUrgent s.state
    stopFirst := true }

def shows (s : Pacing σ) : Option RoundAction → Option (LoopEvent σ)
  | some (.call number) => some (.called number)
  | some (.handOver result) => some (.adopted result)
  | none =>
    match s.round? with
    | some .asking => some (.asked s.state)
    | _ => none

def stateAfter (s : Pacing σ) : Option RoundAction → σ
  | some (.handOver result) => h.adopt result s.state
  | _ => s.state

def step (s : Pacing σ) : Option (Pacing σ) :=
  (s.task.stepLoop (s.view h replies) 0).map fun r =>
    { s with
      task := r.1
      state := s.stateAfter h r.2
      timeline := s.timeline ++ (s.shows r.2).toList.map fun event => (s.now, event) }

def move (s : Pacing σ) : Move σ → Option (Pacing σ)
  | .step => s.step h replies
  | .pass d =>
    if (s.step h replies).isNone &&
        (s.round?.bind (s.task.waitsFor replies)).all fun due => s.now + d ≤ due then
      some { s with now := s.now + d }
    else none
  | .change state => some { s with state }

def run (s : Pacing σ) (ms : List (Move σ)) : Option (Pacing σ) :=
  ms.foldlM (move h replies) s

def start (settings : DiscoverySettings) (state : σ) : Pacing σ :=
  { task := (({ settings } : DiscoveryTask).start true).1, state }

/-- What is left of the timeline, by the states in which the handler is going to be asked. -/
def ahead (settings : DiscoverySettings) (calls : Nat) (now : Instant) (asked : σ)
    (rest : List σ) : Round → Timeline σ
  | .calling => settings.timeline h replies (asked :: rest) calls now
  | .awaiting number begun =>
    settings.closing h replies ((replies number).ending settings.roundTimeout begun)
      ((replies number).adopted? settings.roundTimeout) asked rest calls
  | .answered outcome => settings.closing h replies now outcome.toOption asked rest calls
  | .locking result => settings.closing h replies now (some result) asked rest calls
  | .rechecking result => settings.closing h replies now (some result) asked rest calls
  | .handing _ => settings.closing h replies now none asked rest calls
  | .asking => settings.closing h replies now none asked rest calls
  | .sleeping wake => settings.timeline h replies (asked :: rest) calls wake
  | .ended => []

def IsOnTime (settings : DiscoverySettings) (replies : Nat → DiscoveryReply) (calls : Nat)
    (now : Instant) : Round → Prop
  | .awaiting number begun =>
    number + 1 = calls ∧ now ≤ (replies number).ending settings.roundTimeout begun
  | .sleeping wake => now ≤ wake
  | .ended => False
  | _ => True

/-- A loop that has made so many calls, and whose handler was asked in these states. -/
structure Paced (settings : DiscoverySettings) (s : Pacing σ) (r : Round) (calls : Nat)
    (past : List σ) : Prop where
  task : s.task = { settings, isLocked := r.holdsLock, handle := some 0, loops := [r], calls }
  onTime : IsOnTime settings replies calls s.now r
  timeline : ∀ asked rest, s.timeline ++ ahead h replies settings calls s.now asked rest r =
    settings.timeline h replies (past ++ asked :: rest) 0 0

section Script

variable (script : List DiscoveryReply)

private theorem view_ofCall (s : Pacing σ) :
    s.view h (DiscoveryReply.ofCall script) =
      { now := s.now
        answer := (s.task.loops[0]?).bind (answerAt script s.now)
        handled := true
        urgent := h.isUrgent s.state
        stopFirst := true } := by
  rw [view, round?, funext (answerAt_eq script s.now)]

theorem exists_run_of_runLoop (fuel : Nat) (s : Pacing σ) (actions : List (Instant × RoundAction)) :
    let r := Running.runLoop h script s.now 0 fuel { task := s.task, state := s.state, actions }
    ∃ n t, s.run h (DiscoveryReply.ofCall script) (List.replicate n .step) = some t ∧
      t.task = r.task ∧ t.state = r.state ∧ t.now = s.now := by
  -- the actions before do not matter, so the hypothesis is about any
  induction fuel generalizing s actions with
  | zero => exact ⟨0, s, rfl, rfl, rfl, rfl⟩
  | succ fuel ih =>
    have hview := view_ofCall h script s
    simp only [Running.runLoop, ← hview]
    cases hstep : s.task.stepLoop (s.view h (DiscoveryReply.ofCall script)) 0 with
    | none => exact ⟨0, s, rfl, rfl, rfl, rfl⟩
    | some r =>
      obtain ⟨task, action⟩ := r
      have hmove : ∃ u, s.move h (DiscoveryReply.ofCall script) .step = some u ∧ u.task = task ∧
          u.state = s.stateAfter h action ∧ u.now = s.now := by
        simp [move, step, hstep]
      obtain ⟨u, hu, htask, hstate, hnow⟩ := hmove
      have hmore (actions : List (Instant × RoundAction)) :
          let r := Running.runLoop h script s.now 0 fuel
            { task, state := s.stateAfter h action, actions }
          ∃ n t, s.run h (DiscoveryReply.ofCall script) (List.replicate n .step) = some t ∧
            t.task = r.task ∧ t.state = r.state ∧ t.now = s.now := by
        obtain ⟨n, t, hrun, hends⟩ := ih u actions
        rw [htask, hstate, hnow] at hends
        exact ⟨n + 1, t, foldlM_cons_of_move hu hrun, hends⟩
      cases action with
      | none => exact hmore actions
      | some action =>
        cases action with
        | call number => exact hmore _
        | handOver result => exact hmore _

/-- A clock that stops when a loop is due makes moves of a run as well. -/
theorem move_pass_of_dues (s : Pacing σ) (d : Span)
    (hwaits : s.step h (DiscoveryReply.ofCall script) = none)
    (hdues : ∀ due ∈ s.task.dues script, s.now + d ≤ due) :
    s.move h (DiscoveryReply.ofCall script) (.pass d) = some { s with now := s.now + d } := by
  have hall : (s.round?.bind (s.task.waitsFor (DiscoveryReply.ofCall script))).all
      (fun due => s.now + d ≤ due) = true := by
    rw [Option.all_eq_true]
    intro due hdue
    obtain ⟨r, hr, hwaits⟩ := Option.bind_eq_some_iff.mp hdue
    rw [← dueOf_eq] at hwaits
    have hmem : due ∈ s.task.dues script :=
      List.mem_filterMap.mpr ⟨r, List.mem_of_getElem? hr, hwaits⟩
    exact decide_eq_true (hdues due hmem)
  simp only [move, hwaits, Option.isNone_none, Bool.true_and]
  exact if_pos hall

end Script

variable {settings : DiscoverySettings} {h replies} {s t : Pacing σ} {r : Round} {calls : Nat}
  {past : List σ}

theorem paced_start (state : σ) : Paced h replies settings (start settings state) .calling 0 [] :=
  ⟨rfl, trivial, fun _ _ => rfl⟩

theorem Paced.exists_next (hs : Paced h replies settings s r calls past) :
    ∃ asked next rest, settings.timeline h replies asked 0 0 = s.timeline ++ next :: rest ∧
      s.now ≤ next.1 := by
  have htimeline := hs.timeline s.state []
  have hon := hs.onTime
  suffices hahead : ∃ next rest, ahead h replies settings calls s.now s.state [] r = next :: rest ∧
      s.now ≤ next.1 by
    obtain ⟨next, rest, heq, hle⟩ := hahead
    rw [heq] at htimeline
    exact ⟨_, next, rest, htimeline.symm, hle⟩
  have hclosing : ∀ ended result, s.now ≤ ended → ∃ next rest,
      settings.closing h replies ended result s.state [] calls = next :: rest ∧ s.now ≤ next.1 := by
    intro ended result hle
    cases result with
    | none => exact ⟨_, _, rfl, hle⟩
    | some result => exact ⟨_, _, rfl, hle⟩
  cases r with
  | calling => exact ⟨_, _, rfl, Nat.le_refl _⟩
  | sleeping wake => exact ⟨_, _, rfl, hon⟩
  | awaiting number begun => exact hclosing _ _ hon.2
  | ended => exact hon.elim
  | _ => exact hclosing _ _ (Nat.le_refl _)

section Outcome

variable {t : DiscoveryTask} {number : Nat} {begun : Instant} {v : RoundView}

private theorem timeout_eq (htimers : t.timers = {}) : t.timeout = t.settings.roundTimeout := by
  rw [timeout, htimers]
  rfl

variable (htimers : t.timers = {})
  (hanswer : v.answer = answerOf replies v.now (.awaiting number begun))
include htimers hanswer

private theorem outcome?_of_early
    (hearly : v.now < (replies number).ending t.settings.roundTimeout begun) :
    t.outcome? v begun = none := by
  simp only [DiscoveryReply.ending, ← timeout_eq htimers] at hearly
  simp only [answerOf] at hanswer
  cases hdelay : (replies number).delay with
  | none =>
    simp only [hdelay, Option.bind_none, Option.elim_none] at hanswer hearly
    simp [outcome?, hanswer, Nat.not_le_of_lt hearly]
  | some delay =>
    simp only [hdelay, Option.bind_some, Option.elim_some] at hanswer hearly
    rw [← Nat.add_min_add_left, Nat.lt_min] at hearly
    obtain ⟨hrunning, hcoming⟩ := hearly
    rw [if_neg (Nat.not_le_of_lt hcoming)] at hanswer
    simp [outcome?, hanswer, Nat.not_le_of_lt hrunning]

private theorem outcome?_of_ending
    (hnow : v.now = (replies number).ending t.settings.roundTimeout begun) :
    ∃ outcome, t.outcome? v begun = some outcome ∧
      outcome.toOption = (replies number).adopted? t.settings.roundTimeout := by
  have htimedOut : v.answer = none → v.now = begun + t.timeout →
      t.outcome? v begun = some (.error (.timeout (.round t.settings.timeout))) := by
    intro hnone hover
    simp [outcome?, hnone, hover]
  simp only [DiscoveryReply.ending, ← timeout_eq htimers] at hnow ⊢
  simp only [answerOf] at hanswer
  cases hdelay : (replies number).delay with
  | none =>
    simp only [hdelay, Option.bind_none, Option.elim_none] at hanswer hnow
    refine ⟨_, htimedOut hanswer hnow, ?_⟩
    simp [DiscoveryReply.adopted?, hdelay, Except.toOption]
  | some delay =>
    simp only [hdelay, Option.bind_some, Option.elim_some] at hanswer hnow
    by_cases hle : delay ≤ t.timeout
    · -- the answer comes in time, if only at the last moment
      rw [Nat.min_eq_right hle] at hnow
      rw [if_pos (Nat.le_of_eq hnow.symm)] at hanswer
      refine ⟨outcomeOf (replies number).answer, by simp [outcome?, hanswer], ?_⟩
      cases hreply : (replies number).answer with
      | error e => simp [outcomeOf, DiscoveryReply.adopted?, hdelay, hreply, Except.toOption]
      | ok result =>
        by_cases hempty : result.endpoints = []
        · simp [outcomeOf, DiscoveryReply.adopted?, hdelay, hreply, hempty, Except.toOption]
        · simp [outcomeOf, DiscoveryReply.adopted?, hdelay, hreply, hempty, hle, Except.toOption]
    · rw [Nat.min_eq_left (Nat.le_of_not_le hle)] at hnow
      have hcoming : v.now < begun + delay := by
        rw [hnow]
        exact Nat.add_lt_add_left (Nat.lt_of_not_le hle) begun
      rw [if_neg (Nat.not_le_of_lt hcoming)] at hanswer
      refine ⟨_, htimedOut hanswer hnow, ?_⟩
      cases hreply : (replies number).answer with
      | error e => simp [DiscoveryReply.adopted?, hdelay, hreply, Except.toOption]
      | ok result => simp [DiscoveryReply.adopted?, hdelay, hreply, hle, Except.toOption]

end Outcome

/-- How many steps there are to one that shows, apart from those that wait. -/
def rank : Round → Nat
  | .awaiting .. => 3
  | .answered _ => 2
  | .locking _ => 1
  | .handing _ => 1
  | .sleeping _ => 1
  | _ => 0

private theorem step_of_stepRound {u : DiscoveryTask} {r' : Round} {action : Option RoundAction}
    (hstep : s.task.stepRound (s.view h replies) r = some (u, r', action))
    (hloops : s.task.loops = [r]) (hu : u.loops = [r]) :
    s.step h replies = some { s with
      task := { u with loops := [r'] }
      state := s.stateAfter h action
      timeline := s.timeline ++ (s.shows action).toList.map fun event => (s.now, event) } := by
  have hr : s.task.loops[0]? = some r := by rw [hloops]; rfl
  simp only [step, stepLoop_of_stepRound hr hstep, Option.map_some, hu, List.set_cons_zero]

private theorem step_eq_none_of_stepRound (hloops : s.task.loops = [r])
    (hstep : s.task.stepRound (s.view h replies) r = none) : s.step h replies = none := by
  simp [step, stepLoop, hloops, hstep]

/-- The loop takes a step at once, to something that shows or nearer to it. -/
def Proceeds (h : DiscoveryHandler σ) (replies : Nat → DiscoveryReply)
    (settings : DiscoverySettings) (s : Pacing σ) (r : Round) : Prop :=
  ∃ t r' calls past, s.step h replies = some t ∧ t.now = s.now ∧
    Paced h replies settings t r' calls past ∧
    (s.timeline.length < t.timeline.length ∨ t.timeline = s.timeline ∧ rank r' < rank r)

private theorem Paced.proceeds_showing (hs : Paced h replies settings s r calls past)
    {action : Option RoundAction} {event : LoopEvent σ} (r' : Round) (calls' : Nat)
    (past' : List σ)
    (hstep : s.task.stepRound (s.view h replies) r =
      some ({ s.task with isLocked := r'.holdsLock, calls := calls' }, r', action))
    (hshows : s.shows action = some event)
    (hon : IsOnTime settings replies calls' s.now r')
    (hahead : ∀ asked rest,
      s.timeline ++ (s.now, event) :: ahead h replies settings calls' s.now asked rest r' =
        settings.timeline h replies (past' ++ asked :: rest) 0 0) :
    Proceeds h replies settings s r := by
  have hloops : s.task.loops = [r] := by rw [hs.task]
  refine ⟨_, r', calls', past', step_of_stepRound hstep hloops hloops, rfl, ⟨?_, hon, ?_⟩,
    Or.inl ?_⟩
  · simp [hs.task]
  · intro asked rest
    rw [← hahead asked rest]
    simp [hshows]
  · simp [hshows]

private theorem Paced.proceeds_quietly (hs : Paced h replies settings s r calls past) (r' : Round)
    (hstep : s.task.stepRound (s.view h replies) r =
      some ({ s.task with isLocked := r'.holdsLock }, r', none))
    (hshows : s.shows none = none) (hon : IsOnTime settings replies calls s.now r')
    (hahead : ∀ asked rest, ahead h replies settings calls s.now asked rest r' =
      ahead h replies settings calls s.now asked rest r)
    (hrank : rank r' < rank r) : Proceeds h replies settings s r := by
  have hloops : s.task.loops = [r] := by rw [hs.task]
  refine ⟨_, r', calls, past, step_of_stepRound hstep hloops hloops, rfl, ⟨?_, hon, ?_⟩,
    Or.inr ⟨?_, hrank⟩⟩
  · simp [hs.task]
  · intro asked rest
    rw [← hs.timeline asked rest, ← hahead asked rest]
    simp [hshows]
  · simp [hshows]

def Waits (h : DiscoveryHandler σ) (replies : Nat → DiscoveryReply) (s : Pacing σ) (r : Round) :
    Prop :=
  s.step h replies = none ∧ ∃ due, s.task.waitsFor replies r = some due ∧ s.now < due

private theorem Paced.waits_or_proceeds_of_awaiting {number : Nat} {begun : Instant}
    (hs : Paced h replies settings s (.awaiting number begun) calls past) :
    Waits h replies s (.awaiting number begun) ∨
      Proceeds h replies settings s (.awaiting number begun) := by
  have htimers : s.task.timers = {} := by rw [hs.task]
  have hsettings : s.task.settings = settings := by rw [hs.task]
  have hloops : s.task.loops = [.awaiting number begun] := by rw [hs.task]
  have hanswer : (s.view h replies).answer = answerOf replies s.now (.awaiting number begun) := by
    simp [view, round?, hloops]
  rcases Nat.lt_or_eq_of_le hs.onTime.2 with hearly | hended
  · left
    rw [← hsettings] at hearly
    refine ⟨step_eq_none_of_stepRound hloops ?_, _, rfl, ?_⟩
    · rw [stepRound, outcome?_of_early htimers hanswer hearly, Option.map_none]
    · rwa [timeout_eq htimers]
  · right
    rw [← hsettings] at hended
    obtain ⟨outcome, hsome, hadopted⟩ := outcome?_of_ending htimers hanswer hended
    refine hs.proceeds_quietly (.answered outcome) ?_ ?_ trivial ?_ (Nat.lt_succ_self 2)
    · rw [stepRound, hsome, Option.map_some, hs.task]
      rfl
    · simp [shows, round?, hloops]
    · intro asked rest
      simp only [ahead]
      rw [hadopted, hended, hsettings]

private theorem Paced.waits_or_proceeds (hs : Paced h replies settings s r calls past) :
    Waits h replies s r ∨ Proceeds h replies settings s r := by
  have hon := hs.onTime
  have htimeline := hs.timeline
  have htask := hs.task
  obtain ⟨task, state, now, shown⟩ := s
  dsimp only at hon htimeline htask
  subst htask
  -- only a loop that awaits an answer and one that sleeps can have to wait
  cases r with
  | calling =>
    right
    refine hs.proceeds_showing (.awaiting calls now) (calls + 1) past rfl rfl ⟨rfl, ?_⟩ htimeline
    exact Nat.le_add_right ..
  | awaiting number begun => exact hs.waits_or_proceeds_of_awaiting
  | answered outcome =>
    right
    cases outcome with
    | ok result =>
      exact hs.proceeds_quietly (.locking result) rfl rfl trivial (fun _ _ => rfl)
        (Nat.lt_succ_self 1)
    | error e => exact hs.proceeds_quietly .asking rfl rfl trivial (fun _ _ => rfl) Nat.zero_lt_two
  | locking result =>
    right
    exact hs.proceeds_quietly (.rechecking result) rfl rfl trivial (fun _ _ => rfl) Nat.zero_lt_one
  | rechecking result =>
    right
    exact hs.proceeds_showing (.handing result) calls past rfl rfl trivial htimeline
  | handing result =>
    right
    exact hs.proceeds_quietly .asking rfl rfl trivial (fun _ _ => rfl) Nat.zero_lt_one
  | asking =>
    right
    refine hs.proceeds_showing (.sleeping (now + settings.pause (h.isUrgent state))) calls
      (past ++ [state]) rfl rfl ?_ ?_
    · exact Nat.le_add_right ..
    · intro asked rest
      rw [List.append_assoc]
      exact htimeline state (asked :: rest)
  | sleeping wake =>
    rcases Nat.lt_or_eq_of_le hon with hearly | hended
    · left
      refine ⟨step_eq_none_of_stepRound rfl ?_, _, rfl, hearly⟩
      simp [stepRound, view, Nat.not_le_of_lt hearly]
    · right
      refine hs.proceeds_quietly .calling ?_ rfl trivial ?_ Nat.zero_lt_one
      · simp [stepRound, view, hended, Round.holdsLock]
      · intro asked rest
        simp only [ahead]
        rw [hended]
  | ended => exact hon.elim

private theorem Paced.pass (hs : Paced h replies settings s r calls past) {due : Instant} {d : Span}
    (hdue : s.task.waitsFor replies r = some due) (hd : s.now + d ≤ due) :
    Paced h replies settings { s with now := s.now + d } r calls past := by
  have htimeout : s.task.timeout = settings.roundTimeout := by rw [hs.task, timeout_eq rfl]
  cases r with
  | awaiting number begun =>
    refine ⟨hs.task, ⟨hs.onTime.1, ?_⟩, hs.timeline⟩
    rw [← htimeout, Option.some.inj hdue]
    exact hd
  | sleeping wake =>
    refine ⟨hs.task, ?_, hs.timeline⟩
    exact Nat.le_trans hd (Nat.le_of_eq (Option.some.inj hdue).symm)
  | _ => cases hdue

private theorem Paced.round?_eq (hs : Paced h replies settings s r calls past) :
    s.round? = some r := by
  rw [round?, hs.task]
  rfl

theorem Paced.exists_of_move (hs : Paced h replies settings s r calls past) {m : Move σ}
    (hmove : s.move h replies m = some t) :
    ∃ r calls past, Paced h replies settings t r calls past := by
  cases m with
  | step =>
    rcases hs.waits_or_proceeds with hwaits | ⟨u, r', calls', past', hstep, _, hu, _⟩
    · cases hwaits.1.symm.trans hmove
    · obtain rfl := Option.some.inj (hstep.symm.trans hmove)
      exact ⟨r', calls', past', hu⟩
  | pass d =>
    simp only [move, hs.round?_eq, Option.bind_some, Bool.and_eq_true] at hmove
    split at hmove
    next hd =>
      cases hmove
      rcases hs.waits_or_proceeds with ⟨_, due, hdue, _⟩ | ⟨u, _, _, _, hstep, _⟩
      · rw [hdue, Option.all_some, decide_eq_true_eq] at hd
        exact ⟨r, calls, past, hs.pass hdue hd.2⟩
      · rw [hstep] at hd
        cases hd.1
    next => cases hmove
  | change state =>
    cases hmove
    exact ⟨r, calls, past, hs.task, hs.onTime, hs.timeline⟩

theorem exists_paced_of_run {state : σ} {ms : List (Move σ)}
    (hrun : (start settings state).run h replies ms = some s) :
    ∃ r calls past, Paced h replies settings s r calls past := by
  refine foldlM_invariant
    (fun u : Pacing σ => ∃ r calls past, Paced h replies settings u r calls past) ?_
    ⟨_, _, _, paced_start state⟩ hrun
  rintro u m t ⟨r, calls, past, hu⟩ hmove
  exact hu.exists_of_move hmove

private theorem Paced.exists_proceeding (hs : Paced h replies settings s r calls past) :
    ∃ ms t, (∀ m ∈ ms, m.isChange = false) ∧ s.run h replies ms = some t ∧
      t.timeline = s.timeline ∧ Paced h replies settings t r calls past ∧
        Proceeds h replies settings t r := by
  rcases hs.waits_or_proceeds with ⟨hnone, due, hdue, hnow⟩ | hproceeds
  · obtain ⟨d, rfl⟩ := Nat.exists_eq_add_of_le (Nat.le_of_lt hnow)
    have hlater := hs.pass hdue (Nat.le_refl _)
    refine ⟨[.pass d], { s with now := s.now + d }, by simp [Move.isChange], ?_, rfl, hlater, ?_⟩
    · simp [run, move, hnone, hs.round?_eq, hdue]
    · rcases hlater.waits_or_proceeds (h := h) with ⟨_, due', hdue', hnow'⟩ | hproceeds
      · obtain rfl := Option.some.inj (hdue.symm.trans hdue')
        exact absurd hnow' (Nat.lt_irrefl _)
      · exact hproceeds
  · exact ⟨[], s, by simp, rfl, rfl, hs, hproceeds⟩

private theorem Paced.exists_showing (hs : Paced h replies settings s r calls past) :
    ∃ ms t, (∀ m ∈ ms, m.isChange = false) ∧ s.run h replies ms = some t ∧
      s.timeline.length < t.timeline.length ∧
        ∃ r calls past, Paced h replies settings t r calls past := by
  -- by the number of steps to one that shows, of which each that does not show takes one away
  induction hk : rank r using Nat.strongRecOn generalizing s r calls past with
  | ind k ih =>
    obtain ⟨ms, u, hms, hrun, htimeline, _, t, r', calls', past', hstep, _, ht, hshown⟩ :=
      hs.exists_proceeding
    have hunchanged : ∀ m ∈ ms ++ [.step], m.isChange = false :=
      List.forall_mem_append.mpr ⟨hms, by simp [Move.isChange]⟩
    have hreached : s.run h replies (ms ++ [.step]) = some t :=
      foldlM_trans hrun (foldlM_cons_of_move hstep rfl)
    rw [htimeline] at hshown
    rcases hshown with hshown | ⟨hsame, hrank⟩
    · exact ⟨_, t, hunchanged, hreached, hshown, r', calls', past', ht⟩
    · obtain ⟨ns, v, hns, hon, hmore, hv⟩ := ih (rank r') (hk ▸ hrank) ht rfl
      rw [hsame] at hmore
      have hall := List.forall_mem_append.mpr ⟨hunchanged, hns⟩
      exact ⟨_, v, hall, foldlM_trans hreached hon, hmore, hv⟩

/-- The loop comes as far as one likes. -/
theorem Paced.exists_run (hs : Paced h replies settings s r calls past) (n : Nat) :
    ∃ ms t, (∀ m ∈ ms, m.isChange = false) ∧ s.run h replies ms = some t ∧
      s.timeline.length + n ≤ t.timeline.length := by
  induction n generalizing s r calls past with
  | zero => exact ⟨[], s, by simp, rfl, Nat.le_refl _⟩
  | succ n ih =>
    obtain ⟨ms, t, hms, hrun, hshown, _, _, _, ht⟩ := hs.exists_showing
    obtain ⟨ns, u, hns, hon, hmore⟩ := ih ht
    refine ⟨ms ++ ns, u, List.forall_mem_append.mpr ⟨hms, hns⟩, foldlM_trans hrun hon, ?_⟩
    omega

theorem step_cases (hstep : s.step h replies = some t) :
    (t.timeline = s.timeline ∧ t.state = s.state) ∨
      ∃ event, t.timeline = s.timeline ++ [(s.now, event)] ∧
        t.state = h.follow s.state [(s.now, event)] ∧ ∀ x, event = .asked x → x = s.state := by
  obtain ⟨⟨u, action⟩, _, heq⟩ := Option.map_eq_some_iff.mp hstep
  cases heq
  cases action with
  | some action =>
    right
    cases action with
    | call number => exact ⟨_, rfl, rfl, by simp⟩
    | handOver result => exact ⟨_, rfl, rfl, by simp⟩
  | none =>
    simp only [shows]
    split
    next => exact Or.inr ⟨_, rfl, rfl, fun _ heq => (LoopEvent.asked.inj heq).symm⟩
    next => exact Or.inl ⟨List.append_nil _, rfl⟩

/-- The handler is in the state that the timeline says, and was so whenever it was asked. -/
structure Follows (s : Pacing σ) (h : DiscoveryHandler σ) (origin : σ) : Prop where
  state : s.state = h.follow origin s.timeline
  asked : ∀ before time x, before ++ [(time, .asked x)] <+: s.timeline → x = h.follow origin before

theorem Follows.move {origin : σ} (hs : s.Follows h origin) {m : Move σ} (hm : m.isChange = false)
    (hmove : s.move h replies m = some t) : t.Follows h origin := by
  cases m with
  | step =>
    rcases step_cases hmove with ⟨htimeline, hstate⟩ | ⟨event, htimeline, hstate, hasked⟩
    · exact ⟨by rw [hstate, htimeline, hs.state], by rw [htimeline]; exact hs.asked⟩
    · refine ⟨by rw [hstate, htimeline, h.follow_append, ← hs.state], ?_⟩
      intro before time x hprefix
      rw [htimeline, List.prefix_concat_iff] at hprefix
      rcases hprefix with hlast | hearlier
      · obtain ⟨rfl, hentry⟩ := List.append_inj' hlast rfl
        cases hentry
        rw [hasked x rfl, hs.state]
      · exact hs.asked before time x hearlier
  | pass d =>
    simp only [Pacing.move] at hmove
    split at hmove
    next =>
      cases hmove
      exact ⟨hs.state, hs.asked⟩
    next => cases hmove
  | change state => cases hm

theorem follows_of_run {state : σ} {ms : List (Move σ)} (hms : ∀ m ∈ ms, m.isChange = false)
    (hrun : (start settings state).run h replies ms = some s) : s.Follows h state := by
  refine foldlM_invariant_of_forall (fun m : Move σ => m.isChange = false)
    (fun u : Pacing σ => u.Follows h state)
    (fun _ _ _ hm hu hmove => hu.move hm hmove) hms ⟨rfl, ?_⟩ hrun
  intro before time x hprefix
  have hnil := List.prefix_nil.mp hprefix
  simp at hnil

end Pacing

end DiscoveryTask

end ClusterTransport
