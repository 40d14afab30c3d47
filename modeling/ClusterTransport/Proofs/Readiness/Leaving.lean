import ClusterTransport.Proofs.Readiness.Crowd
import Mathlib.Algebra.Order.BigOperators.Group.List
import Mathlib.Algebra.Order.Ring.Nat

/-!
# When callers leave

A caller that comes to a settled gate, or has no time, leaves at once; any other leaves when the
gate settles or when its time is up, whichever is first.
-/

namespace ClusterTransport.Readiness

private theorem signal_ne_pending (g : Readiness) : g.signal ≠ .pending := by
  cases g <;> decide

private theorem close_ne_pending (g : Readiness) : g.close ≠ .pending := by
  cases g <;> decide

private theorem sum_set_lt {l : List Nat} {i n a : Nat} (hi : l[i]? = some n) (hless : a < n) :
    (l.set i a).sum < l.sum := by
  obtain ⟨hlt, rfl⟩ := List.getElem?_eq_some_iff.mp hi
  have hsame := congrArg List.sum (List.set_getElem_self hlt)
  rw [List.sum_set, if_pos hlt] at hsame ⊢
  omega

namespace Caller

variable {timers : Timers} {g : Readiness} {settledAt : Option Instant}
  {now settled : Instant} {c : Caller} {stage : Stage} {d : Span}

def release (timers : Timers) (settledAt : Option Instant) (c : Caller) : Instant :=
  if c.timeout = 0 then c.came
  else
    match settledAt with
    | none => c.came + timers.run c.timeout
    | some settled =>
      if settled ≤ c.came then c.came else min settled (c.came + timers.run c.timeout)

private theorem release_none : c.release timers none = c.came + timers.run c.timeout := by
  unfold release
  split
  next hzero => simp [hzero, Timers.run_zero]
  next => rfl

private theorem release_some :
    c.release timers (some settled) = min (max c.came settled) (c.came + timers.run c.timeout) := by
  unfold release
  split
  next hzero =>
    rw [hzero, Timers.run_zero]
    lia
  next =>
    dsimp only
    split <;> lia

private theorem release_eq_now (hcame : c.came ≤ now)
    (hlast : now ≤ c.came + timers.run c.timeout) :
    c.release timers (some now) = now := by
  rw [release_some]
  lia

/-- A caller that is not gone is not late, and one that is gone has left in time. Once a caller has
read the gate no time passes after it has settled. -/
def OnTime (timers : Timers) (settledAt : Option Instant) (now : Instant) (c : Caller) : Prop :=
  match c.stage with
  | .coming => now ≤ c.came
  | .setting => now = c.came ∧ ∀ settled ∈ settledAt, settled = now
  | .waiting deadline =>
    deadline = c.came + timers.run c.timeout ∧ c.came ≤ now ∧ now ≤ deadline ∧
      ∀ settled ∈ settledAt, settled = now
  | .leaving => now = c.came + timers.run c.timeout ∧ ∀ settled ∈ settledAt, settled = now
  | .gone left _ => left ≤ now ∧ left = c.release timers settledAt

private theorem release_of_onTime (hsettled : ∀ settled ∈ settledAt, settled = now)
    (hcame : c.came ≤ now)
    (hlast : now ≤ c.came + timers.run c.timeout)
    (hwhy : settledAt ≠ none ∨ now = c.came + timers.run c.timeout) :
    c.release timers settledAt = now := by
  cases settledAt with
  | none =>
    rw [release_none]
    rcases hwhy with hnot | hlate
    · exact absurd rfl hnot
    · exact hlate.symm
  | some settled =>
    obtain rfl := hsettled settled rfl
    exact release_eq_now hcame hlast

private theorem OnTime.settle (h : c.OnTime timers settledAt now) :
    c.OnTime timers (settledAt.or (some now)) now := by
  cases settledAt with
  | some settled => exact h
  | none =>
    have hnow : ∀ settled ∈ Option.or none (some now), settled = now := by simp
    obtain ⟨came, timeout, stage⟩ := c
    cases stage with
    | coming => exact h
    | setting => exact ⟨h.1, hnow⟩
    | waiting deadline => exact ⟨h.1, h.2.1, h.2.2.1, hnow⟩
    | leaving => exact ⟨h.1, hnow⟩
    | gone left opened =>
      obtain ⟨hleft, hrelease⟩ := h
      refine ⟨hleft, ?_⟩
      rw [release_none] at hrelease
      rw [Option.none_or, release_some]
      lia

private theorem OnTime.next (hpending : g = .pending ↔ settledAt = none)
    (hsettled : ∀ settled ∈ settledAt, settled ≤ now) (h : c.OnTime timers settledAt now)
    (hnext : Next timers g now c c.stage stage) :
    ({ c with stage } : Caller).OnTime timers settledAt now := by
  obtain ⟨came, timeout, before⟩ := c
  cases hnext with
  | passing hcame hwhy =>
    have hnow : now = came := Nat.le_antisymm h hcame
    refine ⟨Nat.le_refl now, hnow.trans ?_⟩
    by_cases hzero : timeout = 0
    · exact (if_pos hzero).symm
    · obtain ⟨settled, hsome⟩ : ∃ settled, settledAt = some settled := by
        rw [← Option.ne_none_iff_exists', ne_eq, ← hpending]
        exact hwhy.resolve_right hzero
      have hbefore : settled ≤ came := hnow ▸ hsettled settled hsome
      simp [release, hzero, hsome, hbefore]
  | staying hcame hgate =>
    refine ⟨Nat.le_antisymm h hcame, ?_⟩
    simp [hpending.mp hgate]
  | setting =>
    obtain ⟨hnow, hsettled⟩ := h
    exact ⟨by rw [hnow], Nat.le_of_eq hnow.symm, Nat.le_add_right .., hsettled⟩
  | woken hgate =>
    obtain ⟨hdeadline, hcame, hlast, hsettled⟩ := h
    rw [hdeadline] at hlast
    refine ⟨Nat.le_refl now, (release_of_onTime hsettled hcame hlast (.inl ?_)).symm⟩
    exact fun hnone => hgate (hpending.mpr hnone)
  | expired hgate hlate =>
    obtain ⟨hdeadline, _, hlast, hsettled⟩ := h
    exact ⟨(Nat.le_antisymm hlast hlate).trans hdeadline, hsettled⟩
  | leaving =>
    obtain ⟨hnow, hsettled⟩ := h
    refine ⟨Nat.le_refl now, (release_of_onTime hsettled ?_ (Nat.le_of_eq hnow) (.inr hnow)).symm⟩
    exact hnow ▸ Nat.le_add_right ..

private theorem OnTime.pass (hpending : g = .pending ↔ settledAt = none)
    (hwaits : c.step timers g now = none) (hdue : ∀ due ∈ c.due?, now + d ≤ due)
    (h : c.OnTime timers settledAt now) : c.OnTime timers settledAt (now + d) := by
  obtain ⟨came, timeout, stage⟩ := c
  rw [step_eq_none_iff] at hwaits
  cases stage with
  | coming => exact hdue came rfl
  | waiting deadline =>
    obtain ⟨hdeadline, hcame, _, _⟩ := h
    refine ⟨hdeadline, Nat.le_add_right_of_le hcame, hdue deadline rfl, ?_⟩
    simp [hpending.mp hwaits.1]
  | gone left opened => exact ⟨Nat.le_add_right_of_le h.1, h.2⟩
  | setting => exact hwaits.elim
  | leaving => exact hwaits.elim

private theorem came_le_release : c.came ≤ c.release timers settledAt := by
  cases settledAt with
  | none =>
    rw [release_none]
    exact Nat.le_add_right ..
  | some settled =>
    rw [release_some]
    lia

private theorem OnTime.le_release (h : c.OnTime timers settledAt now)
    (hstays : c.stage.isGone = false) :
    now ≤ c.release timers settledAt := by
  obtain ⟨came, timeout, stage⟩ := c
  cases stage with
  | coming => exact Nat.le_trans h came_le_release
  | setting => exact h.1 ▸ came_le_release
  | waiting deadline =>
    obtain ⟨hdeadline, hcame, hlast, hsettled⟩ := h
    cases settledAt with
    | none =>
      rw [release_none]
      exact hdeadline ▸ hlast
    | some settled =>
      exact Nat.le_of_eq (release_of_onTime hsettled hcame (hdeadline ▸ hlast) (.inl nofun)).symm
  | leaving =>
    obtain ⟨hnow, hsettled⟩ := h
    have hcame : came ≤ now := hnow ▸ Nat.le_add_right ..
    exact Nat.le_of_eq (release_of_onTime hsettled hcame (Nat.le_of_eq hnow) (.inr hnow)).symm
  | gone left opened => cases hstays

private theorem OnTime.step_ne_none (hpending : g = .pending ↔ settledAt = none)
    (h : c.OnTime timers settledAt now) (hstays : c.stage.isGone = false)
    (hnow : now = c.release timers settledAt) : c.step timers g now ≠ none := by
  obtain ⟨came, timeout, stage⟩ := c
  rw [ne_eq, step_eq_none_iff]
  cases stage with
  | coming =>
    rw [hnow]
    exact Nat.not_lt.mpr came_le_release
  | waiting deadline =>
    rintro ⟨hgate, hearly⟩
    rw [hpending.mp hgate, release_none] at hnow
    rw [hnow, h.1] at hearly
    exact Nat.lt_irrefl _ hearly
  | setting => exact not_false
  | leaving => exact not_false
  | gone left opened => cases hstays

private theorem Next.eq_of_gone {before : Stage} {left : Instant} {opened : Bool}
    (h : Next timers g now c before (.gone left opened)) :
    left = now ∧ (opened = true ↔ g = .ready) := by
  have hready : g.isReady = true ↔ g = .ready := decide_eq_true_iff
  cases h <;> exact ⟨rfl, hready⟩

def timeLeft (timers : Timers) (now : Instant) (c : Caller) : Span :=
  match c.stage with
  | .coming => c.came - now + timers.run c.timeout
  | .setting => timers.run c.timeout
  | .waiting deadline => deadline - now
  | _ => 0

private theorem Next.timeLeft_le (h : Next timers g now c c.stage stage) :
    ({ c with stage } : Caller).timeLeft timers now ≤ c.timeLeft timers now := by
  obtain ⟨came, timeout, before⟩ := c
  cases h with
  | staying => exact Nat.le_add_left ..
  | setting => exact Nat.le_of_eq (Nat.add_sub_cancel_left ..)
  | _ => exact Nat.zero_le _

private theorem timeLeft_le : c.timeLeft timers (now + 1) ≤ c.timeLeft timers now := by
  obtain ⟨came, timeout, stage⟩ := c
  cases stage with
  | coming => exact Nat.add_le_add_right (Nat.sub_le_sub_left (Nat.le_succ now) came) _
  | waiting deadline => exact Nat.sub_le_sub_left (Nat.le_succ now) deadline
  | _ => exact Nat.le_refl _

private theorem timeLeft_lt_of_waits (hwaits : c.step timers g now = none)
    (hstays : c.stage.isGone = false) : c.timeLeft timers (now + 1) < c.timeLeft timers now := by
  obtain ⟨came, timeout, stage⟩ := c
  rw [step_eq_none_iff] at hwaits
  cases stage with
  | coming => exact Nat.add_lt_add_right (Nat.sub_succ_lt_self came now hwaits) _
  | waiting deadline => exact Nat.sub_succ_lt_self deadline now hwaits.2
  | setting => exact hwaits.elim
  | leaving => exact hwaits.elim
  | gone left opened => cases hstays

private theorem lt_due_of_waits (hwaits : c.step timers g now = none) {due : Instant}
    (hdue : c.due? = some due) : now < due := by
  obtain ⟨came, timeout, stage⟩ := c
  rw [step_eq_none_iff] at hwaits
  cases stage with
  | coming => cases hdue; exact hwaits
  | waiting deadline => cases hdue; exact hwaits.2
  | _ => cases hdue

end Caller

namespace Crowd

variable {s t u : Crowd} {m : Move} {ms : List Move} {i : Nat} {d : Span}

private theorem lets_iff {c : Caller} : s.lets d c = true ↔
    c.step s.timers s.gate s.now = none ∧ ∀ due ∈ c.due?, s.now + d ≤ due := by
  simp [lets, Option.all_eq_true]

structure Punctual (s : Crowd) : Prop where
  pending_iff : s.gate = .pending ↔ s.settledAt = none
  settled_le : ∀ settled ∈ s.settledAt, settled ≤ s.now
  onTime : ∀ c ∈ s.callers, c.OnTime s.timers s.settledAt s.now

theorem punctual_start (timers : Timers) (plan : List (Instant × Span)) :
    (start timers plan).Punctual where
  pending_iff := ⟨fun _ => rfl, fun _ => rfl⟩
  settled_le := nofun
  onTime := by
    intro c hc
    obtain ⟨p, _, rfl⟩ := List.mem_map.mp hc
    exact Nat.zero_le _

private theorem Punctual.settle (h : s.Punctual) {g : Readiness} (hg : g ≠ .pending) :
    (s.settle g).Punctual where
  pending_iff := by simp [Crowd.settle, hg]
  settled_le := by
    intro settled hsettled
    rcases Option.or_eq_some_iff.mp hsettled with hold | ⟨_, hnow⟩
    · exact h.settled_le settled hold
    · exact Nat.le_of_eq (Option.some.inj hnow).symm
  onTime c hc := (h.onTime c hc).settle

theorem Punctual.move (h : s.Punctual) (hm : s.move m = some t) : t.Punctual := by
  cases m with
  | signal =>
    cases hm
    exact h.settle (signal_ne_pending _)
  | close =>
    cases hm
    exact h.settle (close_ne_pending _)
  | step i =>
    obtain ⟨c, stage, hc, hnext, rfl⟩ := step_of_move hm
    have hc' := h.onTime c (List.mem_of_getElem? hc)
    exact ⟨h.pending_iff, h.settled_le,
      forall_mem_set h.onTime (hc'.next h.pending_iff h.settled_le hnext)⟩
  | pass d =>
    obtain ⟨hlets, rfl⟩ := pass_of_move hm
    refine ⟨h.pending_iff, ?_, ?_⟩
    · intro settled hsettled
      exact Nat.le_add_right_of_le (h.settled_le settled hsettled)
    · intro c hc
      obtain ⟨hwaits, hdue⟩ := lets_iff.mp (hlets c hc)
      exact (h.onTime c hc).pass h.pending_iff hwaits hdue

theorem Punctual.run (h : s.Punctual) (hrun : s.run ms = some t) : t.Punctual :=
  foldlM_invariant Punctual (fun _ _ _ hs hm => hs.move hm) h hrun

/-- In the course of a run a caller took its last step, at this time, and was told that the gate is
open if it was ready then. -/
def LetGo (s : Crowd) (ms : List Move) (i : Nat) (left : Instant) (opened : Bool) : Prop :=
  ∃ first rest u, ms = first ++ .step i :: rest ∧ .step i ∉ rest ∧ s.run first = some u ∧
    u.now = left ∧ (opened = true ↔ u.gate = .ready)

private theorem LetGo.append {left : Instant} {opened : Bool} (h : s.LetGo ms i left opened)
    (hm : m ≠ .step i) : s.LetGo (ms ++ [m]) i left opened := by
  obtain ⟨first, rest, u, rfl, hlast, hrun, hu⟩ := h
  refine ⟨first, rest ++ [m], u, by simp, ?_, hrun, hu⟩
  simp [hlast, hm.symm]

theorem caller_of_move (h : s.move m = some t) {c : Caller} (hc : t.callers[i]? = some c) :
    (m ≠ .step i ∧ s.callers[i]? = some c) ∨
      (m = .step i ∧ ∃ e, s.callers[i]? = some e ∧
        e.Next s.timers s.gate s.now e.stage c.stage) := by
  cases m with
  | signal => cases h; exact .inl ⟨nofun, hc⟩
  | close => cases h; exact .inl ⟨nofun, hc⟩
  | pass d =>
    obtain ⟨_, rfl⟩ := pass_of_move h
    exact .inl ⟨nofun, hc⟩
  | step j =>
    obtain ⟨e, stage, he, hnext, rfl⟩ := step_of_move h
    by_cases hj : j = i
    · subst hj
      rw [List.getElem?_set_self (List.getElem?_eq_some_iff.mp he).1] at hc
      cases hc
      exact .inr ⟨rfl, e, he, hnext⟩
    · rw [List.getElem?_set_ne hj] at hc
      exact .inl ⟨by simp [hj], hc⟩

/-- What a caller that is gone was told is the state of the gate when it took its last step. -/
theorem letGo_of_run (hstays : ∀ c ∈ s.callers, c.stage.isGone = false)
    (hrun : s.run ms = some t) {c : Caller} (hc : t.callers[i]? = some c) {left : Instant}
    {opened : Bool} (hgone : c.stage = .gone left opened) : s.LetGo ms i left opened := by
  refine foldlM_induction (fun ms t => ∀ c, t.callers[i]? = some c →
    c.stage = .gone left opened → s.LetGo ms i left opened) ?_ ?_ hrun c hc hgone
  · intro c hc hgone
    have hnot := hstays c (List.mem_of_getElem? hc)
    rw [hgone] at hnot
    cases hnot
  · intro ms u m t hms hu hm c hc hgone
    rcases caller_of_move hm hc with ⟨hother, hsame⟩ | ⟨rfl, e, he, hnext⟩
    · exact (hu c hsame hgone).append hother
    · rw [hgone] at hnext
      obtain ⟨hleft, hopened⟩ := hnext.eq_of_gone
      exact ⟨ms, [], u, rfl, nofun, hms, hleft.symm, hopened⟩

theorem stays_start (timers : Timers) (plan : List (Instant × Span)) :
    ∀ c ∈ (start timers plan).callers, c.stage.isGone = false := by
  intro c hc
  obtain ⟨p, _, rfl⟩ := List.mem_map.mp hc
  rfl

theorem timers_of_run (hrun : s.run ms = some t) : t.timers = s.timers :=
  foldlM_invariant (fun t => t.timers = s.timers)
    (fun _ _ _ hu hm => (timers_of_move hm).trans hu) rfl hrun

/-- A caller takes four steps at most. -/
theorem count_step_add_rank_le (hrun : s.run ms = some t) {c : Caller}
    (hc : t.callers[i]? = some c) : ms.count (.step i) + c.stage.rank ≤ 4 := by
  refine foldlM_induction (fun ms t => ∀ c, t.callers[i]? = some c →
    ms.count (.step i) + c.stage.rank ≤ 4) ?_ ?_ hrun c hc
  · intro c _
    cases hstage : c.stage <;> simp [Stage.rank]
  · intro ms u m t _ hu hm c hc
    rw [List.count_append]
    rcases caller_of_move hm hc with ⟨hother, hsame⟩ | ⟨rfl, e, he, hnext⟩
    · rw [List.count_singleton, if_neg (by simpa using hother)]
      exact hu c hsame
    · have hbefore := hu e he
      have hless := hnext.rank_lt
      rw [List.count_singleton_self]
      omega

theorem caller_of_run (hrun : s.run ms = some t) {c : Caller} (hc : s.callers[i]? = some c) :
    ∃ stage, t.callers[i]? = some { c with stage } := by
  refine foldlM_invariant (fun t => ∃ stage, t.callers[i]? = some { c with stage }) ?_
    ⟨c.stage, hc⟩ hrun
  rintro u m t ⟨stage, hu⟩ hm
  cases m with
  | signal => cases hm; exact ⟨stage, hu⟩
  | close => cases hm; exact ⟨stage, hu⟩
  | pass d =>
    obtain ⟨_, rfl⟩ := pass_of_move hm
    exact ⟨stage, hu⟩
  | step j =>
    obtain ⟨e, next, he, _, rfl⟩ := step_of_move hm
    rcases getElem?_set_or { e with stage := next } he i with hsame | ⟨rfl, hset⟩
    · exact ⟨stage, hsame.trans hu⟩
    · cases hu.symm.trans he
      exact ⟨next, hset⟩

/-- The time and the steps that are left to the callers at most. -/
def togo (s : Crowd) : Nat :=
  (s.callers.map fun c => c.timeLeft s.timers s.now + c.stage.rank).sum

theorem togo_lt_of_step (h : s.move (.step i) = some t) : t.togo < s.togo := by
  obtain ⟨c, stage, hc, hnext, rfl⟩ := step_of_move h
  simp only [togo, List.map_set]
  refine sum_set_lt (by rw [List.getElem?_map, hc]; rfl) ?_
  exact Nat.add_lt_add_of_le_of_lt hnext.timeLeft_le hnext.rank_lt

private theorem exists_step_or_pass {c : Caller} (hc : c ∈ s.callers)
    (hstays : c.stage.isGone = false) :
    ∃ m t, m.outcome? = none ∧ s.move m = some t ∧ t.togo < s.togo := by
  by_cases hsteps : ∃ e ∈ s.callers, e.step s.timers s.gate s.now ≠ none
  · obtain ⟨e, he, hstep⟩ := hsteps
    obtain ⟨i, hi⟩ := List.mem_iff_getElem?.mp he
    obtain ⟨e', he'⟩ := Option.ne_none_iff_exists'.mp hstep
    have hmove := move_step hi he'
    exact ⟨.step i, _, rfl, hmove, togo_lt_of_step hmove⟩
  · have hwaits : ∀ e ∈ s.callers, e.step s.timers s.gate s.now = none := by
      intro e he
      by_contra hstep
      exact hsteps ⟨e, he, hstep⟩
    have hlets : (s.callers.all (s.lets 1)) = true := by
      rw [List.all_eq_true]
      intro e he
      exact lets_iff.mpr ⟨hwaits e he, fun due hdue => Caller.lt_due_of_waits (hwaits e he) hdue⟩
    refine ⟨.pass 1, _, rfl, if_pos hlets, ?_⟩
    refine List.sum_lt_sum _ _ (fun e _ => Nat.add_le_add_right Caller.timeLeft_le _) ⟨c, hc, ?_⟩
    exact Nat.add_lt_add_right (Caller.timeLeft_lt_of_waits (hwaits c hc) hstays) _

/-- Every caller can get away from the gate, whatever has become of it. -/
theorem exists_run_gone (s : Crowd) : ∃ more u, (∀ m ∈ more, m.outcome? = none) ∧
    s.run more = some u ∧ ∀ c ∈ u.callers, c.stage.isGone = true := by
  induction hn : s.togo using Nat.strong_induction_on generalizing s with
  | _ n ih =>
    by_cases hstays : ∃ c ∈ s.callers, c.stage.isGone = false
    · obtain ⟨c, hc, hstays⟩ := hstays
      obtain ⟨m, t, hm, hmove, hless⟩ := exists_step_or_pass hc hstays
      obtain ⟨more, u, hmore, hrun, hall⟩ := ih t.togo (hn ▸ hless) t rfl
      exact ⟨m :: more, u, List.forall_mem_cons.mpr ⟨hm, hmore⟩,
        foldlM_cons_of_move hmove hrun, hall⟩
    · refine ⟨[], s, nofun, rfl, ?_⟩
      intro c hc
      by_contra hnot
      exact hstays ⟨c, hc, by simpa using hnot⟩

/-- Callers at a gate, in every run in which they come as planned. The gate is pending until the
first signal or close, and then stays as that has left it. A caller that comes to a settled gate or
has no time leaves at once, and any other leaves when the gate settles or when its time is up,
whichever is first; it is told whether the gate was open when it took its last step. A caller that
is not gone is not late, can take a step when it has to leave, and takes four steps at most; all
callers can get away from the gate. Without the others a caller and its gate go the same way. -/
theorem callers_leave_on_time (timers : Timers) (plan : List (Instant × Span))
    (hrun : (start timers plan).run ms = some t) :
    (start timers plan).Settles ms t ∧
    (∀ i came timeout, plan[i]? = some (came, timeout) →
      ∃ c : Caller, t.callers[i]? = some c ∧ c.came = came ∧ c.timeout = timeout ∧
        (∀ left opened, c.stage = .gone left opened →
          left = c.release timers t.settledAt ∧
          (start timers plan).LetGo ms i left opened) ∧
        (c.stage.isGone = false → t.now ≤ c.release timers t.settledAt ∧
          (t.now = c.release timers t.settledAt → ∃ u, t.move (.step i) = some u)) ∧
        ms.count (.step i) ≤ 4 ∧
        (start timers [(came, timeout)]).run (ms.filterMap (Move.seenBy i)) =
          some { t with callers := [c] }) ∧
    ∃ more u, (∀ m ∈ more, m.outcome? = none) ∧ t.run more = some u ∧
      ∀ c ∈ u.callers, c.stage.isGone = true := by
  refine ⟨settles_of_run rfl rfl hrun, ?_, exists_run_gone t⟩
  intro i came timeout hplan
  have hstart : (start timers plan).callers[i]? = some { came, timeout } := by
    simp [start, hplan]
  obtain ⟨stage, hc⟩ := caller_of_run hrun hstart
  have hpunctual := (punctual_start timers plan).run hrun
  have htime := hpunctual.onTime _ (List.mem_of_getElem? hc)
  have htimers := timers_of_run hrun
  rw [htimers] at htime
  refine ⟨_, hc, rfl, rfl, ?_, ?_, Nat.le_of_add_right_le (count_step_add_rank_le hrun hc), ?_⟩
  · rintro left opened rfl
    exact ⟨htime.2, letGo_of_run (stays_start timers plan) hrun hc rfl⟩
  · intro hstays
    refine ⟨htime.le_release hstays, ?_⟩
    intro hnow
    have hstep := htime.step_ne_none hpunctual.pending_iff hstays hnow
    obtain ⟨e, he⟩ := Option.ne_none_iff_exists'.mp hstep
    rw [← htimers] at he
    exact ⟨_, move_step hc he⟩
  · have halone := run_alone (i := i) hrun
    rw [alone_start timers hplan] at halone
    rw [halone, alone, hc]
    rfl

/-- The gate opens just after the timer of the first caller has ended. The last caller has left
before, and is told that the gate is not open. -/
theorem callers_leave_on_time_of_late_signal :
    let plan : List (Instant × Span) := [(0, 3), (1, 10), (5, 2), (0, 2)]
    let ms : List Move := [.step 0, .step 0, .step 3, .step 3, .pass 1, .step 1, .step 1, .pass 1,
      .step 3, .step 3, .pass 1, .step 0, .signal, .step 0, .step 1, .pass 2, .step 2]
    let alone : List Move :=
      [.pass 1, .step 0, .step 0, .pass 1, .pass 1, .signal, .step 0, .pass 2]
    ∃ t, (start {} plan).run ms = some t ∧ (start {} plan).Settles ms t ∧
      (start {} plan).LetGo ms 0 3 true ∧ (start {} plan).LetGo ms 1 3 true ∧
      (start {} plan).LetGo ms 2 5 true ∧ (start {} plan).LetGo ms 3 2 false ∧
      (start {} [(1, 10)]).run alone = some { t with callers := [⟨1, 10, .gone 3 true⟩] } := by
  intro plan ms alone
  obtain ⟨t, hrun, hcallers⟩ : ∃ t, (start {} plan).run ms = some t ∧
      t.callers = [⟨0, 3, .gone 3 true⟩, ⟨1, 10, .gone 3 true⟩, ⟨5, 2, .gone 5 true⟩,
        ⟨0, 2, .gone 2 false⟩] :=
    ⟨_, rfl, rfl⟩
  obtain ⟨hsettles, hall, _⟩ := callers_leave_on_time {} plan hrun
  obtain ⟨c, hc, _, _, hfirst, _⟩ := hall 0 0 3 rfl
  obtain ⟨d, hd, _, _, hsecond, _, _, halone⟩ := hall 1 1 10 rfl
  obtain ⟨e, he, _, _, hthird, _⟩ := hall 2 5 2 rfl
  obtain ⟨f, hf, _, _, hlast, _⟩ := hall 3 0 2 rfl
  rw [hcallers] at hc hd he hf
  cases hc
  cases hd
  cases he
  cases hf
  exact ⟨t, hrun, hsettles, (hfirst 3 true rfl).2, (hsecond 3 true rfl).2, (hthird 5 true rfl).2,
    (hlast 2 false rfl).2, halone⟩

end Crowd

end ClusterTransport.Readiness
