import ClusterTransport.Proofs.Discovery.Timeline
import ClusterTransport.Proofs.Transport.Activity

/-!
# Rounds and their schedule

Discovery keeps to its timeline, and a round that finds nothing passes a transport by: the result of
a round is all that its loop has for the handler.
-/

namespace ClusterTransport

def Round.isBarren : Round → Bool
  | answered (.ok _) => false
  | locking _ => false
  | rechecking _ => false
  | handing _ => false
  | _ => true

namespace DiscoveryTask

variable {t u : DiscoveryTask} {v : RoundView} {before after : Round}
  {action : Option RoundAction}

private theorem exists_error_of_outcome? {since : Instant} {outcome : Except Error DiscoveryResult}
    (hfails : ∀ result, v.answer = some (.ok result) → result.endpoints = [])
    (h : t.outcome? v since = some outcome) : ∃ e, outcome = .error e := by
  cases hanswer : v.answer with
  | none =>
    simp only [outcome?, hanswer] at h
    split at h
    next =>
      cases h
      exact ⟨_, rfl⟩
    next => cases h
  | some answer =>
    simp only [outcome?, hanswer] at h
    cases h
    cases answer with
    | error e => exact ⟨e, rfl⟩
    | ok result =>
      refine ⟨.discovery .noEndpoints, ?_⟩
      simp [outcomeOf, hfails result hanswer]

private theorem isBarren_of_stepRound (h : t.stepRound v before = some (u, after, action))
    (hbefore : before.isBarren = true)
    (hfails : before.isAwaiting = true →
      ∀ result, v.answer = some (.ok result) → result.endpoints = []) :
    after.isBarren = true := by
  cases before with
  | calling =>
    cases h
    rfl
  | awaiting call since =>
    obtain ⟨outcome, houtcome, heq⟩ := Option.map_eq_some_iff.mp h
    cases heq
    obtain ⟨e, rfl⟩ := exists_error_of_outcome? (hfails rfl) houtcome
    rfl
  | answered outcome =>
    cases outcome with
    | ok result => cases hbefore
    | error e =>
      simp only [stepRound] at h
      split at h
      all_goals
        cases h
        rfl
  | asking =>
    cases h
    rfl
  | sleeping wake =>
    simp only [stepRound] at h
    split at h
    next =>
      split at h
      all_goals
        cases h
        rfl
    next =>
      split at h
      next =>
        cases h
        rfl
      next => cases h
  | ended => cases h
  | _ => cases hbefore

end DiscoveryTask

namespace Transport.Activity

variable {s t : Activity}

def Move.isOfLoop (i : Nat) : Move → Bool
  | stepLoop k _ => k == i
  | stepHandler k _ => k == i
  | _ => false

/-- The move does not bring the loop an answer that names endpoints while it waits for one. -/
def Fruitless (s : Activity) (i : Nat) : Move → Prop
  | .stepLoop k v =>
    k = i → (s.transport.discovery.loops[i]?).any Round.isAwaiting = true →
      ∀ result, v.answer = some (.ok result) → result.endpoints = []
  | _ => True

def Untouched (s t : Activity) : Prop :=
  t.transport.endpoints = s.transport.endpoints ∧
    t.transport.channels = s.transport.channels ∧ t.transport.gate = s.transport.gate

private theorem Untouched.trans {u : Activity} (h : s.Untouched t) (h' : t.Untouched u) :
    s.Untouched u :=
  ⟨h'.1.trans h.1, h'.2.1.trans h.2.1, h'.2.2.trans h.2.2⟩

/-- The loop with a number has no result for the handler. -/
structure Barren (s : Activity) (i : Nat) : Prop where
  guarded : s.Guarded
  round : ∃ r, s.transport.discovery.loops[i]? = some r ∧ r.isBarren = true

private theorem Barren.handler_eq_done {i : Nat} (h : s.Barren i) : s.handlers i = .done := by
  apply h.guarded.handler_eq_done
  intro result hresult
  obtain ⟨r, hr, hbarren⟩ := h.round
  obtain rfl := Option.some.inj (hr.symm.trans hresult)
  cases hbarren

/-- A loop without a result changes nothing of what rounds change. -/
theorem Barren.untouched {i : Nat} (h : s.Barren i) {m : Move} (hm : m.isOfLoop i = true)
    (hmove : s.move m = some t) : s.Untouched t := by
  cases m with
  | stepLoop k v =>
    obtain ⟨r, _, rfl⟩ := Option.map_eq_some_iff.mp hmove
    exact ⟨rfl, rfl, rfl⟩
  | stepHandler k now =>
    obtain rfl : k = i := eq_of_beq hm
    simp only [move, h.handler_eq_done] at hmove
    cases hmove
    exact ⟨rfl, rfl, rfl⟩
  | _ => cases hm

theorem Barren.move {i : Nat} (h : s.Barren i) {m : Move} (hfruitless : s.Fruitless i m)
    (hmove : s.move m = some t) : t.Barren i := by
  refine ⟨h.guarded.next (next_of_move hmove), ?_⟩
  obtain ⟨r, hr, hbarren⟩ := h.round
  by_cases hloop : ∃ k v, m = .stepLoop k v
  · obtain ⟨k, v, rfl⟩ := hloop
    obtain ⟨⟨u, action⟩, hstep, heq⟩ := Option.map_eq_some_iff.mp hmove
    cases heq
    obtain ⟨before, w, after, hbefore, hround, rfl⟩ := DiscoveryTask.stepRound_of_stepLoop hstep
    have hloops := (Round.shift_of_stepRound hround).loops_eq
    rw [hloops]
    -- another loop leaves this one as it is
    rcases getElem?_set_or after hbefore i with hother | ⟨rfl, hset⟩
    · exact ⟨r, hother.trans hr, hbarren⟩
    · obtain rfl := Option.some.inj (hr.symm.trans hbefore)
      refine ⟨after, hset, DiscoveryTask.isBarren_of_stepRound hround hbarren ?_⟩
      intro hawaiting
      exact hfruitless rfl (by simp [hr, hawaiting])
  · refine ⟨r, ?_, hbarren⟩
    rw [loops_of_move (fun k v heq => hloop ⟨k, v, heq⟩) hmove]
    exact hr

section Fruitless

variable {i : Nat} {during : List Move}
  (hfruitless : ∀ first m u, first ++ [m] <+: during → s.run first = some u → u.Fruitless i m)
include hfruitless

private theorem Barren.of_prefix (h : s.Barren i) {first : List Move} (hfirst : first <+: during)
    (hrun : s.run first = some t) : t.Barren i := by
  refine foldlM_induction (fun ms u => ms <+: during → u.Barren i) (fun _ => h) ?_ hrun hfirst
  -- what a move brings is known of the moves of the whole run, so prefixes of it are followed
  intro ms u m w hu hbarren hmove hprefix
  have hbefore := hbarren ((List.prefix_append ms [m]).trans hprefix)
  exact hbefore.move (hfruitless ms m u hprefix hu) hmove

theorem Barren.untouched_of_run (h : s.Barren i) (hms : ∀ m ∈ during, m.isOfLoop i = true)
    (hrun : s.run during = some t) : s.Untouched t := by
  refine foldlM_induction (fun ms u => ms <+: during → s.Untouched u) (fun _ => ⟨rfl, rfl, rfl⟩) ?_
    hrun List.prefix_rfl
  intro ms u m w hu huntouched hmove hprefix
  have hbefore := (List.prefix_append ms [m]).trans hprefix
  have hm : m ∈ during := hprefix.subset (by simp)
  exact (huntouched hbefore).trans ((h.of_prefix hfruitless hbefore hu).untouched (hms m hm) hmove)

end Fruitless

/-- By a clock that no timer outruns a loop shows what its timeline says when it says it, and always
goes on. The handler adopts what the timeline says, and is asked after that. While the answers that
a loop gets name no endpoints, it changes nothing of what rounds change in a transport. -/
theorem rounds_keep_to_timeline :
    (∀ (σ : Type) (h : DiscoveryHandler σ) (replies : Nat → DiscoveryReply)
        (settings : DiscoverySettings) (state : σ) (ms : List (DiscoveryTask.Pacing.Move σ))
        (s : DiscoveryTask.Pacing σ),
      (DiscoveryTask.Pacing.start settings state).run h replies ms = some s →
      (∃ asked next rest, settings.timeline h replies asked 0 0 = s.timeline ++ next :: rest ∧
        s.now ≤ next.1) ∧
      (∀ n, ∃ later t, (∀ m ∈ later, m.isChange = false) ∧ s.run h replies later = some t ∧
        s.timeline.length + n ≤ t.timeline.length) ∧
      (∀ t, s.step h replies = some t →
        (t.timeline = s.timeline ∧ t.state = s.state) ∨
          ∃ event, t.timeline = s.timeline ++ [(s.now, event)] ∧
            t.state = h.follow s.state [(s.now, event)] ∧ ∀ x, event = .asked x → x = s.state) ∧
      ((∀ m ∈ ms, m.isChange = false) → s.Follows h state)) ∧
    ∀ (c : Config) (hasExecutor : Bool) (transport : Transport) (before during : List Move)
        (s t : Activity) (i number : Nat) (begun : Instant),
      Transport.start c hasExecutor = .ok transport →
      run { transport } before = some s →
      s.transport.discovery.loops[i]? = some (.awaiting number begun) →
      s.run during = some t →
      (∀ first m u, first ++ [m] <+: during → s.run first = some u → u.Fruitless i m) →
      (∀ first m u w, first ++ [m] <+: during → s.run first = some u → u.move m = some w →
        m.isOfLoop i = true → u.Untouched w) ∧
      ((∀ m ∈ during, m.isOfLoop i = true) → s.Untouched t) := by
  refine ⟨?_, ?_⟩
  · intro σ h replies settings state ms s hrun
    obtain ⟨r, calls, past, hs⟩ := DiscoveryTask.Pacing.exists_paced_of_run hrun
    refine ⟨hs.exists_next, hs.exists_run, fun t => DiscoveryTask.Pacing.step_cases, ?_⟩
    intro hms
    exact DiscoveryTask.Pacing.follows_of_run hms hrun
  · intro c hasExecutor transport before during s t i number begun hstart hbefore hloop hrun
      hfruitless
    have hs : s.Barren i := ⟨(guarded_of_start hstart).run hbefore, _, hloop, rfl⟩
    refine ⟨?_, ?_⟩
    · intro first m u w hprefix hu hmove hm
      have hbarren := hs.of_prefix hfruitless ((List.prefix_append first [m]).trans hprefix) hu
      exact hbarren.untouched hm hmove
    · intro hms
      exact hs.untouched_of_run hfruitless hms hrun

/-- A round errs, the next gets no answer, and the one after them is answered at the last moment. An
empty answer passes a transport by. -/
theorem rounds_keep_to_timeline_of_failures :
    let e := Endpoint.ofAddress ⟨"h", 1⟩
    let result : DiscoveryResult := { endpoints := [e] }
    let replies : Nat → DiscoveryReply := fun number =>
      match number with
      | 0 => { delay := some 2, answer := .error .shuttingDown }
      | 1 => { delay := none }
      | _ => { delay := some (Span.seconds 10), answer := .ok result }
    let h : DiscoveryHandler Nat := { isUrgent := fun n => n == 0, adopt := fun _ n => n + 1 }
    let failed (d : Span) : List (DiscoveryTask.Pacing.Move Nat) :=
      [.step, .pass d, .step, .step, .step, .pass (Span.seconds 5), .step]
    let ms := failed 2 ++ failed (Span.seconds 10) ++
      [.step, .pass (Span.seconds 10), .step, .step, .step, .step, .step, .step]
    let empty : RoundView := { RoundView.idle with answer := some (.ok {}) }
    let during : List Move := [.stepLoop 0 empty, .stepLoop 0 .idle, .stepLoop 0 .idle]
    (∃ s, (DiscoveryTask.Pacing.start {} 0).run h replies ms = some s ∧
      s.timeline = [(0, .called 0), (2, .asked 0), (5000000002, .called 1), (15000000002, .asked 0),
        (20000000002, .called 2), (30000000002, .adopted result), (30000000002, .asked 1)] ∧
      s.state = 1) ∧
    ∃ transport s t, Transport.start {} true = .ok transport ∧
      run { transport } [.stepLoop 0 .idle] = some s ∧ s.run during = some t ∧ s.Untouched t := by
  intro e result replies h failed ms empty during
  obtain ⟨hpaced, hbarren⟩ := rounds_keep_to_timeline
  refine ⟨?_, ?_⟩
  · have hruns : ((DiscoveryTask.Pacing.start {} 0).run h replies ms).map (fun s => s.timeline) =
        some [(0, .called 0), (2, .asked 0), (5000000002, .called 1), (15000000002, .asked 0),
          (20000000002, .called 2), (30000000002, .adopted result), (30000000002, .asked 1)] := by
      decide +kernel
    obtain ⟨s, hs, htimeline⟩ := Option.map_eq_some_iff.mp hruns
    refine ⟨s, hs, htimeline, ?_⟩
    obtain ⟨_, _, _, hfollows⟩ := hpaced Nat h replies {} 0 ms s hs
    have hstate := (hfollows (by simp [ms, failed, DiscoveryTask.Pacing.Move.isChange])).state
    rw [hstate, htimeline]
    rfl
  · obtain ⟨transport, hstart⟩ : ∃ transport, Transport.start {} true = .ok transport := ⟨_, rfl⟩
    obtain ⟨s, t, hs, hloop, ht⟩ : ∃ s t, run { transport } [.stepLoop 0 .idle] = some s ∧
        s.transport.discovery.loops[0]? = some (.awaiting 0 0) ∧ s.run during = some t := by
      cases hstart
      exact ⟨_, _, rfl, rfl, rfl⟩
    refine ⟨transport, s, t, hstart, hs, ht, ?_⟩
    have hends := hbarren {} true transport [.stepLoop 0 .idle] during s t 0 0 0 hstart hs hloop
      ht
    refine (hends ?_).2 (by simp [during, Move.isOfLoop])
    intro first m u hprefix _
    have hm : m ∈ during := hprefix.subset (by simp)
    simp only [during, List.mem_cons, List.not_mem_nil, or_false] at hm
    rcases hm with rfl | rfl | rfl
    · intro _ _ answer hanswer
      cases hanswer
      rfl
    · intro _ _ answer hanswer
      cases hanswer
    · intro _ _ answer hanswer
      cases hanswer

end Transport.Activity

end ClusterTransport
