import ClusterTransport.Proofs.Discovery.Activity
import ClusterTransport.Proofs.Transport.Activity

/-!
# The last round

Once discovery is stopped no result reaches the handler, so the rounds that are still under way
leave the endpoints and the gate alone.
-/

namespace ClusterTransport

private theorem Readiness.close_close (g : Readiness) : g.close.close = g.close := by
  cases g <;> rfl

namespace Transport.Activity

variable {s t : Activity}

structure Settled (s : Activity) : Prop where
  guarded : s.Guarded
  stopped : s.transport.discovery.isStopped = true

private theorem Guarded.settled (h : s.Guarded)
    (hpast : ∃ d ∈ s.shutdowns, d.hasStoppedDiscovery = true) : s.Settled := by
  obtain ⟨d, hd, hstopped⟩ := hpast
  refine ⟨h, h.discovery.marked .done ?_ rfl⟩
  exact List.mem_map.mpr ⟨d, hd, ShuttingDown.stopping_eq_done hstopped⟩

private theorem Settled.handlers_eq_done (h : s.Settled) (i : Nat) : s.handlers i = .done := by
  apply h.guarded.handler_eq_done
  intro result hresult
  have hnone := h.guarded.discovery.handing h.stopped _ (List.mem_of_getElem? hresult)
  cases hnone

private theorem Settled.step_handler (h : s.Settled) (i : Nat) (now : Instant) :
    (s.handlers i).step now s.transport = (s.transport, .done) := by
  rw [h.handlers_eq_done i]
  rfl

private theorem Settled.next (h : s.Settled) (hn : s.Next t) : t.Settled := by
  refine ⟨h.guarded.next hn, ?_⟩
  have hstopped := h.stopped
  cases hn with
  | stepLoop i v u action _ hstep =>
    obtain ⟨before, w, after, _, hshift, rfl⟩ := DiscoveryTask.stepLoop_cases hstep
    exact hshift.isStopped_eq.trans hstopped
  | stepHandler i now =>
    have hdiscovery := Adopting.discovery_step now s.transport (s.handlers i)
    dsimp only
    rw [hdiscovery]
    exact hstopped
  | beginShutdown => exact hstopped
  | stepShutdown j d next u _ hshift =>
    cases hshift with
    | stopping o next w hstep => exact Stopping.isStopped_of_step hstep hstopped
    | other d next u hdiscovery _ _ _ _ => exact (congrArg _ hdiscovery).trans hstopped
  | use u hdiscovery _ _ => exact (congrArg _ hdiscovery).trans hstopped

private theorem Settled.move_isOfRound (h : s.Settled) {m : Move} (hm : m.isOfRound = true)
    (hmove : s.move m = some t) :
    t.transport.endpoints = s.transport.endpoints ∧ t.transport.gate = s.transport.gate := by
  cases m with
  | stepLoop i v =>
    obtain ⟨r, _, rfl⟩ := Option.map_eq_some_iff.mp hmove
    exact ⟨rfl, rfl⟩
  | stepHandler i now =>
    simp only [move, h.step_handler i now] at hmove
    cases hmove
    exact ⟨rfl, rfl⟩
  | _ => cases hm

/-- What the last round told is still there, and the gate is as it was or closed. -/
structure Remains (s t : Activity) : Prop where
  round : t.transport.endpoints.current.SameRound s.transport.endpoints.current
  gate : t.transport.gate = s.transport.gate ∨ t.transport.gate = s.transport.gate.close

private theorem Remains.refl (s : Activity) : s.Remains s :=
  ⟨.refl _, Or.inl rfl⟩

private theorem Remains.trans {u : Activity} (h : s.Remains t) (h' : t.Remains u) :
    s.Remains u := by
  refine ⟨h'.round.trans h.round, ?_⟩
  rcases h'.gate with hlast | hlast <;> rcases h.gate with hfirst | hfirst
  · exact Or.inl (hlast.trans hfirst)
  · exact Or.inr (hlast.trans hfirst)
  · exact Or.inr (by rw [hlast, hfirst])
  · exact Or.inr (by rw [hlast, hfirst, Readiness.close_close])

private theorem Settled.remains (h : s.Settled) (hn : s.Next t) : s.Remains t := by
  cases hn with
  | stepLoop i v u action _ _ => exact ⟨.refl _, Or.inl rfl⟩
  | stepHandler i now =>
    have hsame := congrArg Prod.fst (h.step_handler i now)
    refine ⟨?_, Or.inl ?_⟩
    · dsimp only
      rw [hsame]
      exact .refl _
    · dsimp only
      rw [hsame]
  | beginShutdown => exact ⟨.refl _, Or.inl rfl⟩
  | stepShutdown j d next u _ hshift =>
    cases hshift with
    | stopping o next w _ => exact ⟨.refl _, Or.inl rfl⟩
    | other d next u _ hendpoints hgate _ _ =>
      refine ⟨?_, hgate⟩
      dsimp only
      rw [hendpoints]
      exact .refl _
  | use u _ hround hgate => exact ⟨hround, Or.inl hgate⟩

theorem Settled.run {ms : List Move} (h : s.Settled) (hrun : s.run ms = some t) :
    t.Settled ∧ s.Remains t := by
  refine foldlM_invariant (fun u => u.Settled ∧ s.Remains u) ?_ ⟨h, .refl s⟩ hrun
  rintro u m w ⟨hu, hremains⟩ hm
  have hnext := next_of_move hm
  exact ⟨hu.next hnext, hremains.trans (hu.remains hnext)⟩

/-- Once a stop is over the handler has no result and gets none. So once a shutdown has stopped
discovery, no move of a round changes the endpoints or the gate. What the last round told stays,
and only a shutdown still closes the gate. -/
theorem no_round_after_stop :
    (∀ (settings : DiscoverySettings) (timers : Timers) (ms : List DiscoveryTask.Activity.Move)
        (s : DiscoveryTask.Activity),
      DiscoveryTask.Activity.run { task := { settings, timers } } ms = some s →
      .done ∈ s.stops →
      ∀ later t, s.run later = some t → ∀ r ∈ t.task.loops, r.isHanding = false) ∧
    ∀ (c : Config) (hasExecutor : Bool) (transport : Transport) (ms : List Move) (s : Activity),
      Transport.start c hasExecutor = .ok transport →
      run { transport } ms = some s →
      (∃ d ∈ s.shutdowns, d.hasStoppedDiscovery = true) →
      ∀ later t, s.run later = some t →
        s.Remains t ∧ (∀ i, t.handlers i = .done) ∧
        ∀ (m : Move) (u : Activity), m.isOfRound = true → t.move m = some u →
          u.transport.endpoints = t.transport.endpoints ∧
            u.transport.gate = t.transport.gate := by
  refine ⟨?_, ?_⟩
  · intro settings timers ms s hrun hdone later t hlater
    have hguarded := (DiscoveryTask.Activity.guarded_of_run hrun).run hlater
    have hstill := DiscoveryTask.Activity.done_of_run hdone hlater
    exact hguarded.handing (hguarded.marked .done hstill rfl)
  · intro c hasExecutor transport ms s hstart hrun hpast later t hlater
    have hsettled := ((guarded_of_start hstart).run hrun).settled hpast
    obtain ⟨hthen, hremains⟩ := hsettled.run hlater
    refine ⟨hremains, hthen.handlers_eq_done, ?_⟩
    intro m u hm hmove
    exact hthen.move_isOfRound hm hmove

/-- A loop has a result and is to take the lock when the stop begins. It takes the lock after the
stop, and gives the result up. -/
theorem no_round_after_stop_of_late_result :
    let result : DiscoveryResult := { endpoints := [.ofAddress ⟨"h", 1⟩] }
    let answered : RoundView := { RoundView.idle with answer := some (.ok result) }
    (∃ s t, DiscoveryTask.Activity.run { task := {} } [.look true, .spawn, .stepLoop 0 .idle,
        .stepLoop 0 answered, .stepLoop 0 .idle, .beginStop, .stepStop 0, .stepStop 0,
        .stepStop 0] = some s ∧
      s.run [.stepLoop 0 .idle] = some t ∧ t.task.loops = [.rechecking result] ∧
      ∀ r ∈ t.task.loops, r.isHanding = false) ∧
    ∃ transport s t u, Transport.start {} true = .ok transport ∧
      run { transport } [.stepLoop 0 .idle, .stepLoop 0 answered, .stepLoop 0 .idle,
        .beginShutdown, .stepShutdown 0, .stepShutdown 0, .stepShutdown 0, .stepShutdown 0] =
          some s ∧
      s.run [.stepLoop 0 .idle, .stepShutdown 0, .stepShutdown 0] = some t ∧ s.Remains t ∧
      t.move (.stepLoop 0 .idle) = some u ∧
      u.transport.endpoints = t.transport.endpoints ∧ u.transport.gate = t.transport.gate := by
  intro result answered
  obtain ⟨hloops, hrounds⟩ := no_round_after_stop
  refine ⟨?_, ?_⟩
  · have hstopped : ∃ s, DiscoveryTask.Activity.run { task := {} } [.look true, .spawn,
        .stepLoop 0 .idle, .stepLoop 0 answered, .stepLoop 0 .idle, .beginStop, .stepStop 0,
        .stepStop 0, .stepStop 0] = some s ∧ .done ∈ s.stops ∧
        ∃ t, s.run [.stepLoop 0 .idle] = some t ∧ t.task.loops = [.rechecking result] :=
      ⟨_, rfl, by decide, _, rfl, rfl⟩
    obtain ⟨s, hrun, hdone, t, hlater, hloop⟩ := hstopped
    exact ⟨s, t, hrun, hlater, hloop, hloops {} {} _ s hrun hdone _ t hlater⟩
  · have hpast : ∃ transport s, Transport.start {} true = .ok transport ∧
        run { transport } [.stepLoop 0 .idle, .stepLoop 0 answered, .stepLoop 0 .idle,
          .beginShutdown, .stepShutdown 0, .stepShutdown 0, .stepShutdown 0, .stepShutdown 0] =
            some s ∧
        (∃ d ∈ s.shutdowns, d.hasStoppedDiscovery = true) ∧
        ∃ t u, s.run [.stepLoop 0 .idle, .stepShutdown 0, .stepShutdown 0] = some t ∧
          t.move (.stepLoop 0 .idle) = some u :=
      ⟨_, _, rfl, rfl, ⟨_, .head _, rfl⟩, _, _, rfl, rfl⟩
    obtain ⟨transport, s, hstart, hrun, hstopped, t, u, hlater, hmove⟩ := hpast
    obtain ⟨hremains, _, hsame⟩ := hrounds {} true transport _ s hstart hrun hstopped _ t hlater
    exact ⟨transport, s, t, u, hstart, hrun, hlater, hremains, hmove, hsame _ u rfl hmove⟩

end Transport.Activity

end ClusterTransport
