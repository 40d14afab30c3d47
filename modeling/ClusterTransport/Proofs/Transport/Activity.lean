import ClusterTransport.Proofs.Discovery.Guarding
import ClusterTransport.Proofs.EndpointPool.Marks
import ClusterTransport.Transport.Adoption
import ClusterTransport.Transport.Shutdown

/-!
# A transport at work

The loops of discovery, the adoption of their results and any number of shutdowns take their steps
in any order, while calls report how they ended and use the channels.
-/

namespace ClusterTransport

namespace Adopting

def isDone : Adopting → Bool
  | done => true
  | _ => false

theorem eq_done_of_isDone {o : Adopting} (h : o.isDone = true) : o = done := by
  cases o with
  | done => rfl
  | _ => cases h

theorem isDone_of_step {now : Instant} {t : Transport} {o : Adopting}
    (h : (o.step now t).2.isDone = false) : o.isDone = false := by
  cases o with
  | done => exact h
  | _ => rfl

theorem discovery_step (now : Instant) (t : Transport) (o : Adopting) :
    (o.step now t).1.discovery = t.discovery := by
  cases o with
  | removing o => cases o <;> rfl
  | pruning o => cases o <;> rfl
  | _ => rfl

end Adopting

namespace ShuttingDown

/-- How far the stop of discovery is that belongs to a shutdown. One that is over, or that found
the transport shut down, has none any more. -/
def stopping : ShuttingDown → Stopping
  | begun => .begun
  | stoppingDiscovery o => o
  | closingGate => .done
  | closingChannels _ => .done
  | done => .begun

def hasStoppedDiscovery : ShuttingDown → Bool
  | stoppingDiscovery .done => true
  | closingGate => true
  | closingChannels _ => true
  | _ => false

theorem stopping_eq_done {d : ShuttingDown} (h : d.hasStoppedDiscovery = true) :
    d.stopping = .done := by
  cases d with
  | stoppingDiscovery o =>
    cases o with
    | done => rfl
    | _ => cases h
  | closingGate => rfl
  | closingChannels o => rfl
  | _ => cases h

/-- A shutdown stops discovery, closes the gate and the channels, and leaves the endpoints. -/
inductive Shift (t : Transport) : ShuttingDown → Transport → ShuttingDown → Prop where
  | stopping (o next : Stopping) (w : DiscoveryTask) (h : o.step t.discovery = some (w, next)) :
      Shift t (stoppingDiscovery o) { t with discovery := w } (stoppingDiscovery next)
  | other (d next : ShuttingDown) (u : Transport) (hdiscovery : u.discovery = t.discovery)
      (hendpoints : u.endpoints = t.endpoints)
      (hgate : u.gate = t.gate ∨ u.gate = t.gate.close)
      (hlock : next.stopping.holdsLock = d.stopping.holdsLock)
      (hmarked : next.stopping.hasMarked = true → d.stopping.hasMarked = true) : Shift t d u next

theorem step_stoppingDiscovery {o : Stopping} (ho : o ≠ .done) (t : Transport) :
    (stoppingDiscovery o).step t =
      (o.step t.discovery).map fun r => ({ t with discovery := r.1 }, stoppingDiscovery r.2) := by
  cases o with
  | done => exact absurd rfl ho
  | _ => rfl

theorem shift_of_step {t u : Transport} {d next : ShuttingDown} (h : d.step t = some (u, next)) :
    Shift t d u next := by
  cases d with
  | begun =>
    simp only [step] at h
    split at h
    all_goals
      cases h
      exact .other _ _ _ rfl rfl (Or.inl rfl) rfl id
  | stoppingDiscovery o =>
    by_cases ho : o = .done
    · subst ho
      cases h
      exact .other _ _ _ rfl rfl (Or.inl rfl) rfl id
    · rw [step_stoppingDiscovery ho] at h
      obtain ⟨⟨w, o'⟩, ho', heq⟩ := Option.map_eq_some_iff.mp h
      cases heq
      exact .stopping o o' w ho'
  | closingGate =>
    cases h
    exact .other _ _ _ rfl rfl (Or.inr rfl) rfl id
  | closingChannels o =>
    cases o with
    | done count =>
      cases h
      exact .other _ _ _ rfl rfl (Or.inl rfl) rfl
        (by simp [ShuttingDown.stopping, Stopping.hasMarked])
    | _ =>
      cases h
      exact .other _ _ _ rfl rfl (Or.inl rfl) rfl id
  | done => cases h

end ShuttingDown

namespace Transport

/-- A transport with what is in progress on it. -/
structure Activity where
  transport : Transport
  /-- What the handler does with the result that a loop handed over. -/
  handlers : Nat → Adopting := fun _ => .done
  shutdowns : List ShuttingDown := []

namespace Activity

inductive Move where
  | stepLoop (i : Nat) (v : RoundView)
  | stepHandler (i : Nat) (now : Instant)
  | beginShutdown
  | stepShutdown (j : Nat)
  | report (now : Instant) (e : Endpoint) (status : Status)
  /-- Calls use the channels in some way. -/
  | useChannels (channels : ChannelPool)

def Move.isOfRound : Move → Bool
  | stepLoop _ _ => true
  | stepHandler _ _ => true
  | _ => false

def setHandler (s : Activity) (i : Nat) (o : Adopting) : Nat → Adopting :=
  fun k => if k = i then o else s.handlers k

def handlersAfter (s : Activity) (i : Nat) : Option RoundAction → Nat → Adopting
  | some (.handOver result) => s.setHandler i (.begun result)
  | _ => s.handlers

/-- Makes one move; `none` if it has to wait. A loop goes on only when the handler is done with its
result. -/
def move (s : Activity) : Move → Option Activity
  | .stepLoop i v =>
    (s.transport.discovery.stepLoop { v with handled := (s.handlers i).isDone } i).map fun r =>
      { s with
        transport := { s.transport with discovery := r.1 }
        handlers := s.handlersAfter i r.2 }
  | .stepHandler i now =>
    let r := (s.handlers i).step now s.transport
    some { s with transport := r.1, handlers := s.setHandler i r.2 }
  | .beginShutdown => some { s with shutdowns := s.shutdowns ++ [.begun] }
  | .stepShutdown j =>
    s.shutdowns[j]?.bind fun d =>
      (d.step s.transport).map fun r =>
        { s with transport := r.1, shutdowns := s.shutdowns.set j r.2 }
  | .report now e status => some { s with transport := s.transport.report now e status }
  | .useChannels channels => some { s with transport := { s.transport with channels } }

def run (s : Activity) (ms : List Move) : Option Activity :=
  ms.foldlM move s

def stops (s : Activity) : List Stopping :=
  s.shutdowns.map ShuttingDown.stopping

structure Guarded (s : Activity) : Prop where
  discovery : s.transport.discovery.Guarded s.stops
  /-- While the handler is busy with a result, the loop that handed it over waits. -/
  handing : ∀ i, (s.handlers i).isDone = false →
    ∃ result, s.transport.discovery.loops[i]? = some (.handing result)

variable {s t : Activity}

theorem guarded_of_start {c : Config} {hasExecutor : Bool} {transport : Transport}
    (h : Transport.start c hasExecutor = .ok transport) : Guarded { transport } := by
  unfold Transport.start at h
  split at h
  next => cases h
  next discovery hstart =>
    cases h
    have hnew := DiscoveryTask.guarded_new c.discovery {}
    have hdiscovery : discovery =
        (({ settings := c.discovery } : DiscoveryTask).start hasExecutor).1 := by rw [hstart]
    refine ⟨?_, by simp [Adopting.isDone]⟩
    rcases DiscoveryTask.start_cases { settings := c.discovery } hasExecutor with
      hstays | ⟨_, _, _, hspawn⟩
    · rw [hdiscovery, hstays]
      exact hnew
    · rw [hdiscovery, hspawn]
      exact hnew.spawn

theorem Guarded.handler_eq_done (h : s.Guarded) {i : Nat}
    (hloop : ∀ result, s.transport.discovery.loops[i]? ≠ some (.handing result)) :
    s.handlers i = .done := by
  apply Adopting.eq_done_of_isDone
  cases hdone : (s.handlers i).isDone with
  | true => rfl
  | false =>
    obtain ⟨result, hresult⟩ := h.handing i hdone
    exact absurd hresult (hloop result)

private theorem Guarded.handing_stepLoop (h : s.Guarded) {v : RoundView} {i : Nat}
    {u : DiscoveryTask}
    {action : Option RoundAction} (hhandled : v.handled = (s.handlers i).isDone)
    (hstep : s.transport.discovery.stepLoop v i = some (u, action)) (k : Nat)
    (hk : (s.handlersAfter i action k).isDone = false) :
    ∃ result, u.loops[k]? = some (.handing result) := by
  obtain ⟨before, w, after, hbefore, hshift, rfl⟩ := DiscoveryTask.stepLoop_cases hstep
  have hi : i < s.transport.discovery.loops.length := (List.getElem?_eq_some_iff.mp hbefore).1
  by_cases hki : k = i
  · subst hki
    have hafter := List.getElem?_set_self (a := after) hi
    by_cases hhandOver : ∃ result, action = some (.handOver result)
    · obtain ⟨result, rfl⟩ := hhandOver
      exact ⟨result, hshift.eq_handing ▸ hafter⟩
    · -- the handler was busy before, so the loop was not to take a step
      have hsame : s.handlersAfter k action = s.handlers := by
        unfold handlersAfter
        split
        next result => exact absurd ⟨result, rfl⟩ hhandOver
        next => rfl
      rw [hsame] at hk
      obtain ⟨result, hresult⟩ := h.handing k hk
      obtain rfl := Option.some.inj (hbefore.symm.trans hresult)
      cases hk.symm.trans (hhandled.symm.trans hshift.handled)
  · have hsame : s.handlersAfter i action k = s.handlers k := by
      unfold handlersAfter
      split
      next => simp [setHandler, hki]
      next => rfl
    rw [hsame] at hk
    obtain ⟨result, hresult⟩ := h.handing k hk
    refine ⟨result, ?_⟩
    rw [List.getElem?_set_ne (Ne.symm hki)]
    exact hresult

inductive Next (s : Activity) : Activity → Prop where
  | stepLoop (i : Nat) (v : RoundView) (u : DiscoveryTask) (action : Option RoundAction)
      (hhandled : v.handled = (s.handlers i).isDone)
      (hstep : s.transport.discovery.stepLoop v i = some (u, action)) :
      Next s { s with
        transport := { s.transport with discovery := u }
        handlers := s.handlersAfter i action }
  | stepHandler (i : Nat) (now : Instant) :
      Next s { s with
        transport := ((s.handlers i).step now s.transport).1
        handlers := s.setHandler i ((s.handlers i).step now s.transport).2 }
  | beginShutdown : Next s { s with shutdowns := s.shutdowns ++ [.begun] }
  | stepShutdown (j : Nat) (d next : ShuttingDown) (u : Transport) (hd : s.shutdowns[j]? = some d)
      (hshift : ShuttingDown.Shift s.transport d u next) :
      Next s { s with transport := u, shutdowns := s.shutdowns.set j next }
  | use (u : Transport) (hdiscovery : u.discovery = s.transport.discovery)
      (hround : u.endpoints.current.SameRound s.transport.endpoints.current)
      (hgate : u.gate = s.transport.gate) : Next s { s with transport := u }

theorem next_of_move {m : Move} (h : s.move m = some t) : s.Next t := by
  cases m with
  | stepLoop i v =>
    obtain ⟨⟨u, action⟩, hstep, heq⟩ := Option.map_eq_some_iff.mp h
    cases heq
    exact .stepLoop i _ u action rfl hstep
  | stepHandler i now =>
    cases h
    exact .stepHandler i now
  | beginShutdown =>
    cases h
    exact .beginShutdown
  | stepShutdown j =>
    obtain ⟨d, hd, hmap⟩ := Option.bind_eq_some_iff.mp h
    obtain ⟨⟨u, next⟩, hstep, heq⟩ := Option.map_eq_some_iff.mp hmap
    cases heq
    exact .stepShutdown j d next u hd (ShuttingDown.shift_of_step hstep)
  | report now e status =>
    cases h
    simp only [Transport.report]
    split
    next => exact .use _ rfl (.refl _) rfl
    next => exact .use _ rfl (EndpointSet.sameRound_pessimize _ now e) rfl
  | useChannels channels =>
    cases h
    exact .use _ rfl (.refl _) rfl

private theorem discovery_report (t : Transport) (now : Instant) (e : Endpoint) (status : Status) :
    (t.report now e status).discovery = t.discovery := by
  unfold report
  split <;> rfl

theorem loops_of_move {m : Move} (hm : ∀ i v, m ≠ .stepLoop i v) (hmove : s.move m = some t) :
    t.transport.discovery.loops = s.transport.discovery.loops := by
  cases m with
  | stepLoop i v => exact absurd rfl (hm i v)
  | stepHandler i now =>
    cases hmove
    exact congrArg _ (Adopting.discovery_step now s.transport (s.handlers i))
  | stepShutdown j =>
    obtain ⟨d, _, hmap⟩ := Option.bind_eq_some_iff.mp hmove
    obtain ⟨⟨u, next⟩, hstep, heq⟩ := Option.map_eq_some_iff.mp hmap
    cases heq
    cases ShuttingDown.shift_of_step hstep with
    | stopping o next w hstop => exact Stopping.loops_of_step hstop
    | other d next u hdiscovery _ _ _ _ => exact congrArg _ hdiscovery
  | report now e status =>
    cases hmove
    exact congrArg _ (discovery_report s.transport now e status)
  | _ =>
    cases hmove
    rfl

private theorem Guarded.congr (h : s.Guarded)
    (hdiscovery : t.transport.discovery = s.transport.discovery)
    (hstops : s.transport.discovery.Guarded t.stops)
    (hhandlers : ∀ k, (t.handlers k).isDone = false → (s.handlers k).isDone = false) :
    t.Guarded where
  discovery := hdiscovery ▸ hstops
  handing := by
    intro k hk
    rw [hdiscovery]
    exact h.handing k (hhandlers k hk)

theorem Guarded.next (h : s.Guarded) (hn : s.Next t) : t.Guarded := by
  cases hn with
  | stepLoop i v u action hhandled hstep =>
    exact ⟨h.discovery.stepLoop hstep, fun k hk => h.handing_stepLoop hhandled hstep k hk⟩
  | stepHandler i now =>
    refine h.congr (Adopting.discovery_step now s.transport (s.handlers i)) h.discovery ?_
    intro k hk
    by_cases hki : k = i
    · subst hki
      simp only [setHandler, if_true] at hk
      exact Adopting.isDone_of_step hk
    · simpa only [setHandler, if_neg hki] using hk
  | beginShutdown =>
    have hstops : stops { s with shutdowns := s.shutdowns ++ [.begun] } = s.stops ++ [.begun] := by
      simp [stops, ShuttingDown.stopping]
    exact h.congr rfl (hstops ▸ h.discovery.beginStop) fun _ => id
  | stepShutdown j d next u hd hshift =>
    have hstop : s.stops[j]? = some d.stopping := by
      rw [stops, List.getElem?_map, hd]
      rfl
    have hstops : stops { s with transport := u, shutdowns := s.shutdowns.set j next } =
        s.stops.set j next.stopping := List.map_set
    cases hshift with
    | stopping o next w hstep =>
      refine ⟨?_, ?_⟩
      · rw [hstops]
        exact h.discovery.stepStop hstop hstep
      · intro k hk
        dsimp only
        rw [Stopping.loops_of_step hstep]
        exact h.handing k hk
    | other d next u hdiscovery _ _ hlock hmarked =>
      refine h.congr hdiscovery ?_ fun _ => id
      rw [hstops]
      exact h.discovery.replaceStop hstop hlock hmarked
  | use u hdiscovery _ _ => exact h.congr hdiscovery h.discovery fun _ => id

theorem Guarded.run {ms : List Move} (h : s.Guarded) (hrun : s.run ms = some t) : t.Guarded :=
  foldlM_invariant Guarded (fun _ _ _ hs hm => hs.next (next_of_move hm)) h hrun

end Activity

end Transport

end ClusterTransport
