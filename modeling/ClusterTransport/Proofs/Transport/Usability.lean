import ClusterTransport.Channel.Factory
import ClusterTransport.Proofs.ChannelPool.Reading
import ClusterTransport.Proofs.EndpointPool.Selection
import ClusterTransport.Proofs.Transport.CallSteps

/-!
# Ready transports

A round opens the gate after it has replaced the endpoints, and a list without endpoints replaces
nothing. So a transport that is ready has endpoints from then on, and a call that the gate let pass
finds one, whatever rounds come between.
-/

namespace ClusterTransport

private theorem Readiness.signal_ready : ready.signal = ready := rfl

private theorem Readiness.close_ready : ready.close = ready := rfl

namespace EndpointPool

variable {p : EndpointPool}

private theorem size_happen_ne_zero (h : p.current.size ≠ 0) (event : PoolEvent) :
    (p.happen event).current.size ≠ 0 := by
  cases event with
  | round now selfLocation records =>
    by_cases hrecords : records = []
    · rw [hrecords, happen, adopt_nil]
      exact h
    · have hcurrent := current_adopt p now selfLocation hrecords
      simp only [happen, hcurrent]
      exact Nat.ne_of_gt (EndpointSet.size_ofRound_pos _ now _ selfLocation hrecords)
  | failure now e =>
    simp only [happen, pessimize, EndpointSet.size_pessimize]
    exact h

private theorem size_after_ne_zero (h : p.current.size ≠ 0) (events : List PoolEvent) :
    (p.after events).current.size ≠ 0 := by
  induction events generalizing p with
  | nil => exact h
  | cons event events ih => exact ih (size_happen_ne_zero h event)

end EndpointPool

namespace Adopting

/-- A list that is to replace the endpoints is not empty, and neither are the endpoints after it has
replaced them. -/
def IsStocked (current : EndpointSet) : Adopting → Prop
  | replacing result => result.endpoints ≠ []
  | removing _ => current.size ≠ 0
  | pruning _ => current.size ≠ 0
  | signalling => current.size ≠ 0
  | _ => True

private theorem IsStocked.mono {o : Adopting} {current next : EndpointSet} (h : o.IsStocked current)
    (hsize : current.size ≠ 0 → next.size ≠ 0) : o.IsStocked next := by
  cases o with
  | begun result => trivial
  | replacing result => exact h
  | done => trivial
  | _ => exact hsize h

theorem IsStocked.step {o : Adopting} {t : Transport} (h : o.IsStocked t.endpoints.current)
    (now : Instant) : (o.step now t).2.IsStocked (o.step now t).1.endpoints.current := by
  cases o with
  | begun result =>
    simp only [Adopting.step]
    split
    next => trivial
    next huse =>
      intro hnil
      simp [hnil] at huse
  | replacing result =>
    have hcurrent := EndpointPool.current_adopt t.endpoints now result.selfLocation h
    simp only [Adopting.step, IsStocked, hcurrent]
    exact Nat.ne_of_gt (EndpointSet.size_ofRound_pos _ now _ result.selfLocation h)
  | removing o => cases o <;> exact h
  | pruning o => cases o <;> exact h
  | signalling => trivial
  | done => trivial

theorem gate_step (now : Instant) (t : Transport) (o : Adopting) :
    (o.step now t).1.gate = t.gate ∨
      (o = signalling ∧ (o.step now t).1.gate = t.gate.signal) := by
  cases o with
  | removing o => cases o <;> exact Or.inl rfl
  | pruning o => cases o <;> exact Or.inl rfl
  | signalling => exact Or.inr ⟨rfl, rfl⟩
  | _ => exact Or.inl rfl

end Adopting

namespace Transport.Activity

variable {s t : Activity}

theorem gate_of_move {m : Move} (h : s.move m = some t) :
    t.transport.gate = s.transport.gate ∨
      ((∃ j, m = .stepShutdown j) ∧ t.transport.gate = s.transport.gate.close) ∨
      ((∃ i, s.handlers i = .signalling) ∧ t.transport.gate = s.transport.gate.signal) := by
  cases m with
  | stepLoop i v =>
    obtain ⟨r, _, rfl⟩ := Option.map_eq_some_iff.mp h
    exact Or.inl rfl
  | stepHandler i now =>
    cases h
    rcases Adopting.gate_step now s.transport (s.handlers i) with hsame | ⟨hlast, hsignal⟩
    · exact Or.inl hsame
    · exact Or.inr (Or.inr ⟨⟨i, hlast⟩, hsignal⟩)
  | stepShutdown j =>
    obtain ⟨d, _, hmap⟩ := Option.bind_eq_some_iff.mp h
    obtain ⟨⟨u, next⟩, hstep, rfl⟩ := Option.map_eq_some_iff.mp hmap
    cases ShuttingDown.shift_of_step hstep with
    | stopping o next w _ => exact Or.inl rfl
    | other d next u _ _ hgate _ _ =>
      rcases hgate with hsame | hclosed
      · exact Or.inl hsame
      · exact Or.inr (Or.inl ⟨⟨j, rfl⟩, hclosed⟩)
  | report now e status =>
    cases h
    left
    simp only [Transport.report]
    split <;> rfl
  | _ =>
    cases h
    exact Or.inl rfl

theorem ready_of_move {m : Move} (h : s.move m = some t) (hready : s.transport.gate = .ready) :
    t.transport.gate = .ready := by
  rcases gate_of_move h with hsame | ⟨_, hclosed⟩ | ⟨_, hsignal⟩
  · rw [hsame, hready]
  · rw [hclosed, hready, Readiness.close_ready]
  · rw [hsignal, hready, Readiness.signal_ready]

theorem ready_of_run {ms : List Move} (hready : s.transport.gate = .ready)
    (hrun : s.run ms = some t) : t.transport.gate = .ready :=
  foldlM_invariant (fun u : Activity => u.transport.gate = .ready)
    (fun _ _ _ hu hm => ready_of_move hm hu) hready hrun

structure Stocked (s : Activity) : Prop where
  handlers : ∀ i, (s.handlers i).IsStocked s.transport.endpoints.current
  ready : s.transport.gate = .ready → s.transport.endpoints.current.size ≠ 0

theorem Stocked.ready_of_move (h : s.Stocked) {m : Move} (hm : s.move m = some t)
    (hready : t.transport.gate = .ready) : s.transport.endpoints.current.size ≠ 0 := by
  rcases gate_of_move hm with hsame | ⟨_, hclosed⟩ | ⟨⟨i, hlast⟩, _⟩
  · apply h.ready
    rw [← hsame, hready]
  · -- a gate that is open after it was closed was open before
    apply h.ready
    rw [hready] at hclosed
    cases hgate : s.transport.gate with
    | ready => rfl
    | pending => simp [hgate, Readiness.close] at hclosed
    | closed => simp [hgate, Readiness.close] at hclosed
  · -- the gate is opened by a handler that has replaced the endpoints
    have hstocked := h.handlers i
    rw [hlast] at hstocked
    exact hstocked

private theorem handlersAfter_cases (s : Activity) (i : Nat) (action : Option RoundAction)
    (k : Nat) :
    s.handlersAfter i action k = s.handlers k ∨
      ∃ result, s.handlersAfter i action k = .begun result := by
  unfold handlersAfter
  split
  next result =>
    by_cases hki : k = i
    · exact Or.inr ⟨result, by simp [setHandler, hki]⟩
    · exact Or.inl (by simp [setHandler, hki])
  next => exact Or.inl rfl

theorem Stocked.move (h : s.Stocked) {m : Move} (hm : s.move m = some t) : t.Stocked := by
  have hsize : s.transport.endpoints.current.size ≠ 0 →
      t.transport.endpoints.current.size ≠ 0 := by
    intro hpos
    rw [endpoints_of_move hm]
    exact EndpointPool.size_after_ne_zero hpos _
  refine ⟨?_, fun hready => hsize (h.ready_of_move hm hready)⟩
  intro k
  have hold : (s.handlers k).IsStocked t.transport.endpoints.current := (h.handlers k).mono hsize
  cases m with
  | stepLoop i v =>
    obtain ⟨r, _, rfl⟩ := Option.map_eq_some_iff.mp hm
    rcases s.handlersAfter_cases i r.2 k with hsame | ⟨result, hbegun⟩
    · simp only [hsame]
      exact hold
    · simp only [hbegun]
      trivial
  | stepHandler i now =>
    cases hm
    by_cases hki : k = i
    · subst hki
      have hstep := (h.handlers k).step now
      simp only [setHandler, if_true]
      exact hstep
    · simp only [setHandler, hki, if_false]
      exact hold
  | stepShutdown j =>
    obtain ⟨d, _, hmap⟩ := Option.bind_eq_some_iff.mp hm
    obtain ⟨r, _, rfl⟩ := Option.map_eq_some_iff.mp hmap
    exact hold
  | _ =>
    cases hm
    exact hold

theorem stocked_of_start {c : Config} {hasExecutor : Bool} {transport : Transport}
    (h : Transport.start c hasExecutor = .ok transport) : Stocked { transport } := by
  unfold Transport.start at h
  split at h
  next => cases h
  next =>
    cases h
    exact ⟨fun _ => trivial, nofun⟩

theorem Stocked.run {ms : List Move} (h : s.Stocked) (hrun : s.run ms = some t) : t.Stocked :=
  foldlM_invariant Stocked (fun _ _ _ hs hm => hs.move hm) h hrun

end Transport.Activity

/-! ## Calls -/

def Readiness.Wait.hasOpened : Wait → Bool
  | .until _ => false
  | .over opened => opened

private theorem Readiness.ready_of_arrive {g : Readiness} {now : Instant} {timeout : Span}
    (h : (g.arrive now timeout).hasOpened = true) : g = ready := by
  unfold arrive at h
  split at h
  next => simpa [Wait.hasOpened, isReady] using h
  next => cases h

private theorem Readiness.ready_of_look {g : Readiness} {now deadline : Instant}
    (h : (g.look now (.until deadline)).hasOpened = true) : g = ready := by
  simp only [look] at h
  split at h
  next => simpa [Wait.hasOpened, isReady] using h
  next => cases h

def Preparing.isPastGate : Preparing → Bool
  | waiting w => w.hasOpened
  | timing => true
  | selecting => true
  | connecting _ _ => true
  | done (.ok _) => true
  | _ => false

def Getting.Avoids (x : Error) : Getting → Prop
  | done (.error e) => e ≠ x
  | _ => True

def Preparing.Avoids (x : Error) : Preparing → Prop
  | connecting _ g => g.Avoids x
  | done (.error e) => e ≠ x
  | _ => True

namespace Preparing

variable {t u : Transport} {v : View} {p q : Preparing}

theorem ready_of_step (h : p.step t v = some (u, q)) (hq : q.isPastGate = true) :
    p.isPastGate = true ∨ t.gate = .ready := by
  cases p with
  | begun =>
    simp only [step] at h
    split at h <;> cases h <;> cases hq
  | entering =>
    simp only [step] at h
    split at h <;> cases h <;> cases hq
  | arriving =>
    cases h
    exact Or.inr (Readiness.ready_of_arrive hq)
  | waiting w =>
    cases w with
    | «until» deadline =>
      simp only [step] at h
      split at h
      next opened hlook =>
        cases h
        have hopened : (t.gate.look v.now (.until deadline)).hasOpened = true := by
          rw [hlook]
          exact hq
        exact Or.inr (Readiness.ready_of_look hopened)
      next => cases h
    | «over» opened =>
      cases opened with
      | true => exact Or.inl rfl
      | false =>
        cases h
        cases hq
  | refused =>
    cases h
    cases hq
  | done result => cases h
  | _ => exact Or.inl rfl

theorem Avoids.step (h : p.Avoids .noEndpoints) (hstep : p.step t v = some (u, q))
    (hstocked : p = selecting → t.endpoints.current.size ≠ 0)
    (hreach : ∀ e, v.reach e ≠ some .noEndpoints) :
    q.Avoids .noEndpoints := by
  cases p with
  | begun =>
    simp only [Preparing.step, CallSettings.validate] at hstep
    split at hstep
    next fault hfault =>
      cases hstep
      intro heq
      subst heq
      split at hfault
      next =>
        split at hfault <;> cases hfault
      next => cases hfault
    next =>
      cases hstep
      trivial
  | entering =>
    simp only [Preparing.step] at hstep
    split at hstep <;> cases hstep
    · simp [Avoids]
    · trivial
  | arriving =>
    cases hstep
    trivial
  | waiting w =>
    cases w with
    | «until» deadline =>
      simp only [Preparing.step] at hstep
      split at hstep <;> cases hstep
      trivial
    | «over» opened => cases opened <;> cases hstep <;> trivial
  | refused =>
    simp only [Preparing.step] at hstep
    split at hstep <;> cases hstep <;> simp [Avoids]
  | timing =>
    simp only [Preparing.step] at hstep
    split at hstep <;> cases hstep
    · simp [Avoids]
    · trivial
  | selecting =>
    obtain ⟨r, hselect⟩ :=
      EndpointPool.exists_select (hstocked rfl) v.settings.preferred v.words
    simp only [Preparing.step, hselect] at hstep
    cases hstep
    trivial
  | connecting e g =>
    by_cases hdone : ∃ answer, g = .done answer
    · obtain ⟨answer, rfl⟩ := hdone
      cases hstep
      cases answer with
      | ok c => trivial
      | error fault => exact h
    · rw [step_connecting fun answer hg => hdone ⟨answer, hg⟩] at hstep
      cases hstep
      cases hnext : (g.step v.reach e t.channels).2 with
      | done answer =>
        cases answer with
        | ok c => trivial
        | error fault =>
          have hbefore : g ≠ .done (.error fault) := fun hg => hdone ⟨_, hg⟩
          rcases Getting.fault_of_step hbefore hnext with rfl | ⟨_, hfault, _⟩
          · simp [Avoids, Getting.Avoids]
          · intro heq
            exact hreach e (heq ▸ hfault)
      | _ => trivial
  | done result => cases hstep

end Preparing

variable {ρ : Type}

namespace Caller

variable {t u : Transport} {v : Preparing.View} {isCancelled : Bool} {c d : Caller ρ}
  {event : Option (StreamEvent ρ)}

def isPastGate (c : Caller ρ) : Bool :=
  c.isPast Preparing.isPastGate

theorem ready_of_step (h : c.step t v isCancelled = some (u, d, event))
    (hc : c.isPastGate = true → t.gate = .ready) (hd : d.isPastGate = true) :
    t.gate = .ready := by
  have hpast := isPast_of_step (fun _ => t.gate = .ready) (fun _ => rfl)
    (fun _ _ => Preparing.ready_of_step) h hd
  rcases hpast with hpast | ⟨_, _, hready⟩
  · exact hc hpast
  · exact hready

def Avoids (x : Error) : Caller ρ → Prop
  | unary _ (.preparing p) => p.Avoids x
  | unary _ (.done (.error e)) => e ≠ x
  | stream _ (.preparing p) => p.Avoids x
  | stream _ (.failing e) => e ≠ x
  | _ => True

private theorem avoids_preparing (m : AnyMethod ρ) (p : Preparing) (x : Error) :
    (m.preparing p).Avoids x ↔ p.Avoids x := by
  cases m <;> rfl

private theorem avoids_failing (m : AnyMethod ρ) (e x : Error) :
    (m.failing e).Avoids x ↔ e ≠ x := by
  cases m <;> rfl

theorem Avoids.step (h : c.Avoids .noEndpoints)
    (hstep : c.step t v isCancelled = some (u, d, event))
    (hstocked : c.isPastGate = true → t.endpoints.current.size ≠ 0)
    (hreach : ∀ e, v.reach e ≠ some .noEndpoints) :
    d.Avoids .noEndpoints ∧ event ≠ some (.error .noEndpoints) := by
  rcases step_cases hstep with ⟨p, q, hp, hq, rfl, rfl⟩ | ⟨e, he, _, rfl, rfl⟩ |
    ⟨target, _, _, rfl, rfl⟩ | ⟨hnone, _⟩
  · rw [hp, avoids_preparing] at h
    rw [avoids_preparing]
    refine ⟨h.step hq ?_ hreach, by simp⟩
    rintro rfl
    apply hstocked
    rw [isPastGate, hp, isPast_preparing]
    rfl
  · rw [he, avoids_preparing] at h
    rw [avoids_failing]
    exact ⟨h, by simp⟩
  · refine ⟨?_, by simp⟩
    cases c.method <;> trivial
  · cases c with
    | unary m c =>
      obtain ⟨⟨u', c'⟩, hc, heq⟩ := Option.map_eq_some_iff.mp hstep
      cases heq
      refine ⟨?_, by simp⟩
      cases c with
      | preparing p => cases hnone
      | invoking target =>
        cases hc
        trivial
      | awaiting target since =>
        obtain ⟨answer, _, heq⟩ := Option.map_eq_some_iff.mp hc
        cases heq
        trivial
      | reporting target answer =>
        cases answer <;> cases hc
        · simp [Caller.Avoids]
        · trivial
      | done result => cases hc
    | stream m c =>
      obtain ⟨⟨u', c', event'⟩, hc, heq⟩ := Option.map_eq_some_iff.mp hstep
      cases heq
      cases c with
      | preparing p => cases hnone
      | opening target since =>
        obtain ⟨answer, _, heq⟩ := Option.map_eq_some_iff.mp hc
        cases answer <;> cases heq <;> exact ⟨trivial, by simp⟩
      | rejected target s =>
        cases hc
        exact ⟨by simp [Caller.Avoids], by simp⟩
      | failing e =>
        cases hc
        refine ⟨trivial, ?_⟩
        intro heq
        cases heq
        exact h rfl
      | pumping target stream since p =>
        refine ⟨?_, ?_⟩
        · rcases StreamCall.next_of_stepPump hc with ⟨_, _, _, _, rfl⟩ | ⟨_, rfl⟩ <;> trivial
        · intro htold
          obtain ⟨s, hs⟩ := StreamCall.error_of_stepPump hc htold
          cases hs
      | ended => cases hc
      | _ =>
        cases hc
        exact ⟨trivial, by simp⟩

end Caller

/-- Why a factory cannot make a channel to an endpoint. -/
def ChannelFactory.reach (f : ChannelFactory) : Reach := fun e =>
  Except.failure? (f.create e)

private theorem ChannelFactory.reach_ne_noEndpoints (f : ChannelFactory) (e : Endpoint) :
    f.reach e ≠ some .noEndpoints := by
  unfold reach create
  split
  next => exact nofun
  next => split <;> exact nofun

namespace Transport.Calling

variable {s t : Calling ρ}

/-- The call has come to this error, or its observer was told of it. -/
def FailedWith (s : Calling ρ) (e : Error) : Prop :=
  (∃ m, s.caller = .unary m (.done (.error e))) ∨ .error e ∈ s.told

structure Usable (s : Calling ρ) : Prop where
  stocked : s.activity.Stocked
  gate : s.caller.isPastGate = true → s.activity.transport.gate = .ready

theorem Usable.move (h : s.Usable) {m : Move} (hm : s.move m = some t) : t.Usable := by
  obtain ⟨m', hm'⟩ := activity_of_move hm
  refine ⟨h.stocked.move hm', fun hpast => Activity.ready_of_move hm' ?_⟩
  cases m with
  | others m =>
    obtain ⟨a, _, rfl⟩ := Option.map_eq_some_iff.mp hm
    exact h.gate hpast
  | step v isCancelled =>
    obtain ⟨⟨u, d, event⟩, hstep, rfl⟩ := Option.map_eq_some_iff.mp hm
    exact Caller.ready_of_step hstep h.gate hpast

theorem usable_start {a : Activity} (h : a.Stocked) (settings : CallSettings) (m : AnyMethod ρ) :
    (start a settings m).Usable := by
  refine ⟨h, ?_⟩
  cases m <;> exact nofun

theorem Usable.run (h : s.Usable) {ms : List Move} (hrun : s.run ms = some t) : t.Usable :=
  foldlM_invariant Usable (fun _ _ _ hs hm => hs.move hm) h hrun

private theorem Usable.exists_select (h : s.Usable) (hpast : s.caller.isPastGate = true)
    (preferred : Option Endpoint) (w : Balancing.Words) :
    ∃ e, (s.endpoints.select preferred w).1 = .ok e := by
  obtain ⟨r, hr⟩ := EndpointPool.exists_select (h.stocked.ready (h.gate hpast)) preferred w
  exact ⟨r, by rw [endpoints, hr]⟩

def Move.Spares (x : Error) : Move → Prop
  | others _ => True
  | step v _ => ∀ e, v.reach e ≠ some x

structure Avoids (x : Error) (s : Calling ρ) : Prop where
  usable : s.Usable
  caller : s.caller.Avoids x
  told : .error x ∉ s.told

theorem Avoids.move (h : s.Avoids .noEndpoints) {m : Move} (hspares : m.Spares .noEndpoints)
    (hm : s.move m = some t) : t.Avoids .noEndpoints := by
  have husable := h.usable.move hm
  cases m with
  | others m =>
    obtain ⟨a, _, rfl⟩ := Option.map_eq_some_iff.mp hm
    exact ⟨husable, h.caller, h.told⟩
  | step v isCancelled =>
    obtain ⟨⟨u, d, event⟩, hstep, rfl⟩ := Option.map_eq_some_iff.mp hm
    have hstocked : s.caller.isPastGate = true →
        s.activity.transport.endpoints.current.size ≠ 0 := fun hpast =>
      h.usable.stocked.ready (h.usable.gate hpast)
    obtain ⟨hcaller, hevent⟩ := h.caller.step hstep hstocked hspares
    refine ⟨husable, hcaller, ?_⟩
    intro htold
    rcases List.mem_append.mp htold with hold | hnew
    · exact h.told hold
    · exact hevent (Option.mem_toList.mp hnew)

theorem avoids_start {a : Activity} (h : a.Stocked) (settings : CallSettings) (m : AnyMethod ρ) :
    (start a settings m).Avoids .noEndpoints := by
  refine ⟨usable_start h settings m, ?_, ?_⟩
  · cases m <;> trivial
  · exact List.not_mem_nil

theorem Avoids.run (h : s.Avoids .noEndpoints) {ms : List Move}
    (hspares : ∀ m ∈ ms, m.Spares .noEndpoints) (hrun : s.run ms = some t) :
    t.Avoids .noEndpoints :=
  foldlM_invariant_of_forall (Move.Spares .noEndpoints) (Avoids .noEndpoints)
    (fun _ _ _ hm hs => hs.move hm) hspares h hrun

private theorem Avoids.not_failedWith {x : Error} (h : s.Avoids x) : ¬ s.FailedWith x := by
  intro hfailed
  rcases hfailed with ⟨m, hcaller⟩ | htold
  · have havoids := h.caller
    rw [hcaller] at havoids
    exact havoids rfl
  · exact h.told htold

/-- A transport that is ready has endpoints and stays ready. A call that the gate let pass can
select one at every moment, whatever is done to the endpoints meanwhile, and a call fails for want
of endpoints only if the factory of connections answers so; that of a configuration does not. -/
theorem ready_has_endpoints {c : Config} {hasExecutor : Bool} {transport : Transport}
    (hstart : Transport.start c hasExecutor = .ok transport) {before : List Activity.Move}
    {a : Activity} (hbefore : Activity.run { transport } before = some a) :
    (a.transport.isReady = true →
      a.transport.endpoints.current.size ≠ 0 ∧
      ∀ (later : List Activity.Move) (b : Activity), a.run later = some b →
        b.transport.isReady = true ∧ b.transport.endpoints.current.size ≠ 0) ∧
    (∀ (settings : CallSettings) (m : AnyMethod ρ) (ms : List Move) (t : Calling ρ),
      (start a settings m).run ms = some t →
      (t.caller.isPastGate = true →
        t.activity.transport.isReady = true ∧
        ∀ (preferred : Option Endpoint) (w : Balancing.Words),
          ∃ e, (t.endpoints.select preferred w).1 = .ok e) ∧
      ((∀ m ∈ ms, m.Spares .noEndpoints) → ¬ t.FailedWith .noEndpoints)) ∧
    ∀ (f : ChannelFactory) (e : Endpoint), f.reach e ≠ some .noEndpoints := by
  have hstocked : a.Stocked := (Activity.stocked_of_start hstart).run hbefore
  refine ⟨?_, ?_, ChannelFactory.reach_ne_noEndpoints⟩
  · intro hready
    have hgate : a.transport.gate = .ready := of_decide_eq_true hready
    refine ⟨hstocked.ready hgate, ?_⟩
    intro later b hlater
    have hlast := Activity.ready_of_run hgate hlater
    exact ⟨decide_eq_true hlast, (hstocked.run hlater).ready hlast⟩
  · intro settings m ms t hrun
    refine ⟨?_, ?_⟩
    · intro hpast
      have husable := (usable_start hstocked settings m).run hrun
      exact ⟨decide_eq_true (husable.gate hpast), husable.exists_select hpast⟩
    · intro hspares
      exact ((avoids_start hstocked settings m).run hspares hrun).not_failedWith

/-- A round replaces the only endpoint between the gate and the selection. -/
theorem ready_has_endpoints_of_replaced :
    let x := Endpoint.ofAddress ⟨"h", 1⟩
    let y := Endpoint.ofAddress ⟨"h", 2⟩
    let round : Instant → Endpoint → List Activity.Move := fun now e =>
      [.stepLoop 0 { RoundView.idle with now }, .stepLoop 0 .idle,
        .stepLoop 0 { RoundView.idle with answer := some (.ok { endpoints := [e] }) },
        .stepLoop 0 .idle, .stepLoop 0 .idle, .stepLoop 0 .idle] ++
          List.replicate 11 (.stepHandler 0 now) ++ [.stepLoop 0 .idle, .stepLoop 0 .idle]
    let before := (round 0 x).tail
    let m : AnyMethod String := .unary fun _ _ => none
    let v : Preparing.View :=
      { settings := {}, reach := fun _ => none, words := { next := fun _ => 0 }, now := 0,
        markTime := 0 }
    let steps := List.replicate 5 (Move.step v false) ++
      (round (Span.seconds 60) y).map .others
    ∃ transport a t, Transport.start {} true = .ok transport ∧
      Activity.run { transport } before = some a ∧ (start a {} m).run steps = some t ∧
      a.transport.endpoints.current.contains x = true ∧ t.endpoints.current.contains x = false ∧
      (∃ e, (t.endpoints.select none v.words).1 = .ok e) ∧ ¬ t.FailedWith .noEndpoints := by
  intro x y round before m v steps
  obtain ⟨transport, hstart⟩ : ∃ transport, Transport.start {} true = .ok transport := ⟨_, rfl⟩
  have hruns : ((Activity.run { transport } before).bind fun a =>
      ((start a {} m).run steps).map fun t =>
        (a.transport.endpoints.current.contains x, t.endpoints.current.contains x,
          t.caller.isPastGate)) = some (true, false, true) := by
    cases hstart
    decide +kernel
  simp only [Option.bind_eq_some_iff, Option.map_eq_some_iff, Prod.mk.injEq] at hruns
  obtain ⟨a, hbefore, t, hrun, hknown, hgone, hpast⟩ := hruns
  obtain ⟨_, hcalls, _⟩ := ready_has_endpoints hstart hbefore
  obtain ⟨husable, hnever⟩ := hcalls {} m steps t hrun
  have hspares : ∀ m ∈ steps, m.Spares .noEndpoints := by
    simp [steps, Move.Spares, v]
  exact ⟨transport, a, t, hstart, hbefore, hrun, hknown, hgone, (husable hpast).2 none v.words,
    hnever hspares⟩

end Transport.Calling

end ClusterTransport
