import ClusterTransport.Proofs.Transport.Rejection
import ClusterTransport.Proofs.Transport.Usability

/-!
# Calls at the gate

A call that finds the gate pending waits until the gate has settled or the time of the call is up.
By the clock of a call no time passes while the call can take a step, and never more than the call
has to wait.
-/

namespace ClusterTransport

namespace CallSettings

/-- How long a call waits at the gate: until its deadline, or as long as is usual if it has none. -/
def patience (s : CallSettings) (usual : Span) (now : Instant) : Span :=
  s.deadline.elim usual fun due => due - now

private theorem getD_remaining (s : CallSettings) (usual : Span) (now : Instant) :
    (s.remaining now).getD usual = s.patience usual now := by
  unfold remaining patience
  cases s.deadline <;> rfl

private theorem isExpired_eq_false_iff {s : CallSettings} {now : Instant} :
    s.isExpired now = false ↔ ∀ due, s.deadline = some due → now < due := by
  unfold isExpired remaining
  cases s.deadline with
  | none => simp
  | some due => simp [Nat.sub_eq_zero_iff_le]

end CallSettings

def Transport.refusal (t : Transport) : Error :=
  if t.isShutdown then .shuttingDown else .notReady

theorem ShuttingDown.defaultDeadline_of_step {t u : Transport} {d next : ShuttingDown}
    (h : d.step t = some (u, next)) : u.defaultDeadline = t.defaultDeadline := by
  cases d with
  | begun =>
    simp only [step] at h
    split at h <;> cases h <;> rfl
  | stoppingDiscovery o =>
    by_cases ho : o = .done
    · subst ho
      cases h
      rfl
    · rw [step_stoppingDiscovery ho] at h
      obtain ⟨r, _, heq⟩ := Option.map_eq_some_iff.mp h
      cases heq
      rfl
  | closingChannels o => cases o <;> cases h <;> rfl
  | closingGate =>
    cases h
    rfl
  | done => cases h

namespace Transport.Activity

variable {s t : Activity} {m : Move}

theorem closed_of_move (h : s.move m = some t) (hclosed : s.transport.gate = .closed) :
    t.transport.gate = .closed := by
  rcases gate_of_move h with hsame | ⟨_, hagain⟩ | ⟨_, hsignal⟩
  · rw [hsame, hclosed]
  · rw [hagain, hclosed]
    rfl
  · rw [hsignal, hclosed]
    rfl

structure Closing (s : Activity) : Prop where
  flagged : s.Flagged
  isShutdown : s.transport.gate = .closed → s.transport.isShutdown = true

theorem Closing.move (h : s.Closing) (hm : s.move m = some t) : t.Closing := by
  refine ⟨h.flagged.move hm, ?_⟩
  intro hclosed
  rcases gate_of_move hm with hsame | ⟨⟨j, rfl⟩, _⟩ | ⟨_, hsignal⟩
  · apply isShutdown_of_move hm
    apply h.isShutdown
    rw [← hsame, hclosed]
  · exact h.flagged.isShutdown_of_stepShutdown hm
  · -- a signal leaves a closed gate closed, and closes none
    apply isShutdown_of_move hm
    apply h.isShutdown
    cases hgate : s.transport.gate with
    | closed => rfl
    | pending => simp [hgate, hclosed, Readiness.signal] at hsignal
    | ready => simp [hgate, hclosed, Readiness.signal] at hsignal

theorem closing_of_start {c : Config} {hasExecutor : Bool} {transport : Transport}
    (h : Transport.start c hasExecutor = .ok transport) : Closing { transport } := by
  unfold Transport.start at h
  split at h
  next => cases h
  next =>
    cases h
    exact ⟨nofun, nofun⟩

theorem Closing.run {ms : List Move} (h : s.Closing) (hrun : s.run ms = some t) : t.Closing :=
  foldlM_invariant Closing (fun _ _ _ hs hm => hs.move hm) h hrun

theorem defaultDeadline_of_move (h : s.move m = some t) :
    t.transport.defaultDeadline = s.transport.defaultDeadline := by
  cases m with
  | stepLoop i v =>
    obtain ⟨r, _, rfl⟩ := Option.map_eq_some_iff.mp h
    rfl
  | stepHandler i now =>
    cases h
    dsimp only
    cases s.handlers i with
    | removing o => cases o <;> rfl
    | pruning o => cases o <;> rfl
    | _ => rfl
  | stepShutdown j =>
    obtain ⟨d, _, hmap⟩ := Option.bind_eq_some_iff.mp h
    obtain ⟨⟨u, next⟩, hstep, rfl⟩ := Option.map_eq_some_iff.mp hmap
    exact ShuttingDown.defaultDeadline_of_step hstep
  | report now e status =>
    cases h
    dsimp only [Transport.report]
    split <;> rfl
  | _ =>
    cases h
    rfl

theorem defaultDeadline_of_start {c : Config} {hasExecutor : Bool} {transport : Transport}
    (h : Transport.start c hasExecutor = .ok transport) {ms : List Move}
    (hrun : run { transport } ms = some t) :
    t.transport.defaultDeadline = Span.seconds c.defaultDeadline.toNat := by
  refine foldlM_invariant
    (fun u : Activity => u.transport.defaultDeadline = Span.seconds c.defaultDeadline.toNat)
    (fun _ _ _ hu hm => (defaultDeadline_of_move hm).trans hu) ?_ hrun
  unfold Transport.start at h
  split at h
  next => cases h
  next =>
    cases h
    rfl

end Transport.Activity

/-- A step that comes neither from nor to a method does nothing to the endpoints. -/
theorem Phase.Next.untouched {ρ : Type} {m : AnyMethod ρ} {v : Preparing.View}
    {p q : EndpointPool} {phase next : Phase} (h : Next m v p phase q next)
    (hphase : phase = before ∨ phase = settled) (hnext : next.invoked? = none) :
    q = p ∧ (next = before ∨ next = settled) := by
  cases h with
  | preparing => exact ⟨rfl, Or.inl rfl⟩
  | refused => exact ⟨rfl, Or.inr rfl⟩
  | resting => exact ⟨rfl, Or.inr rfl⟩
  | invoking target => cases hnext
  | _ => rcases hphase with hp | hp <;> cases hp

namespace Preparing

variable {t u : Transport} {v : View} {p q : Preparing}

def isInTime : Preparing → Bool
  | selecting => true
  | connecting _ _ => true
  | done (.ok _) => true
  | _ => false

theorem isInTime_of_step (h : p.step t v = some (u, q)) (hq : q.isInTime = true) :
    p.isInTime = true ∨ (p = timing ∧ ∀ due, v.settings.deadline = some due → v.now < due) := by
  cases p with
  | begun =>
    simp only [step] at h
    split at h <;> cases h <;> cases hq
  | entering =>
    simp only [step] at h
    split at h <;> cases h <;> cases hq
  | waiting w =>
    cases w with
    | «until» deadline =>
      simp only [step] at h
      split at h <;> cases h
      cases hq
    | «over» opened => cases opened <;> cases h <;> cases hq
  | timing =>
    cases hexpired : v.settings.isExpired v.now with
    | true =>
      simp only [step, hexpired] at h
      cases h
      cases hq
    | false => exact Or.inr ⟨rfl, CallSettings.isExpired_eq_false_iff.mp hexpired⟩
  | selecting => exact Or.inl rfl
  | connecting e g => exact Or.inl rfl
  | done result => cases h
  | _ =>
    cases h
    cases hq

theorem until_of_step {deadline : Instant} (h : p.step t v = some (u, q))
    (hq : q = waiting (.until deadline)) :
    p = arriving ∧
      deadline = v.now + v.timers.run (v.settings.patience t.defaultDeadline v.now) := by
  subst hq
  cases p with
  | begun =>
    simp only [step] at h
    split at h <;> cases h
  | entering =>
    simp only [step] at h
    split at h <;> cases h
  | arriving =>
    simp only [step, Readiness.arrive, CallSettings.getD_remaining] at h
    split at h
    next => cases h
    next =>
      cases h
      exact ⟨rfl, rfl⟩
  | waiting w =>
    cases w with
    | «until» deadline =>
      simp only [step] at h
      split at h <;> cases h
    | «over» opened => cases opened <;> cases h
  | timing =>
    simp only [step] at h
    split at h <;> cases h
  | selecting =>
    simp only [step] at h
    split at h <;> cases h
  | connecting e g => cases g <;> cases h
  | done result => cases h
  | refused => cases h

private theorem eq_until_of_due? {deadline : Instant} (h : p.due? = some deadline) :
    p = waiting (.until deadline) := by
  unfold due? at h
  split at h <;> cases h
  rfl

private theorem step_until_pending {deadline : Instant} (hgate : t.gate = .pending)
    (hearly : v.now < deadline) : (waiting (.until deadline)).step t v = none := by
  have hnot : ¬ deadline ≤ v.now := Nat.not_le_of_lt hearly
  simp [step, Readiness.look, Readiness.isSettled, hgate, hnot]

private theorem step_until_expired {deadline : Instant} (hgate : t.gate = .pending)
    (hlate : deadline ≤ v.now) :
    (waiting (.until deadline)).step t v = some (t, waiting (.over false)) := by
  simp [step, Readiness.look, Readiness.isSettled, Readiness.isReady, hgate, hlate]

private theorem step_until_closed (deadline : Instant) (hgate : t.gate = .closed) :
    (waiting (.until deadline)).step t v = some (t, waiting (.over false)) := by
  simp [step, Readiness.look, Readiness.isSettled, Readiness.isReady, hgate]

private theorem step_arriving_refused
    (h : t.gate = .closed ∨ t.gate = .pending ∧
      v.timers.run (v.settings.patience t.defaultDeadline v.now) = 0) :
    arriving.step t v = some (t, waiting (.over false)) := by
  rcases h with hclosed | ⟨hpending, hzero⟩
  · simp [step, Readiness.arrive, Readiness.isSettled, Readiness.isReady, hclosed]
  · simp [step, Readiness.arrive, Readiness.isReady, CallSettings.getD_remaining, hpending, hzero]

private theorem step_refused (t : Transport) (v : View) :
    refused.step t v = some (t, done (.error t.refusal)) := rfl

/-- The gate does not let the call pass any more, and the call takes so many steps at most until it
is over. -/
inductive IsTurnedAway (g : Readiness) : Nat → Preparing → Prop where
  | closed (deadline : Instant) (h : g = .closed) : IsTurnedAway g 6 (waiting (.until deadline))
  | denied : IsTurnedAway g 5 (waiting (.over false))
  | refused : IsTurnedAway g 4 refused

theorem IsTurnedAway.step {n : Nat} (h : p.IsTurnedAway t.gate n) (v : View) :
    (∃ q n', p.step t v = some (t, q) ∧ q.IsTurnedAway t.gate n' ∧ n' < n) ∨
      (p = .refused ∧ n = 4) := by
  cases h with
  | closed deadline hclosed =>
    exact Or.inl ⟨_, 5, step_until_closed deadline hclosed, .denied, Nat.lt_succ_self 5⟩
  | denied => exact Or.inl ⟨_, 4, rfl, .refused, Nat.lt_succ_self 4⟩
  | refused => exact Or.inr ⟨rfl, rfl⟩

private theorem IsTurnedAway.mono {g g' : Readiness} {n : Nat} (h : p.IsTurnedAway g n)
    (hclosed : g = .closed → g' = .closed) : p.IsTurnedAway g' n := by
  cases h with
  | closed deadline hg => exact .closed deadline (hclosed hg)
  | denied => exact .denied
  | refused => exact .refused

end Preparing

namespace Transport.Calling

variable {ρ : Type} {s t : Calling ρ} {m : Move}

structure Gated (settings : CallSettings) (wait : Span) (s : Calling ρ) : Prop where
  usable : s.Usable
  closing : s.activity.Closing
  settings_eq : s.settings = settings
  wait_eq : s.activity.transport.defaultDeadline = wait
  /-- A call that was not invoked has not touched the endpoints. -/
  untouched : s.invoked = none →
    s.endpoints = s.without ∧ (s.caller.phase = .before ∨ s.caller.phase = .settled)
  preparing : ∀ p, s.caller.preparing? = some p → s.told = [] ∧ s.invoked = none

theorem gated_start {a : Activity} (hstocked : a.Stocked) (hclosing : a.Closing)
    (settings : CallSettings) (m : AnyMethod ρ) :
    (start a settings m).Gated settings a.transport.defaultDeadline := by
  refine ⟨usable_start hstocked settings m, hclosing, rfl, rfl, fun _ => ⟨rfl, Or.inl ?_⟩,
    fun _ _ => ⟨rfl, rfl⟩⟩
  cases m <;> rfl

theorem Gated.move {settings : CallSettings} {wait : Span} (h : s.Gated settings wait)
    (hm : s.move m = some t) : t.Gated settings wait := by
  obtain ⟨m', hm'⟩ := activity_of_move hm
  have husable := h.usable.move hm
  have hclosing := h.closing.move hm'
  have hwait := (Activity.defaultDeadline_of_move hm').trans h.wait_eq
  cases m with
  | others m =>
    obtain ⟨a, ha, rfl⟩ := Option.map_eq_some_iff.mp hm
    refine ⟨husable, hclosing, h.settings_eq, hwait, ?_, h.preparing⟩
    intro hnone
    obtain ⟨hsame, hphase⟩ := h.untouched hnone
    simp only [endpoints] at hsame ⊢
    rw [Activity.endpoints_of_move ha, hsame]
    exact ⟨rfl, hphase⟩
  | step v isCancelled =>
    obtain ⟨⟨u, d, event⟩, hstep, rfl⟩ := Option.map_eq_some_iff.mp hm
    refine ⟨husable, hclosing, h.settings_eq, hwait, ?_, ?_⟩
    · intro hnone
      obtain ⟨hbefore, hduring⟩ := Option.or_eq_none_iff.mp hnone
      obtain ⟨hsame, hphase⟩ := h.untouched hbefore
      obtain ⟨hkept, hlast⟩ := (Caller.next_of_step hstep).2.untouched hphase hduring
      exact ⟨hkept.trans hsame, hlast⟩
    · intro q hq
      obtain ⟨p, hp, _, rfl⟩ := Caller.preparing_of_step hstep hq
      obtain ⟨htold, hinvoked⟩ := h.preparing p hp
      simp [htold, hinvoked, Caller.invoked?_of_preparing? hq]

end Transport.Calling

variable {ρ : Type}

def Caller.due? : Caller ρ → Option Instant
  | unary m c => c.due? m
  | stream m c => c.due? m

private theorem Caller.due?_preparing (m : AnyMethod ρ) (p : Preparing) :
    (m.preparing p).due? = p.due? := by
  cases m <;> rfl

namespace Transport

structure Timed (ρ : Type) where
  calling : Calling ρ
  now : Instant

namespace Timed

inductive Move where
  | others (m : Activity.Move)
  | step (v : Preparing.View) (isCancelled : Bool)
  | pass (v : Preparing.View) (isCancelled : Bool) (d : Span)

def Move.isStep : Move → Bool
  | step .. => true
  | _ => false

def go (s : Timed ρ) (v : Preparing.View) (isCancelled : Bool) : Option (Calling ρ) :=
  s.calling.move (.step { v with now := s.now } isCancelled)

def move (s : Timed ρ) : Move → Option (Timed ρ)
  | .others m => (s.calling.move (.others m)).map fun c => { s with calling := c }
  | .step v isCancelled => (s.go v isCancelled).map fun c => { s with calling := c }
  | .pass v isCancelled d =>
    if (s.go v isCancelled).isNone && s.calling.caller.due?.all fun due => s.now + d ≤ due then
      some { s with now := s.now + d }
    else none

def run (s : Timed ρ) (ms : List Move) : Option (Timed ρ) :=
  ms.foldlM move s

def start (a : Activity) (settings : CallSettings) (m : AnyMethod ρ) (began : Instant) : Timed ρ :=
  ⟨.start a settings m, began⟩

/-- In the course of a run the call took a step of which this holds. -/
def Took (s : Timed ρ) (ms : List Move) (holds : Timed ρ → Preparing.View → Prop) : Prop :=
  ∃ first v isCancelled rest u,
    ms = first ++ .step v isCancelled :: rest ∧ s.run first = some u ∧ holds u v

def preparing? (s : Timed ρ) : Option Preparing :=
  s.calling.caller.preparing?

def transport (s : Timed ρ) : Transport :=
  s.calling.activity.transport

variable {s t u : Timed ρ} {ms : List Move} {m : Move}
  {holds : Timed ρ → Preparing.View → Prop}

private theorem Took.append (h : s.Took ms holds) (more : List Move) :
    s.Took (ms ++ more) holds := by
  obtain ⟨first, v, isCancelled, rest, u, rfl, hrun, hu⟩ := h
  exact ⟨first, v, isCancelled, rest ++ more, u, by simp, hrun, hu⟩

private theorem took_last {v : Preparing.View} (isCancelled : Bool) (hrun : s.run ms = some u)
    (hu : holds u v) : s.Took (ms ++ [.step v isCancelled]) holds :=
  ⟨ms, v, isCancelled, [], u, rfl, hrun, hu⟩

theorem calling_of_move (h : s.move m = some t) :
    t.calling = s.calling ∨ ∃ m', s.calling.move m' = some t.calling := by
  cases m with
  | others m =>
    obtain ⟨c, hc, rfl⟩ := Option.map_eq_some_iff.mp h
    exact Or.inr ⟨_, hc⟩
  | step v isCancelled =>
    obtain ⟨c, hc, rfl⟩ := Option.map_eq_some_iff.mp h
    exact Or.inr ⟨_, hc⟩
  | pass v isCancelled d =>
    simp only [move] at h
    split at h <;> cases h
    exact Or.inl rfl

structure Known (settings : CallSettings) (wait : Span) (s : Timed ρ) (ms : List Move)
    (t : Timed ρ) : Prop where
  gated : t.calling.Gated settings wait
  inTime : t.calling.caller.isPast Preparing.isInTime = true ∨ t.calling.invoked ≠ none →
    s.Took ms fun u _ => u.preparing? = some .timing ∧ u.transport.gate = .ready ∧
      ∀ due, settings.deadline = some due → u.now < due
  waiting : ∀ deadline, t.preparing? = some (.waiting (.until deadline)) → t.now ≤ deadline ∧
    s.Took ms fun u v => u.preparing? = some .arriving ∧
      deadline = u.now + v.timers.run (settings.patience wait u.now)

section Known

variable {settings : CallSettings} {wait : Span} {v : Preparing.View} {isCancelled : Bool}
  {w : Transport} {d : Caller ρ} {event : Option (StreamEvent ρ)}

theorem Known.inTime_of_step (h : Known settings wait s ms u) (hrun : s.run ms = some u)
    (hstep : u.calling.caller.step u.transport
      { v with now := u.now, settings := u.calling.settings } isCancelled = some (w, d, event))
    (hpast : d.isPast Preparing.isInTime = true ∨ u.calling.invoked.or d.phase.invoked? ≠ none) :
    s.Took (ms ++ [.step v isCancelled]) fun u _ => u.preparing? = some .timing ∧
      u.transport.gate = .ready ∧ ∀ due, settings.deadline = some due → u.now < due := by
  have hsettings := h.gated.settings_eq
  -- a method that is invoked by this step is invoked after its deadline was checked
  have hlast : d.isPast Preparing.isInTime = true ∨ u.calling.invoked ≠ none := by
    rcases hpast with hpast | hinvoked
    · exact Or.inl hpast
    · by_cases hbefore : u.calling.invoked = none
      · left
        apply Caller.isPast_of_invoked
        simpa [hbefore] using hinvoked
      · exact Or.inr hbefore
  rcases hlast with hpast | hbefore
  · have hstepped := Caller.isPast_of_step
      (fun p => p = .timing ∧ ∀ due, settings.deadline = some due → u.now < due) (fun _ => rfl)
      (fun p q hp hq => hsettings ▸ Preparing.isInTime_of_step hp hq) hstep hpast
    rcases hstepped with hpast | ⟨p, hp, rfl, htime⟩
    · exact (h.inTime (Or.inl hpast)).append _
    · apply took_last isCancelled hrun
      refine ⟨hp, ?_, htime⟩
      apply h.gated.usable.gate
      simp [Caller.isPastGate, Caller.isPast, hp, Preparing.isPastGate]
  · exact (h.inTime (Or.inr hbefore)).append _

theorem Known.waiting_of_step (h : Known settings wait s ms u) (hrun : s.run ms = some u)
    (hstep : u.calling.caller.step u.transport
      { v with now := u.now, settings := u.calling.settings } isCancelled = some (w, d, event))
    {deadline : Instant} (hwaits : d.preparing? = some (.waiting (.until deadline))) :
    u.now ≤ deadline ∧ s.Took (ms ++ [.step v isCancelled]) fun u v =>
      u.preparing? = some .arriving ∧
        deadline = u.now + v.timers.run (settings.patience wait u.now) := by
  obtain ⟨p, hp, hq, _⟩ := Caller.preparing_of_step hstep hwaits
  obtain ⟨rfl, hdeadline⟩ := Preparing.until_of_step hq rfl
  simp only [h.gated.settings_eq] at hdeadline
  refine ⟨?_, took_last isCancelled hrun ⟨hp, ?_⟩⟩
  · rw [hdeadline]
    exact Nat.le_add_right ..
  · rw [hdeadline, ← h.gated.wait_eq]
    rfl

theorem Known.move (hrun : s.run ms = some u) (h : Known settings wait s ms u)
    (hm : u.move m = some t) : Known settings wait s (ms ++ [m]) t := by
  have hgated : t.calling.Gated settings wait := by
    rcases calling_of_move hm with hsame | ⟨m', hm'⟩
    · exact hsame ▸ h.gated
    · exact h.gated.move hm'
  cases m with
  | others m =>
    obtain ⟨c, hc, rfl⟩ := Option.map_eq_some_iff.mp hm
    obtain ⟨a, _, rfl⟩ := Option.map_eq_some_iff.mp hc
    refine ⟨hgated, fun hpast => (h.inTime hpast).append _, ?_⟩
    intro deadline hwaits
    obtain ⟨hnow, harrived⟩ := h.waiting deadline hwaits
    exact ⟨hnow, harrived.append _⟩
  | step v isCancelled =>
    obtain ⟨c, hc, rfl⟩ := Option.map_eq_some_iff.mp hm
    obtain ⟨⟨w, d, event⟩, hstep, rfl⟩ := Option.map_eq_some_iff.mp hc
    refine ⟨hgated, ?_, ?_⟩
    · intro hpast
      exact h.inTime_of_step (v := v) hrun hstep hpast
    · intro deadline hwaits
      exact h.waiting_of_step (v := v) hrun hstep hwaits
  | pass v isCancelled d =>
    -- the instant that the call waits for is the bound of what may pass
    simp only [Timed.move] at hm
    split at hm
    next hpass =>
      cases hm
      refine ⟨hgated, fun hpast => (h.inTime hpast).append _, ?_⟩
      intro deadline hwaits
      obtain ⟨_, harrived⟩ := h.waiting deadline hwaits
      refine ⟨?_, harrived.append _⟩
      have hcaller := Caller.preparing?_eq_some_iff.mp hwaits
      rw [hcaller, Caller.due?_preparing] at hpass
      simp only [Bool.and_eq_true] at hpass
      exact of_decide_eq_true hpass.2
    next => cases hm

end Known

theorem move_step {v : Preparing.View} {isCancelled : Bool} {d : Caller ρ}
    {event : Option (StreamEvent ρ)}
    (h : s.calling.caller.step s.transport
      { v with now := s.now, settings := s.calling.settings } isCancelled =
        some (s.transport, d, event)) :
    s.move (.step v isCancelled) = some { s with calling := { s.calling with
      caller := d
      told := s.calling.told ++ event.toList
      invoked := s.calling.invoked.or d.phase.invoked? } } := by
  have hmove : s.go v isCancelled = some { s.calling with
      caller := d
      told := s.calling.told ++ event.toList
      invoked := s.calling.invoked.or d.phase.invoked? } :=
    Option.map_eq_some_iff.mpr ⟨_, h, rfl⟩
  rw [move, hmove]
  rfl

theorem known_of_run {a : Activity} {settings : CallSettings} {method : AnyMethod ρ}
    {began : Instant} {wait : Span} (h : (Calling.start a settings method).Gated settings wait)
    (hrun : (start a settings method began).run ms = some t) :
    Known settings wait (start a settings method began) ms t := by
  refine foldlM_induction (Known settings wait _) ?_ (fun _ _ _ _ => Known.move) hrun
  refine ⟨h, ?_, ?_⟩
  · intro hpast
    rcases hpast with hpast | hinvoked
    · cases method <;> cases hpast
    · exact absurd rfl hinvoked
  · intro deadline hwaits
    cases method <;> cases hwaits

/-! ## Turned away -/

structure Leaving (m : AnyMethod ρ) (s : Timed ρ) (later : List Move) (w : Timed ρ) (n : Nat) :
    Prop where
  steps : later.countP Move.isStep + n ≤ 6
  still : w.calling.caller.isOver = false → w.now = s.now
  invoked : w.calling.invoked = none
  without : w.calling.without = w.calling.endpoints
  isShutdown : s.transport.isShutdown = true → w.transport.isShutdown = true
  leaving :
    (∃ p, w.calling.caller = m.preparing p ∧ p.IsTurnedAway w.transport.gate n ∧
      w.calling.told = []) ∨
    ∃ e, Caller.Failing e m n w.calling.caller w.calling.told ∧
      (e = .shuttingDown ∧ w.transport.isShutdown = true ∨
        e = .notReady ∧ s.transport.isShutdown = false) ∧
      s.Took later fun u _ => u.preparing? = some .refused ∧ e = u.transport.refusal

variable {method : AnyMethod ρ} {n : Nat} {later : List Move} {w : Timed ρ}

private theorem Leaving.refusal_cases (h : Leaving method s later w n) :
    w.transport.refusal = .shuttingDown ∧ w.transport.isShutdown = true ∨
      w.transport.refusal = .notReady ∧ s.transport.isShutdown = false := by
  cases hflag : w.transport.isShutdown with
  | true => exact Or.inl ⟨if_pos hflag, rfl⟩
  | false =>
    right
    refine ⟨by simp [Transport.refusal, hflag], ?_⟩
    by_contra hbefore
    have hset := h.isShutdown (by simpa using hbefore)
    rw [hflag] at hset
    cases hset

theorem Leaving.step (h : Leaving method s later w n) (hrun : s.run later = some w)
    (hover : w.calling.caller.isOver = false) (v : Preparing.View) (isCancelled : Bool) :
    ∃ x n', w.move (.step v isCancelled) = some x ∧
      Leaving method s (later ++ [.step v isCancelled]) x n' := by
  have hcount : ∀ n', n' < n →
      (later ++ [Move.step v isCancelled]).countP Move.isStep + n' ≤ 6 := by
    intro n' hn'
    have hsteps := h.steps
    simp only [List.countP_append, List.countP_singleton, Move.isStep, if_true]
    omega
  have hnow := h.still hover
  rcases h.leaving with ⟨p, hp, haway, htold⟩ | ⟨e, hfailing, hwhy, hrefused⟩
  -- the call is being prepared until it has asked why it was turned away
  · rcases haway.step { v with now := w.now, settings := w.calling.settings } with
      ⟨q, n', hq, hnext, hless⟩ | ⟨rfl, rfl⟩
    · have hstep := Caller.step_of_preparing method hq isCancelled
      rw [← hp] at hstep
      refine ⟨_, n', move_step hstep, ?_⟩
      refine ⟨hcount n' hless, fun _ => hnow, ?_, h.without, h.isShutdown, Or.inl ?_⟩
      · simp [h.invoked, Caller.invoked?_of_preparing? (Caller.preparing?_preparing ..)]
      · exact ⟨q, rfl, hnext, by simp [htold]⟩
    · have hlast := Preparing.step_refused w.transport
        { v with now := w.now, settings := w.calling.settings }
      have hstep := Caller.step_of_preparing method hlast isCancelled
      rw [← hp] at hstep
      have hpreparing : w.preparing? = some .refused := by
        rw [preparing?, hp, Caller.preparing?_preparing]
      refine ⟨_, 3, move_step hstep, ?_⟩
      refine ⟨hcount 3 (by decide), fun _ => hnow, ?_, h.without, h.isShutdown, Or.inr ?_⟩
      · simp [h.invoked, Caller.invoked?_of_preparing? (Caller.preparing?_preparing ..)]
      · refine ⟨w.transport.refusal, ?_, h.refusal_cases,
          took_last isCancelled hrun ⟨hpreparing, rfl⟩⟩
        simp only [htold, List.nil_append]
        exact .failed method
  · obtain ⟨d, event, n', hstep, hnext, hless⟩ := hfailing.step w.transport
      { v with now := w.now, settings := w.calling.settings } isCancelled hover
    refine ⟨_, n', move_step hstep, ?_⟩
    refine ⟨hcount n' hless, fun _ => hnow, ?_, h.without, h.isShutdown, Or.inr ?_⟩
    · simp [h.invoked, hnext.invoked?_eq_none]
    · exact ⟨e, hnext, hwhy, hrefused.append _⟩

theorem Leaving.move (h : Leaving method s later w n) (hrun : s.run later = some w)
    (hm : w.move m = some t) : ∃ n', Leaving method s (later ++ [m]) t n' := by
  have hcount : m.isStep = false → (later ++ [m]).countP Move.isStep + n ≤ 6 := by
    intro hm
    simpa [List.countP_append, hm] using h.steps
  cases m with
  | others m =>
    obtain ⟨c, hc, rfl⟩ := Option.map_eq_some_iff.mp hm
    obtain ⟨a, ha, rfl⟩ := Option.map_eq_some_iff.mp hc
    have hmono := Activity.isShutdown_of_move ha
    refine ⟨n, hcount rfl, h.still, h.invoked, ?_, fun hset => hmono (h.isShutdown hset), ?_⟩
    · have hsame := h.without
      simp only [Calling.endpoints] at hsame ⊢
      rw [Activity.endpoints_of_move ha, hsame]
    · rcases h.leaving with ⟨p, hp, haway, htold⟩ | ⟨e, hfailing, hwhy, hrefused⟩
      · exact Or.inl ⟨p, hp, haway.mono (Activity.closed_of_move ha), htold⟩
      · exact Or.inr ⟨e, hfailing, hwhy.imp_left fun hset => ⟨hset.1, hmono hset.2⟩,
          hrefused.append _⟩
  | step v isCancelled =>
    obtain ⟨c, hc, _⟩ := Option.map_eq_some_iff.mp hm
    obtain ⟨r, hr, _⟩ := Option.map_eq_some_iff.mp hc
    obtain ⟨x, n', hx, hnext⟩ := h.step hrun (Caller.isOver_of_step hr) v isCancelled
    cases hm.symm.trans hx
    exact ⟨n', hnext⟩
  | pass v isCancelled d =>
    -- no time passes while the call is not over, since it can take a step
    simp only [Timed.move] at hm
    split at hm
    next hpass =>
      cases hm
      simp only [Bool.and_eq_true] at hpass
      have hover : w.calling.caller.isOver = true := by
        by_contra hnot
        obtain ⟨x, _, hx, _⟩ := h.step hrun (by simpa using hnot) v isCancelled
        obtain ⟨c, hc, _⟩ := Option.map_eq_some_iff.mp hx
        simp [hc] at hpass
      refine ⟨n, hcount rfl, ?_, h.invoked, h.without, h.isShutdown, ?_⟩
      · intro hnot
        rw [hover] at hnot
        cases hnot
      · rcases h.leaving with hwaits | ⟨e, hfailing, hwhy, hrefused⟩
        · exact Or.inl hwaits
        · exact Or.inr ⟨e, hfailing, hwhy, hrefused.append _⟩
    next => cases hm

theorem Leaving.run (h : Leaving method s [] s n) (hrun : s.run later = some w) :
    ∃ n', Leaving method s later w n' := by
  refine foldlM_induction (fun ms u => ∃ n', Leaving method s ms u n') ⟨n, h⟩ ?_ hrun
  rintro ms u m x hms ⟨n', hu⟩ hm
  exact hu.move hms hm

/-- What becomes of a call that is turned away: it takes a few more steps, none of which has to
wait or does anything to the endpoints, and is told that the transport is shutting down if it is
so marked when the call asks, and otherwise that it is not ready. -/
structure TurnedAway (s : Timed ρ) (later : List Move) (w : Timed ρ) : Prop where
  steps : later.countP Move.isStep ≤ 6
  prompt : w.calling.caller.isOver = false →
    w.now = s.now ∧ ∀ v isCancelled, ∃ x, w.move (.step v isCancelled) = some x
  invoked : w.calling.invoked = none
  endpoints : w.calling.endpoints = w.calling.without
  refused : w.calling.caller.isOver = true →
    ∃ e, (w.calling.caller, w.calling.told) = s.calling.caller.method.refusal e ∧
      (e = .shuttingDown ∧ w.transport.isShutdown = true ∨
        e = .notReady ∧ s.transport.isShutdown = false) ∧
      s.Took later fun u _ => u.preparing? = some .refused ∧ e = u.transport.refusal

/-- Whatever else goes on, the call is turned away. -/
def IsTurnedAway (s : Timed ρ) : Prop :=
  ∀ later w, s.run later = some w → s.TurnedAway later w

private theorem Leaving.turnedAway (h : Leaving method s later w n)
    (hmethod : s.calling.caller.method = method) (hrun : s.run later = some w) :
    s.TurnedAway later w := by
  refine ⟨Nat.le_trans (Nat.le_add_right ..) h.steps, ?_, h.invoked, h.without.symm, ?_⟩
  · intro hover
    refine ⟨h.still hover, ?_⟩
    intro v isCancelled
    obtain ⟨x, _, hx, _⟩ := h.step hrun hover v isCancelled
    exact ⟨x, hx⟩
  · intro hover
    rcases h.leaving with ⟨p, hp, _⟩ | ⟨e, hfailing, hwhy, hrefused⟩
    · rw [hp] at hover
      cases method <;> cases hover
    · rw [hmethod]
      exact ⟨e, hfailing.eq_refusal hover, hwhy, hrefused⟩

private theorem Known.isTurnedAway {settings : CallSettings} {wait : Span} {p : Preparing}
    (h : Known settings wait s ms t) (hp : t.preparing? = some p)
    (haway : p.IsTurnedAway t.transport.gate n) (hn : n ≤ 6) : t.IsTurnedAway := by
  intro later w hlater
  obtain ⟨htold, hinvoked⟩ := h.gated.preparing p hp
  have hcaller := Caller.preparing?_eq_some_iff.mp hp
  have hwithout := (h.gated.untouched hinvoked).1.symm
  have hstart : Leaving t.calling.caller.method t [] t n :=
    ⟨by simpa using hn, fun _ => rfl, hinvoked, hwithout, id, Or.inl ⟨p, hcaller, haway, htold⟩⟩
  obtain ⟨n', hlast⟩ := hstart.run hlater
  exact hlast.turnedAway rfl hlater

private theorem move_eq_none {v : Preparing.View} {p : Preparing} (hp : t.preparing? = some p)
    (hdone : ∀ result, p ≠ .done result)
    (hq : p.step t.transport { v with now := t.now, settings := t.calling.settings } = none)
    (isCancelled : Bool) : t.move (.step v isCancelled) = none := by
  have hstep : t.calling.caller.step t.transport
      { v with now := t.now, settings := t.calling.settings } isCancelled = none := by
    rw [Caller.preparing?_eq_some_iff.mp hp, Caller.step_preparing _ hdone, hq]
    rfl
  have hgo : t.go v isCancelled = none := Option.map_eq_none_iff.mpr hstep
  rw [move, hgo]
  rfl

private theorem move_preparing {v : Preparing.View} {p q : Preparing} (hp : t.preparing? = some p)
    (hq : p.step t.transport { v with now := t.now, settings := t.calling.settings } =
      some (t.transport, q)) (isCancelled : Bool) :
    ∃ x, t.move (.step v isCancelled) = some x ∧ x.now = t.now ∧ x.preparing? = some q := by
  have hstep := Caller.step_of_preparing t.calling.caller.method hq isCancelled
  rw [← Caller.preparing?_eq_some_iff.mp hp] at hstep
  exact ⟨_, move_step hstep, rfl, Caller.preparing?_preparing ..⟩

theorem Known.away_of_step {settings : CallSettings} {wait : Span} {v : Preparing.View}
    {p : Preparing} (h : Known settings wait s ms t) (hrun : s.run ms = some t)
    (hp : t.preparing? = some p)
    (hq : p.step t.transport { v with now := t.now, settings := t.calling.settings } =
      some (t.transport, .waiting (.over false))) (isCancelled : Bool) :
    ∃ x, t.move (.step v isCancelled) = some x ∧ x.now = t.now ∧ x.IsTurnedAway := by
  obtain ⟨x, hx, hnow, hpreparing⟩ := move_preparing hp hq isCancelled
  exact ⟨x, hx, hnow, (Known.move hrun h hx).isTurnedAway hpreparing .denied (by decide)⟩

/-- A call is invoked only if the gate was open and the deadline had not passed when the call
checked it, and one that was not invoked has done nothing to the endpoints. A call waits for what is
left until its deadline, or as long as is usual, from when it came to the gate. As long as the gate
is pending it waits for all of that time and not longer, and then it is turned away; it is turned
away at once when a shutdown has closed the gate, or if it has no time to wait. -/
theorem calls_wait_at_gate {c : Config} {hasExecutor : Bool} {transport : Transport}
    (hstart : Transport.start c hasExecutor = .ok transport) {before : List Activity.Move}
    {a : Activity} (hbefore : Activity.run { transport } before = some a)
    (settings : CallSettings) (m : AnyMethod ρ) (began : Instant)
    (hrun : (start a settings m began).run ms = some t) :
    let wait := fun now : Instant =>
      settings.deadline.elim (Span.seconds c.defaultDeadline.toNat) fun due => due - now
    (t.calling.invoked ≠ none →
      (start a settings m began).Took ms fun u _ => u.preparing? = some .timing ∧
        u.transport.gate = .ready ∧ ∀ due, settings.deadline = some due → u.now < due) ∧
    (t.calling.invoked = none → t.calling.endpoints = t.calling.without) ∧
    (∀ deadline, t.preparing? = some (.waiting (.until deadline)) →
      t.now ≤ deadline ∧
      ((start a settings m began).Took ms fun u v => u.preparing? = some .arriving ∧
        deadline = u.now + v.timers.run (wait u.now)) ∧
      (t.transport.gate = .pending → ∀ v isCancelled,
        (t.now < deadline → t.move (.step v isCancelled) = none) ∧
        (t.now = deadline →
          ∃ u, t.move (.step v isCancelled) = some u ∧ u.now = t.now ∧ u.IsTurnedAway)) ∧
      (t.transport.gate = .closed → t.transport.isShutdown = true ∧ t.IsTurnedAway)) ∧
    (t.preparing? = some .arriving → ∀ v isCancelled,
      t.transport.gate = .closed ∨
        t.transport.gate = .pending ∧ v.timers.run (wait t.now) = 0 →
      ∃ u, t.move (.step v isCancelled) = some u ∧ u.now = t.now ∧ u.IsTurnedAway) := by
  intro wait
  have hstocked : a.Stocked := (Activity.stocked_of_start hstart).run hbefore
  have hclosing : a.Closing := (Activity.closing_of_start hstart).run hbefore
  have hgated := Calling.gated_start hstocked hclosing settings m
  rw [Activity.defaultDeadline_of_start hstart hbefore] at hgated
  have hknown := known_of_run hgated hrun
  refine ⟨fun hinvoked => hknown.inTime (Or.inr hinvoked),
    fun hnone => (hknown.gated.untouched hnone).1, ?_, ?_⟩
  · intro deadline hwaits
    obtain ⟨hnow, harrived⟩ := hknown.waiting deadline hwaits
    refine ⟨hnow, harrived, ?_, ?_⟩
    · intro hgate v isCancelled
      refine ⟨?_, ?_⟩
      · intro hearly
        exact move_eq_none hwaits nofun (Preparing.step_until_pending hgate hearly) isCancelled
      · intro hlate
        refine hknown.away_of_step hrun hwaits ?_ isCancelled
        exact Preparing.step_until_expired hgate (Nat.le_of_eq hlate.symm)
    · intro hgate
      have haway := Preparing.IsTurnedAway.closed deadline hgate
      exact ⟨hknown.gated.closing.isShutdown hgate,
        hknown.isTurnedAway hwaits haway (Nat.le_refl 6)⟩
  · intro harrives v isCancelled hrefused
    refine hknown.away_of_step hrun harrives ?_ isCancelled
    apply Preparing.step_arriving_refused
    rw [hknown.gated.settings_eq]
    exact hknown.gated.wait_eq ▸ hrefused

/-- A call comes to the gate four seconds before its deadline. If a shutdown closes the gate after
two of them, the call is told of that then; if the gate stays pending, it is told at its deadline
that the transport is not ready. Where a round was adopted before, it is invoked ahead of its
deadline. -/
theorem calls_wait_at_gate_until_deadline :
    let m : AnyMethod String := .unary fun _ _ => none
    let settings : CallSettings := { deadline := some (Span.seconds 5) }
    let v : Preparing.View :=
      { settings, reach := fun _ => none, words := { next := fun _ => 0 }, now := 0, markTime := 0 }
    let waits := fun n =>
      List.replicate 3 (Move.step v false) ++ [.pass v false (Span.seconds n)]
    let closes := (.beginShutdown :: List.replicate 6 (.stepShutdown 0)).map Move.others
    let goes := fun n => List.replicate n (Move.step v false)
    let e := Endpoint.ofAddress ⟨"h", 1⟩
    let answered : RoundView := { RoundView.idle with answer := some (.ok { endpoints := [e] }) }
    let before : List Activity.Move := [.stepLoop 0 .idle, .stepLoop 0 answered,
      .stepLoop 0 .idle, .stepLoop 0 .idle, .stepLoop 0 .idle] ++
        List.replicate 10 (.stepHandler 0 0)
    let steps := List.replicate 13 (Move.step v false)
    ∃ transport, Transport.start {} true = .ok transport ∧
      (∃ t w, (start { transport } settings m (Span.seconds 1)).run (waits 2 ++ closes) = some t ∧
        t.preparing? = some (.waiting (.until (Span.seconds 5))) ∧ t.run (goes 4) = some w ∧
        w.now = Span.seconds 3 ∧
        (w.calling.caller, w.calling.told) = t.calling.caller.method.refusal .shuttingDown) ∧
      (∃ t u w, (start { transport } settings m (Span.seconds 1)).run (waits 4) = some t ∧
        t.now = Span.seconds 5 ∧ t.move (.step v false) = some u ∧ u.run (goes 3) = some w ∧
        w.now = Span.seconds 5 ∧
        (w.calling.caller, w.calling.told) = u.calling.caller.method.refusal .notReady) ∧
      ∃ a t, Activity.run { transport } before = some a ∧
        (start a settings m (Span.seconds 1)).run steps = some t ∧ t.calling.invoked ≠ none ∧
        (start a settings m (Span.seconds 1)).Took steps fun u _ =>
          u.transport.gate = .ready ∧ u.now < Span.seconds 5 := by
  intro m settings v waits closes goes e answered before steps
  obtain ⟨transport, hstart⟩ : ∃ transport, Transport.start {} true = .ok transport := ⟨_, rfl⟩
  have hnone : Activity.run { transport } [] = some { transport } := rfl
  refine ⟨transport, hstart, ?_, ?_, ?_⟩
  · have hruns : ((start { transport } settings m (Span.seconds 1)).run (waits 2 ++ closes)).bind
        (fun t => (t.run (goes 4)).map fun w =>
          (t.preparing?.bind Preparing.due?, t.transport.gate, w.now, w.calling.caller.isOver)) =
            some (some (Span.seconds 5), .closed, Span.seconds 3, true) := by
      cases hstart
      decide +kernel
    simp only [Option.bind_eq_some_iff, Option.map_eq_some_iff, Prod.mk.injEq] at hruns
    obtain ⟨t, hrun, w, hgoes, ⟨p, hp, hdue⟩, hgate, hnow, hover⟩ := hruns
    obtain rfl := Preparing.eq_until_of_due? hdue
    obtain ⟨_, _, hwaiting, _⟩ := calls_wait_at_gate hstart hnone settings m _ hrun
    obtain ⟨_, _, _, hclosed⟩ := hwaiting _ hp
    obtain ⟨hflag, haway⟩ := hclosed hgate
    obtain ⟨e, hrefused, hwhy, _⟩ := (haway _ w hgoes).refused hover
    rcases hwhy with ⟨rfl, _⟩ | ⟨_, hunset⟩
    · exact ⟨t, w, hrun, hp, hgoes, hnow, hrefused⟩
    · cases hunset.symm.trans hflag
  · have hruns : ((start { transport } settings m (Span.seconds 1)).run (waits 4)).bind
        (fun t => (t.move (.step v false)).bind fun u => (u.run (goes 3)).map fun w =>
          (t.preparing?.bind Preparing.due?, t.transport.gate, t.now, w.now,
            w.calling.caller.isOver, w.transport.isShutdown)) =
          some (some (Span.seconds 5), .pending, Span.seconds 5, Span.seconds 5, true, false) := by
      cases hstart
      decide +kernel
    simp only [Option.bind_eq_some_iff, Option.map_eq_some_iff, Prod.mk.injEq] at hruns
    obtain ⟨t, hrun, u, hstep, w, hgoes, ⟨p, hp, hdue⟩, hgate, htime, hnow, hover, hflag⟩ := hruns
    obtain rfl := Preparing.eq_until_of_due? hdue
    obtain ⟨_, _, hwaiting, _⟩ := calls_wait_at_gate hstart hnone settings m _ hrun
    obtain ⟨_, _, hpending, _⟩ := hwaiting _ hp
    obtain ⟨u', hu', _, haway⟩ := (hpending hgate v false).2 htime
    cases hstep.symm.trans hu'
    obtain ⟨e, hrefused, hwhy, _⟩ := (haway _ w hgoes).refused hover
    rcases hwhy with ⟨_, hset⟩ | ⟨rfl, _⟩
    · cases hflag.symm.trans hset
    · exact ⟨t, u, w, hrun, htime, hstep, hgoes, hnow, hrefused⟩
  · have hruns : ((Activity.run { transport } before).bind fun a =>
        ((start a settings m (Span.seconds 1)).run steps).map fun t =>
          t.calling.invoked.isSome) = some true := by
      cases hstart
      decide +kernel
    simp only [Option.bind_eq_some_iff, Option.map_eq_some_iff] at hruns
    obtain ⟨a, hbefore, t, hrun, hsome⟩ := hruns
    have hinvoked : t.calling.invoked ≠ none := Option.isSome_iff_ne_none.mp hsome
    obtain ⟨first, w, isCancelled, rest, u, hsteps, hfirst, _, hgate, hintime⟩ :=
      (calls_wait_at_gate hstart hbefore settings m _ hrun).1 hinvoked
    exact ⟨a, t, hbefore, hrun, hinvoked, first, w, isCancelled, rest, u, hsteps, hfirst, hgate,
      hintime _ rfl⟩

end Timed

end Transport

end ClusterTransport
