import ClusterTransport.Proofs.EndpointPool.History
import ClusterTransport.Proofs.Transport.Activity
import ClusterTransport.Transport.StreamCall

/-!
# A call among other work

One call takes its steps while discovery, shutdowns and other calls are at work on the transport. Of
the endpoints there are two versions: those of the transport, and those that it would have if the
call had not been made.
-/

namespace ClusterTransport

inductive AnyMethod (ρ : Type) where
  | unary (m : Method ρ)
  | stream (m : Method (ResponseStream ρ))

/-- A call of one kind or the other, with its method. -/
inductive Caller (ρ : Type) where
  | unary (m : Method ρ) (c : UnaryCall ρ)
  | stream (m : Method (ResponseStream ρ)) (c : StreamCall ρ)

inductive Phase where
  | before
  | during (target : CallTarget) (since : Instant)
  /-- The status with which the method failed is to be reported. -/
  | failed (target : CallTarget) (s : Status)
  | served
  | settled
deriving DecidableEq

/-- What a pool makes of the final status of a call. -/
def PoolEvent.ofReport (now : Instant) (e : Endpoint) (s : Status) : List PoolEvent :=
  if s.isOk then [] else [.failure now e]

def Except.failure? {ε α : Type} : Except ε α → Option ε
  | .error e => some e
  | .ok _ => none

variable {ρ : Type}

/-- With what status the method fails if it is invoked with a target at an instant. -/
def AnyMethod.failure? (target : CallTarget) (since : Instant) : AnyMethod ρ → Option Status
  | unary m => (m target since).bind fun r => Except.failure? r.2
  | stream m => (m target since).bind fun r => Except.failure? r.2

def AnyMethod.call : AnyMethod ρ → Caller ρ
  | unary m => .unary m (.preparing .begun)
  | stream m => .stream m (.preparing .begun)

namespace Caller

def method : Caller ρ → AnyMethod ρ
  | unary m _ => .unary m
  | stream m _ => .stream m

def step (t : Transport) (v : Preparing.View) (isCancelled : Bool) :
    Caller ρ → Option (Transport × Caller ρ × Option (StreamEvent ρ))
  | unary m c => (c.step t v m).map fun r => (r.1, unary m r.2, none)
  | stream m c => (c.step t v m isCancelled).map fun r => (r.1, stream m r.2.1, r.2.2)

def isOver : Caller ρ → Bool
  | unary _ (.done _) => true
  | stream _ .ended => true
  | _ => false

def phase : Caller ρ → Phase
  | unary _ (.preparing _) => .before
  | unary _ (.invoking _) => .before
  | unary _ (.awaiting target since) => .during target since
  | unary _ (.reporting target (.error s)) => .failed target s
  | unary _ (.reporting _ (.ok _)) => .served
  | unary _ (.done _) => .settled
  | stream _ (.preparing _) => .before
  | stream _ (.opening target since) => .during target since
  | stream _ (.rejected target s) => .failed target s
  | stream _ (.opened ..) => .served
  | stream _ (.pumping ..) => .served
  | stream _ (.failing _) => .settled
  | stream _ .returning => .settled
  | stream _ .ended => .settled

end Caller

namespace Phase

/-- The target and the instant with which the method was invoked, while it is not over. -/
def invoked? : Phase → Option (CallTarget × Instant)
  | during target since => some (target, since)
  | _ => none

inductive Next (m : AnyMethod ρ) (v : Preparing.View) (p : EndpointPool) :
    Phase → EndpointPool → Phase → Prop where
  | preparing : Next m v p before p before
  | refused : Next m v p before p settled
  | invoking (target : CallTarget) : Next m v p before p (during target v.now)
  | failing (target : CallTarget) (since : Instant) (s : Status)
      (h : m.failure? target since = some s) :
      Next m v p (during target since) p (failed target s)
  | serving (target : CallTarget) (since : Instant) (h : m.failure? target since = none) :
      Next m v p (during target since) p served
  | reporting (target : CallTarget) (s : Status) :
      Next m v p (failed target s)
        (p.after (PoolEvent.ofReport v.markTime target.endpoint s)) settled
  | passing (q : EndpointPool) : Next m v p served q served
  | ending : Next m v p served p settled
  | resting : Next m v p settled p settled

end Phase

section Steps

variable {t u : Transport} {v : Preparing.View}

theorem Transport.endpoints_report (t : Transport) (now : Instant) (e : Endpoint) (s : Status) :
    (t.report now e s).endpoints = t.endpoints.after (PoolEvent.ofReport now e s) := by
  unfold report PoolEvent.ofReport
  split <;> rfl

theorem Preparing.endpoints_of_step {p q : Preparing} (h : p.step t v = some (u, q)) :
    u.endpoints = t.endpoints := by
  cases p with
  | begun =>
    simp only [step] at h
    split at h <;> cases h <;> rfl
  | waiting w =>
    cases w with
    | «until» deadline =>
      simp only [step] at h
      split at h <;> cases h
      rfl
    | «over» opened => cases opened <;> cases h <;> rfl
  | selecting =>
    simp only [step] at h
    split at h <;> cases h <;> rfl
  | connecting e g => cases g <;> cases h <;> rfl
  | done result => cases h
  | _ =>
    cases h
    rfl

theorem UnaryCall.step_preparing {p : Preparing} (hp : ∀ result, p ≠ .done result)
    (m : Method ρ) :
    (preparing p).step t v m = (p.step t v).map fun r => (r.1, preparing r.2) := by
  cases p with
  | done result => exact absurd rfl (hp result)
  | _ => rfl

theorem StreamCall.step_preparing {p : Preparing} (hp : ∀ result, p ≠ .done result)
    (m : Method (ResponseStream ρ)) (isCancelled : Bool) :
    (preparing p).step t v m isCancelled =
      (p.step t v).map fun r => (r.1, preparing r.2, none) := by
  cases p with
  | done result => exact absurd rfl (hp result)
  | _ => rfl

theorem Preparing.ne_done_of_step {p q : Preparing}
    (h : p.step t v = some (u, q)) (result : Except Error CallTarget) : p ≠ .done result := by
  rintro rfl
  cases h

theorem Preparing.done_or_not (p : Preparing) :
    (∃ e, p = .done (.error e)) ∨ (∃ target, p = .done (.ok target)) ∨
      ∀ result, p ≠ .done result := by
  cases p with
  | done result =>
    cases result with
    | error e => exact Or.inl ⟨e, rfl⟩
    | ok target => exact Or.inr (Or.inl ⟨target, rfl⟩)
  | _ => exact Or.inr (Or.inr (by simp))

private theorem Method.failure?_of_result? {α : Type} {m : Method α} {target : CallTarget}
    {since now : Instant} {answer : Except Status α}
    (h : m.result? target since now = some answer) :
    ((m target since).bind fun r => Except.failure? r.2) = Except.failure? answer := by
  unfold result? at h
  split at h
  next => cases h
  next delay result hresult =>
    split at h <;> cases h
    rw [hresult]
    rfl

theorem UnaryCall.next_of_step {m : Method ρ} {c d : UnaryCall ρ}
    (h : c.step t v m = some (u, d)) :
    Phase.Next (.unary m) v t.endpoints (Caller.unary m c).phase u.endpoints
      (Caller.unary m d).phase := by
  cases c with
  | preparing p =>
    rcases p.done_or_not with ⟨e, rfl⟩ | ⟨target, rfl⟩ | hp
    · cases h
      exact .refused
    · cases h
      exact .preparing
    · rw [step_preparing hp] at h
      obtain ⟨⟨u', q⟩, hq, heq⟩ := Option.map_eq_some_iff.mp h
      cases heq
      rw [Preparing.endpoints_of_step hq]
      exact .preparing
  | invoking target =>
    cases h
    exact .invoking target
  | awaiting target since =>
    obtain ⟨answer, hanswer, heq⟩ := Option.map_eq_some_iff.mp h
    cases heq
    have hfailure := Method.failure?_of_result? hanswer
    cases answer with
    | ok r => exact .serving target since hfailure
    | error s => exact .failing target since s hfailure
  | reporting target answer =>
    cases answer with
    | ok r =>
      cases h
      exact .ending
    | error s =>
      cases h
      rw [Transport.endpoints_report]
      exact .reporting target s
  | done result => cases h

theorem StreamCall.next_of_stepPump {isCancelled : Bool} {target : CallTarget}
    {stream : ResponseStream ρ} {since : Instant} {p : Pump ρ} {d : StreamCall ρ}
    {event : Option (StreamEvent ρ)}
    (h : stepPump t v isCancelled target stream since p = some (u, d, event)) :
    (∃ target' stream' since' p', d = pumping target' stream' since' p') ∨
      (u.endpoints = t.endpoints ∧ d = ended) := by
  cases p with
  | checking =>
    cases isCancelled with
    | true =>
      cases h
      exact Or.inr ⟨rfl, rfl⟩
    | false =>
      cases h
      exact Or.inl ⟨_, _, _, _, rfl⟩
  | pulling =>
    refine Or.inl ?_
    simp only [stepPump] at h
    repeat' split at h
    all_goals
      cases h
      exact ⟨_, _, _, _, rfl⟩
  | waiting =>
    simp only [stepPump] at h
    split at h <;> cases h
    exact Or.inl ⟨_, _, _, _, rfl⟩
  | reporting s =>
    cases h
    exact Or.inl ⟨_, _, _, _, rfl⟩
  | delivering item =>
    cases item with
    | message m =>
      cases h
      exact Or.inl ⟨_, _, _, _, rfl⟩
    | _ =>
      cases h
      exact Or.inr ⟨rfl, rfl⟩

theorem StreamCall.next_of_step {m : Method (ResponseStream ρ)} {isCancelled : Bool}
    {c d : StreamCall ρ} {event : Option (StreamEvent ρ)}
    (h : c.step t v m isCancelled = some (u, d, event)) :
    Phase.Next (.stream m) v t.endpoints (Caller.stream m c).phase u.endpoints
      (Caller.stream m d).phase := by
  cases c with
  | preparing p =>
    rcases p.done_or_not with ⟨e, rfl⟩ | ⟨target, rfl⟩ | hp
    · cases h
      exact .refused
    · cases h
      exact .invoking target
    · rw [step_preparing hp] at h
      obtain ⟨⟨u', q⟩, hq, heq⟩ := Option.map_eq_some_iff.mp h
      cases heq
      rw [Preparing.endpoints_of_step hq]
      exact .preparing
  | opening target since =>
    obtain ⟨answer, hanswer, heq⟩ := Option.map_eq_some_iff.mp h
    have hfailure := Method.failure?_of_result? hanswer
    cases answer with
    | ok stream =>
      cases heq
      exact .serving target since hfailure
    | error s =>
      cases heq
      exact .failing target since s hfailure
  | rejected target s =>
    cases h
    rw [Transport.endpoints_report]
    exact .reporting target s
  | failing e =>
    cases h
    exact .resting
  | returning =>
    cases h
    exact .resting
  | opened target stream =>
    cases h
    exact .passing _
  | pumping target stream since p =>
    rcases next_of_stepPump h with ⟨_, _, _, _, rfl⟩ | ⟨hsame, rfl⟩
    · exact .passing _
    · rw [hsame]
      exact .ending
  | ended => cases h

theorem Caller.next_of_step {isCancelled : Bool} {c d : Caller ρ}
    {event : Option (StreamEvent ρ)} (h : c.step t v isCancelled = some (u, d, event)) :
    d.method = c.method ∧
      Phase.Next c.method v t.endpoints c.phase u.endpoints d.phase := by
  cases c with
  | unary m c =>
    obtain ⟨⟨u', c'⟩, hstep, heq⟩ := Option.map_eq_some_iff.mp h
    cases heq
    exact ⟨rfl, UnaryCall.next_of_step hstep⟩
  | stream m c =>
    obtain ⟨⟨u', c', event'⟩, hstep, heq⟩ := Option.map_eq_some_iff.mp h
    cases heq
    exact ⟨rfl, StreamCall.next_of_step hstep⟩

theorem Caller.isOver_of_step {isCancelled : Bool} {c : Caller ρ}
    {r : Transport × Caller ρ × Option (StreamEvent ρ)} (h : c.step t v isCancelled = some r) :
    c.isOver = false := by
  cases c with
  | unary m c =>
    cases c with
    | done result => cases h
    | _ => rfl
  | stream m c =>
    cases c with
    | ended => cases h
    | _ => rfl

end Steps

namespace Transport

namespace Activity

def poolEvents (s : Activity) : Move → List PoolEvent
  | .stepHandler i now =>
    match s.handlers i with
    | .replacing result => [.round now result.selfLocation result.endpoints]
    | _ => []
  | .report now e status => PoolEvent.ofReport now e status
  | _ => []

theorem endpoints_of_move {s t : Activity} {m : Move} (h : s.move m = some t) :
    t.transport.endpoints = s.transport.endpoints.after (s.poolEvents m) := by
  cases m with
  | stepLoop i v =>
    obtain ⟨r, _, rfl⟩ := Option.map_eq_some_iff.mp h
    rfl
  | stepHandler i now =>
    cases h
    dsimp only [poolEvents]
    cases s.handlers i with
    | removing o => cases o <;> rfl
    | pruning o => cases o <;> rfl
    | _ => rfl
  | beginShutdown =>
    cases h
    rfl
  | stepShutdown j =>
    obtain ⟨d, _, hmap⟩ := Option.bind_eq_some_iff.mp h
    obtain ⟨⟨u, next⟩, hstep, rfl⟩ := Option.map_eq_some_iff.mp hmap
    cases ShuttingDown.shift_of_step hstep with
    | stopping o next w _ => rfl
    | other d next u _ hendpoints _ _ _ => exact hendpoints
  | report now e status =>
    cases h
    exact endpoints_report _ now e status
  | useChannels channels =>
    cases h
    rfl

theorem sound_of_run {s t : Activity} {ms : List Move}
    (hs : s.transport.endpoints.current.Sound) (hrun : s.run ms = some t) :
    t.transport.endpoints.current.Sound := by
  refine foldlM_invariant (fun u => u.transport.endpoints.current.Sound) ?_ hs hrun
  intro u m w hu hm
  rw [endpoints_of_move hm]
  exact EndpointPool.sound_after hu _

theorem sound_of_start {c : Config} {hasExecutor : Bool} {transport : Transport}
    (h : Transport.start c hasExecutor = .ok transport) : transport.endpoints.current.Sound := by
  unfold Transport.start at h
  split at h
  next => cases h
  next =>
    cases h
    exact .empty

end Activity

/-- One call on a transport at work. -/
structure Calling (ρ : Type) where
  activity : Activity
  settings : CallSettings
  caller : Caller ρ
  told : List (StreamEvent ρ) := []
  invoked : Option (CallTarget × Instant) := none
  /-- The endpoints as they would be without the call. -/
  without : EndpointPool

namespace Calling

variable {ρ : Type}

inductive Move where
  | others (m : Activity.Move)
  | step (v : Preparing.View) (isCancelled : Bool)

def Move.isStep : Move → Bool
  | others _ => false
  | step .. => true

def endpoints (s : Calling ρ) : EndpointPool :=
  s.activity.transport.endpoints

def start (a : Activity) (settings : CallSettings) (m : AnyMethod ρ) : Calling ρ :=
  { activity := a, settings, caller := m.call, without := a.transport.endpoints }

/-- Makes one move; `none` if it has to wait. What others do they do to both versions of the
endpoints. -/
def move (s : Calling ρ) : Move → Option (Calling ρ)
  | .others m =>
    (s.activity.move m).map fun a =>
      { s with activity := a, without := s.without.after (s.activity.poolEvents m) }
  | .step v isCancelled =>
    (s.caller.step s.activity.transport { v with settings := s.settings } isCancelled).map fun r =>
      { s with
        activity := { s.activity with transport := r.1 }
        caller := r.2.1
        told := s.told ++ r.2.2.toList
        invoked := s.invoked.or r.2.1.phase.invoked? }

def run (s : Calling ρ) (ms : List Move) : Option (Calling ρ) :=
  ms.foldlM move s

end Calling

end Transport

end ClusterTransport
