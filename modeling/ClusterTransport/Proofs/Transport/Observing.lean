import ClusterTransport.Proofs.Transport.CallSteps
import ClusterTransport.Proofs.Transport.Reporting

/-!
# What the observer of a stream is told

The observer is told of the messages up to the end of the stream, in order, and of the end. A call
that does not come to a stream tells of one error. At each moment what was told and what is still
due make up the whole.
-/

namespace ClusterTransport

variable {ρ : Type}

namespace ResponseStream

def messages : ResponseStream ρ → List ρ
  | (_, .message m) :: rest => m :: messages rest
  | _ => []

def ending? : ResponseStream ρ → Option (Except Status Unit)
  | [] => none
  | (_, .message _) :: rest => ending? rest
  | (_, .failure s) :: _ => some (.error s)
  | (_, .finish) :: _ => some (.ok ())

end ResponseStream

def StreamEvent.ofEnding : Except Status Unit → StreamEvent ρ
  | .error s => .error (.rpc s)
  | .ok () => .completed

/-- What the observer of a stream is told in the end. -/
def ResponseStream.events (stream : ResponseStream ρ) : List (StreamEvent ρ) :=
  (messages stream).map .next ++ ((ending? stream).map .ofEnding).toList

namespace Method

variable (m : Method (ResponseStream ρ)) (target : CallTarget) (since : Instant)

def ending? : Option (Except Status Unit) :=
  (m target since).bind fun r =>
    match r.2 with
    | .error s => some (.error s)
    | .ok stream => stream.ending?

def events : List (StreamEvent ρ) :=
  match m target since with
  | none => []
  | some (_, .error s) => [.error (.rpc s), .control true]
  | some (_, .ok stream) => .control false :: stream.events

end Method

private theorem Method.exists_of_result? {α : Type} {m : Method α} {target : CallTarget}
    {since now : Instant} {answer : Except Status α}
    (h : m.result? target since now = some answer) :
    ∃ delay, m target since = some (delay, answer) := by
  unfold result? at h
  split at h
  next => cases h
  next delay result hresult =>
    split at h <;> cases h
    exact ⟨delay, hresult⟩

/-- What is still to be told. -/
def Pump.due (stream : ResponseStream ρ) : Pump ρ → List (StreamEvent ρ)
  | reporting s => [.error (.rpc s)]
  | delivering (.message m) => .next m :: stream.events
  | delivering (.failure s) => [.error (.rpc s)]
  | delivering .finish => [.completed]
  | _ => stream.events

/-- The status that is still to be reported, if there is one to come. -/
def Pump.failure? (stream : ResponseStream ρ) : Pump ρ → Option Status
  | reporting s => some s
  | delivering (.failure _) => none
  | delivering .finish => none
  | _ => stream.ending?.bind Except.failure?

def Pump.ends (stream : ResponseStream ρ) : Pump ρ → Bool
  | reporting _ => true
  | delivering (.failure _) => true
  | delivering .finish => true
  | _ => stream.ending?.isSome

namespace StreamCall

def due (m : Method (ResponseStream ρ)) : StreamCall ρ → List (StreamEvent ρ)
  | preparing _ => []
  | opening target since => m.events target since
  | rejected _ s => [.error (.rpc s), .control true]
  | failing e => [.error e, .control true]
  | returning => [.control true]
  | opened _ stream => .control false :: stream.events
  | pumping _ stream _ p => p.due stream
  | ended => []

def failure? (m : Method (ResponseStream ρ)) : StreamCall ρ → Option Status
  | opening target since => (m.ending? target since).bind Except.failure?
  | rejected _ s => some s
  | opened _ stream => stream.ending?.bind Except.failure?
  | pumping _ stream _ p => p.failure? stream
  | _ => none

def ends (m : Method (ResponseStream ρ)) : StreamCall ρ → Bool
  | opening target since => (m.ending? target since).isSome
  | opened _ stream => stream.ending?.isSome
  | pumping _ stream _ p => p.ends stream
  | _ => true

/-- The method was invoked and has come to an answer, or it is not invoked any more. -/
def isAnswered : StreamCall ρ → Bool
  | preparing _ => false
  | opening .. => false
  | _ => true

private theorem invoked?_of_isAnswered {c : StreamCall ρ} (h : c.isAnswered = true)
    (m : Method (ResponseStream ρ)) : (Caller.stream m c).phase.invoked? = none := by
  cases c with
  | opening target since => cases h
  | _ => rfl

private theorem ne_preparing_of_isAnswered {c : StreamCall ρ} (h : c.isAnswered = true)
    (p : Preparing) :
    c ≠ preparing p := by
  rintro rfl
  cases h

def target? : StreamCall ρ → Option CallTarget
  | opening target _ => some target
  | rejected target _ => some target
  | opened target _ => some target
  | pumping target _ _ _ => some target
  | _ => none

end StreamCall

section Steps

variable {t u : Transport} {v : Preparing.View} {m : Method (ResponseStream ρ)}
  {c d : StreamCall ρ} {event : Option (StreamEvent ρ)} {target : CallTarget}
  {stream : ResponseStream ρ} {since : Instant} {p : Pump ρ}

/-- What a step may do to what is due: it tells what comes first, or nothing, and it reports the
failure, or nothing. -/
structure StreamCall.Delivers (m : Method (ResponseStream ρ)) (v : Preparing.View)
    (p q : EndpointPool) (c d : StreamCall ρ) (event : Option (StreamEvent ρ)) : Prop where
  due : c.due m = event.toList ++ d.due m
  ends : d.ends m = c.ends m
  isAnswered : d.isAnswered = true
  target : ∀ target, d.target? = some target → c.target? = some target
  report : (d.failure? m = c.failure? m ∧ q = p) ∨
    ∃ target s, c.target? = some target ∧ c.failure? m = some s ∧ d.failure? m = none ∧
      q = p.after (PoolEvent.ofReport v.markTime target.endpoint s)

private theorem StreamCall.delivers_of_stepPump
    (h : stepPump t v false target stream since p = some (u, d, event)) :
    Delivers m v t.endpoints u.endpoints (pumping target stream since p) d event := by
  cases p with
  | checking =>
    cases h
    exact ⟨rfl, rfl, rfl, fun _ => id, Or.inl ⟨rfl, rfl⟩⟩
  | pulling =>
    cases stream with
    | nil =>
      cases h
      exact ⟨rfl, rfl, rfl, fun _ => id, Or.inl ⟨rfl, rfl⟩⟩
    | cons item rest =>
      simp only [stepPump] at h
      split at h
      next =>
        obtain ⟨delay, item⟩ := item
        cases item <;> cases h <;> exact ⟨rfl, rfl, rfl, fun _ => id, Or.inl ⟨rfl, rfl⟩⟩
      next =>
        cases h
        exact ⟨rfl, rfl, rfl, fun _ => id, Or.inl ⟨rfl, rfl⟩⟩
  | waiting =>
    simp only [stepPump] at h
    split at h <;> cases h
    exact ⟨rfl, rfl, rfl, fun _ => id, Or.inl ⟨rfl, rfl⟩⟩
  | reporting s =>
    cases h
    refine ⟨rfl, rfl, rfl, fun _ => id, Or.inr ⟨target, s, rfl, rfl, rfl, ?_⟩⟩
    exact Transport.endpoints_report ..
  | delivering item =>
    cases item <;> cases h
    · exact ⟨rfl, rfl, rfl, fun _ => id, Or.inl ⟨rfl, rfl⟩⟩
    · exact ⟨rfl, rfl, rfl, by simp [target?], Or.inl ⟨rfl, rfl⟩⟩
    · exact ⟨rfl, rfl, rfl, by simp [target?], Or.inl ⟨rfl, rfl⟩⟩

theorem StreamCall.delivers_of_step (h : c.step t v m false = some (u, d, event))
    (hc : ∀ p, c ≠ preparing p) : Delivers m v t.endpoints u.endpoints c d event := by
  cases c with
  | preparing p => exact absurd rfl (hc p)
  | opening target since =>
    obtain ⟨answer, hanswer, heq⟩ := Option.map_eq_some_iff.mp h
    obtain ⟨delay, hm⟩ := Method.exists_of_result? hanswer
    cases answer with
    | ok stream =>
      cases heq
      refine ⟨?_, ?_, rfl, fun _ => id, Or.inl ⟨?_, rfl⟩⟩
      · simp [due, Method.events, hm]
      · simp [ends, Method.ending?, hm]
      · simp [failure?, Method.ending?, hm]
    | error s =>
      cases heq
      refine ⟨?_, ?_, rfl, fun _ => id, Or.inl ⟨?_, rfl⟩⟩
      · simp [due, Method.events, hm]
      · simp [ends, Method.ending?, hm]
      · simp [failure?, Method.ending?, hm, Except.failure?]
  | rejected target s =>
    cases h
    refine ⟨rfl, rfl, rfl, by simp [target?], Or.inr ⟨target, s, rfl, rfl, rfl, ?_⟩⟩
    exact Transport.endpoints_report ..
  | failing e =>
    cases h
    exact ⟨rfl, rfl, rfl, by simp [target?], Or.inl ⟨rfl, rfl⟩⟩
  | returning =>
    cases h
    exact ⟨rfl, rfl, rfl, by simp [target?], Or.inl ⟨rfl, rfl⟩⟩
  | opened target stream =>
    cases h
    exact ⟨rfl, rfl, rfl, fun _ => id, Or.inl ⟨rfl, rfl⟩⟩
  | pumping target stream since p => exact delivers_of_stepPump h
  | ended => cases h

def Pump.taking : StreamItem ρ → Pump ρ
  | .failure s => reporting s
  | item => delivering item

theorem StreamCall.step_pulling {delay : Span} {item : StreamItem ρ}
    (hcome : since + delay ≤ v.now) :
    (pumping target ((delay, item) :: stream) since .pulling).step t v m false =
      some (t, pumping target stream v.now (.taking item), none) := by
  simp only [step, stepPump, hcome, if_true]
  cases item <;> rfl

private theorem StreamCall.step_waiting {delay : Span} {item : StreamItem ρ}
    (hcome : since + delay ≤ v.now) :
    (pumping target ((delay, item) :: stream) since .waiting).step t v m false =
      some (t, pumping target ((delay, item) :: stream) since .checking, none) := by
  simp [step, stepPump, hasCome, hcome]

def StreamCall.answered (target : CallTarget) :
    Except Status (ResponseStream ρ) → StreamCall ρ
  | .ok stream => opened target stream
  | .error s => rejected target s

private theorem StreamCall.step_opening {delay : Span} {answer : Except Status (ResponseStream ρ)}
    (hm : m target since = some (delay, answer)) (hcome : since + delay ≤ v.now) :
    (opening target since).step t v m false = some (t, answered target answer, none) := by
  have hresult : m.result? target since v.now = some answer := by
    simp only [Method.result?, hm, hcome, if_true]
  simp only [step, hresult, Option.map_some]
  cases answer <;> rfl

end Steps

namespace Transport.Calling

def Meets (s : Calling ρ) (ms : List Move) (holds : Calling ρ → Prop) : Prop :=
  ∃ first rest u, ms = first ++ rest ∧ s.run first = some u ∧ holds u

def Move.cancels : Move → Bool
  | others _ => false
  | step _ isCancelled => isCancelled

def ComesTo (e : Error) (s : Calling ρ) : Prop :=
  s.caller.preparing? = some (.done (.error e))

variable {m : Method (ResponseStream ρ)} {s t u : Calling ρ} {ms : List Move}
  {c d : StreamCall ρ}

private theorem Meets.append {holds : Calling ρ → Prop} (h : s.Meets ms holds) (more : List Move) :
    s.Meets (ms ++ more) holds := by
  obtain ⟨first, rest, u, rfl, hrun, hu⟩ := h
  exact ⟨first, rest ++ more, u, by simp, hrun, hu⟩

/-- The difference that a call makes to the endpoints: none until it reports a failure, and then it
marks its target unless the status is a success. -/
def Differs (s : Calling ρ) (ms : List Move) (target : CallTarget)
    (failure pending : Option Status) (t : Calling ρ) : Prop :=
  (pending = failure ∧ t.endpoints = t.without) ∨
    pending = none ∧ ∃ status, failure = some status ∧
      (status.isOk = true ∧ t.endpoints = t.without ∨
        status.isOk = false ∧ s.Marks ms target t)

section Differs

variable {target : CallTarget} {failure pending : Option Status}

theorem Differs.move (h : Differs s ms target failure pending u) {m : Move}
    (hm : u.move m = some t) (ht : t.endpoints = u.endpoints.after (u.eventsOf m)) :
    Differs s (ms ++ [m]) target failure pending t := by
  have hagree : u.endpoints = u.without → t.endpoints = t.without := by
    intro hsame
    rw [ht, without_of_move hm, hsame]
  rcases h with ⟨hpending, hsame⟩ | ⟨hpending, status, hstatus, hreported⟩
  · exact Or.inl ⟨hpending, hagree hsame⟩
  · refine Or.inr ⟨hpending, status, hstatus, ?_⟩
    rcases hreported with ⟨hok, hsame⟩ | ⟨hbad, hmarked⟩
    · exact Or.inl ⟨hok, hagree hsame⟩
    · exact Or.inr ⟨hbad, hmarked.move hm ht⟩

private theorem Differs.report {status : Status} (h : Differs s ms target failure (some status) u)
    (hrun : s.run ms = some u) {v : Preparing.View} {isCancelled : Bool}
    (hm : u.move (.step v isCancelled) = some t)
    (ht : t.endpoints =
      u.endpoints.after (PoolEvent.ofReport v.markTime target.endpoint status)) :
    Differs s (ms ++ [.step v isCancelled]) target failure none t := by
  rcases h with ⟨hpending, hsame⟩ | ⟨hpending, _⟩
  · refine Or.inr ⟨rfl, status, hpending.symm, ?_⟩
    cases hok : status.isOk with
    | true =>
      rw [PoolEvent.ofReport, hok] at ht
      exact Or.inl ⟨rfl, ht.trans (hsame.trans (without_of_move hm).symm)⟩
    | false =>
      rw [PoolEvent.ofReport, hok] at ht
      exact Or.inr ⟨rfl, marks_of_step hrun hm hsame ht⟩
  · cases hpending

private theorem eq_of_failure? {ending? : Option (Except Status Unit)} {status : Status}
    (h : ending?.bind Except.failure? = some status) : ending? = some (.error status) := by
  obtain ⟨ending, rfl, hfailure⟩ := Option.bind_eq_some_iff.mp h
  cases ending with
  | ok x => cases hfailure
  | error x =>
    cases hfailure
    rfl

private theorem Differs.same_or_marks {ending? : Option (Except Status Unit)}
    (h : Differs s ms target (ending?.bind Except.failure?) pending t) :
    (t.endpoints = t.without ∧
        (pending = none → ∀ status, ending? = some (.error status) → status.isOk = true)) ∨
      ∃ status, ending? = some (.error status) ∧ status.isOk = false ∧ s.Marks ms target t := by
  rcases h with ⟨hpending, hsame⟩ | ⟨_, status, hfailure, hreported⟩
  · refine Or.inl ⟨hsame, ?_⟩
    intro hnone status hending
    rw [hnone, hending] at hpending
    cases hpending
  · have hending := eq_of_failure? hfailure
    rcases hreported with ⟨hok, hsame⟩ | ⟨hbad, hmarked⟩
    · refine Or.inl ⟨hsame, ?_⟩
      intro _ status' hending'
      cases hending.symm.trans hending'
      exact hok
    · exact Or.inr ⟨status, hending, hbad, hmarked⟩

end Differs

/-- How far a stream is, with what was told and reported so far. -/
inductive Stage (m : Method (ResponseStream ρ)) (s : Calling ρ) (ms : List Move)
    (t : Calling ρ) : StreamCall ρ → Prop where
  | preparing (p : Preparing) (htold : t.told = []) (hinvoked : t.invoked = none)
      (hsame : t.endpoints = t.without) : Stage m s ms t (.preparing p)
  | refused (c : StreamCall ρ) (e : Error) (hpast : ∀ p, c ≠ .preparing p)
      (hcomes : s.Meets ms (ComesTo e)) (hdue : t.told ++ c.due m = [.error e, .control true])
      (hends : c.ends m = true) (hquiet : c.failure? m = none) (hinvoked : t.invoked = none)
      (hsame : t.endpoints = t.without) : Stage m s ms t c
  | invoked (c : StreamCall ρ) (target : CallTarget) (since : Instant)
      (hpast : ∀ p, c ≠ .preparing p) (hinvoked : t.invoked = some (target, since))
      (hdue : t.told ++ c.due m = m.events target since)
      (hends : c.ends m = (m.ending? target since).isSome)
      (htarget : ∀ x, c.target? = some x → x = target)
      (hdiffers : Differs s ms target ((m.ending? target since).bind Except.failure?)
        (c.failure? m) t) : Stage m s ms t c

def Observed (m : Method (ResponseStream ρ)) (s : Calling ρ) (ms : List Move)
    (t : Calling ρ) : Prop :=
  ∃ c, t.caller = .stream m c ∧ Stage m s ms t c

private theorem Stage.others {m' : Activity.Move} (h : Stage m s ms u c)
    (hm : u.move (.others m') = some t) : Stage m s (ms ++ [.others m']) t c := by
  have ht : t.endpoints = u.endpoints.after (u.eventsOf (.others m')) := by
    obtain ⟨a, ha, rfl⟩ := Option.map_eq_some_iff.mp hm
    exact Activity.endpoints_of_move ha
  have hagree : u.endpoints = u.without → t.endpoints = t.without := by
    intro hsame
    rw [ht, without_of_move hm, hsame]
  obtain ⟨htold, hinvoked⟩ : t.told = u.told ∧ t.invoked = u.invoked := by
    obtain ⟨a, _, rfl⟩ := Option.map_eq_some_iff.mp hm
    exact ⟨rfl, rfl⟩
  cases h with
  | preparing p hnothing hnone hsame =>
    exact .preparing p (htold.trans hnothing) (hinvoked.trans hnone) (hagree hsame)
  | refused c e hpast hcomes hdue hends hquiet hnone hsame =>
    rw [← htold] at hdue
    exact .refused c e hpast (hcomes.append _) hdue hends hquiet (hinvoked.trans hnone)
      (hagree hsame)
  | invoked c target since hpast hsome hdue hends htarget hdiffers =>
    rw [← htold] at hdue
    exact .invoked c target since hpast (hinvoked.trans hsome) hdue hends htarget
      (hdiffers.move hm ht)

def after (u : Calling ρ) (w : Transport) (d : Caller ρ) (event : Option (StreamEvent ρ)) :
    Calling ρ :=
  { u with
    activity := { u.activity with transport := w }
    caller := d
    told := u.told ++ event.toList
    invoked := u.invoked.or d.phase.invoked? }

private theorem Stage.deliver {w : Transport} {v : Preparing.View} {event : Option (StreamEvent ρ)}
    (h : Stage m s ms u c) (hrun : s.run ms = some u) (hc : ∀ p, c ≠ .preparing p)
    (hstep : c.step u.activity.transport { v with settings := u.settings } m false =
      some (w, d, event))
    (hm : u.move (.step v false) = some (u.after w (.stream m d) event)) :
    Stage m s (ms ++ [.step v false]) (u.after w (.stream m d) event) d := by
  have hdelivers := StreamCall.delivers_of_step hstep hc
  have hd := StreamCall.ne_preparing_of_isAnswered hdelivers.isAnswered
  have hnone := StreamCall.invoked?_of_isAnswered hdelivers.isAnswered m
  cases h with
  | preparing p => exact absurd rfl (hc p)
  | refused c e hpast hcomes hdue hends hquiet hinvoked hsame =>
    -- nothing is reported of a call that has not come to a target
    have hreport : d.failure? m = none ∧ w.endpoints = u.endpoints := by
      rcases hdelivers.report with ⟨hfailure, hkept⟩ | ⟨target, x, _, hx, _⟩
      · exact ⟨hfailure.trans hquiet, hkept⟩
      · cases hquiet.symm.trans hx
    refine .refused d e hd (hcomes.append _) ?_ (hdelivers.ends.trans hends) hreport.1 ?_
      (hreport.2.trans hsame)
    · rw [← hdue, hdelivers.due]
      simp [after]
    · simp [after, hinvoked, hnone]
  | invoked c target since hpast hinvoked hdue hends htarget hdiffers =>
    refine .invoked d target since hd ?_ ?_ (hdelivers.ends.trans hends) ?_ ?_
    · simp [after, hinvoked]
    · rw [← hdue, hdelivers.due]
      simp [after]
    · intro x hx
      exact htarget x (hdelivers.target x hx)
    · rcases hdelivers.report with ⟨hfailure, hkept⟩ | ⟨x, status, hx, hpending, hdone, hreported⟩
      · rw [hfailure]
        exact hdiffers.move hm hkept
      · obtain rfl := htarget x hx
        rw [hpending] at hdiffers
        rw [hdone]
        exact hdiffers.report hrun hm hreported

private theorem Stage.prepare {w : Transport} {v : Preparing.View} {p : Preparing} {d : Caller ρ}
    {event : Option (StreamEvent ρ)} (h : Stage m s ms u (.preparing p))
    (hcaller : u.caller = .stream m (.preparing p)) (hrun : s.run ms = some u)
    (hstep : u.caller.step u.activity.transport v false = some (w, d, event)) (m' : Move) :
    ∃ c, d = .stream m c ∧ Stage m s (ms ++ [m']) (u.after w d event) c := by
  cases h with
  | refused c e hpast => exact absurd rfl (hpast p)
  | invoked c target since hpast => exact absurd rfl (hpast p)
  | preparing p htold hinvoked hsame =>
    rw [hcaller] at hstep
    rcases Caller.step_cases hstep with ⟨p', q, hp, hq, rfl, rfl⟩ | ⟨e, hp, rfl, rfl, rfl⟩ |
      ⟨target, hp, rfl, rfl, rfl⟩ | ⟨hnone, _⟩
    · refine ⟨.preparing q, rfl, .preparing q ?_ ?_ ?_⟩
      · simpa [after] using htold
      · simp [after, hinvoked, Caller.method, AnyMethod.preparing, Caller.phase, Phase.invoked?]
      · exact (Preparing.endpoints_of_step hq).trans hsame
    · have hcomes : s.Meets (ms ++ [m']) (ComesTo e) := by
        refine ⟨ms, [m'], u, rfl, hrun, ?_⟩
        rw [ComesTo, hcaller, hp]
        rfl
      refine ⟨.failing e, rfl, .refused (.failing e) e (by simp) hcomes ?_ rfl rfl ?_ hsame⟩
      · simp [after, htold, StreamCall.due]
      · simp [after, hinvoked, Caller.method, AnyMethod.failing, Caller.phase, Phase.invoked?]
    · refine ⟨.opening target v.now, rfl,
        .invoked (.opening target v.now) target v.now (by simp) ?_ ?_ rfl ?_ (Or.inl ⟨rfl, hsame⟩)⟩
      · simp [after, hinvoked, Caller.method, AnyMethod.invoking, Caller.phase, Phase.invoked?]
      · simp [after, htold, StreamCall.due]
      · intro x hx
        cases hx
        rfl
    · cases hnone

theorem Observed.move {m' : Move} (h : Observed m s ms u) (hrun : s.run ms = some u)
    (hkept : m'.cancels = false) (hm : u.move m' = some t) : Observed m s (ms ++ [m']) t := by
  obtain ⟨c, hcaller, hstage⟩ := h
  cases m' with
  | others m' =>
    have hsame : t.caller = u.caller := by
      obtain ⟨a, _, rfl⟩ := Option.map_eq_some_iff.mp hm
      rfl
    exact ⟨c, hsame.trans hcaller, hstage.others hm⟩
  | step v isCancelled =>
    cases isCancelled with
    | true => cases hkept
    | false =>
      have hmove := hm
      obtain ⟨⟨w, d, event⟩, hstep, rfl⟩ := Option.map_eq_some_iff.mp hm
      by_cases hc : ∃ p, c = .preparing p
      · obtain ⟨p, rfl⟩ := hc
        exact hstage.prepare hcaller hrun hstep _
      · have hpast : ∀ p, c ≠ .preparing p := fun p hp => hc ⟨p, hp⟩
        rw [hcaller] at hstep
        obtain ⟨⟨w', d', event'⟩, hstep', heq⟩ := Option.map_eq_some_iff.mp hstep
        cases heq
        exact ⟨d', rfl, hstage.deliver hrun hpast hstep' hmove⟩

theorem observed_start (a : Activity) (settings : CallSettings) :
    Observed m (start a settings (.stream m)) [] (start a settings (.stream m)) :=
  ⟨.preparing .begun, rfl, .preparing .begun rfl rfl rfl⟩

theorem Observed.run (h : Observed m s [] s) (hkept : ∀ m' ∈ ms, m'.cancels = false)
    (hrun : s.run ms = some t) : Observed m s ms t := by
  refine foldlM_induction
    (fun ms t => (∀ m' ∈ ms, Move.cancels m' = false) → Observed m s ms t) (fun _ => h) ?_
    hrun hkept
  intro ms u m' t hms hu hm hall
  obtain ⟨hbefore, hlast⟩ := List.forall_mem_append.mp hall
  exact (hu hbefore).move hms (hlast m' (List.mem_singleton.mpr rfl)) hm

/-! ## Going on to the end -/

/-- At some instants from now on, each not before the last, the call takes steps of its own until
all is told that is due, and is over then if it ever will be. -/
def Completes (v : Preparing.View) (ends : Bool) (due : List (StreamEvent ρ)) (now : Instant)
    (s : Calling ρ) : Prop :=
  ∃ (times : List Instant) (t : Calling ρ),
    (now :: times).Pairwise (· ≤ ·) ∧
    s.run (times.map fun now => .step { v with now } false) = some t ∧
    t.told = s.told ++ due ∧ (ends = true → t.caller.isOver = true)

theorem exists_later (a b : Instant) : ∃ later, a ≤ later ∧ b ≤ later :=
  ⟨max a b, Nat.le_max_left .., Nat.le_max_right ..⟩

private theorem completes_of_ended {v : Preparing.View} {ends : Bool} {now : Instant}
    (hcaller : s.caller = .stream m .ended) : Completes v ends [] now s := by
  refine ⟨[], s, by simp, rfl, (List.append_nil _).symm, fun _ => ?_⟩
  rw [hcaller]
  rfl

private theorem completes_of_endless {v : Preparing.View} {now : Instant} :
    Completes v false [] now s :=
  ⟨[], s, by simp, rfl, (List.append_nil _).symm, by simp⟩

theorem completes_of_step {v : Preparing.View} {ends : Bool} {now later : Instant}
    (hcaller : s.caller = .stream m c) (hpast : ∀ p, c ≠ .preparing p) (hle : now ≤ later)
    (hstep : ∀ t v', v'.now = later → ∃ w event, c.step t v' m false = some (w, d, event))
    (hnext : ∀ u : Calling ρ, u.caller = .stream m d → Completes v ends (d.due m) later u) :
    Completes v ends (c.due m) now s := by
  obtain ⟨w, event, hw⟩ := hstep s.activity.transport
    { v with now := later, settings := s.settings } rfl
  have hgo : s.caller.step s.activity.transport { v with now := later, settings := s.settings }
      false = some (w, .stream m d, event) := by
    rw [hcaller, Caller.step, hw]
    rfl
  have hmove : s.move (.step { v with now := later } false) =
      some (s.after w (.stream m d) event) := Option.map_eq_some_iff.mpr ⟨_, hgo, rfl⟩
  obtain ⟨times, t, htimes, hrun, htold, hover⟩ := hnext (s.after w (.stream m d) event) rfl
  refine ⟨later :: times, t, ?_, foldlM_cons_of_move hmove hrun, ?_, hover⟩
  · refine List.pairwise_cons.mpr ⟨?_, htimes⟩
    intro x hx
    rcases List.mem_cons.mp hx with rfl | hx
    · exact hle
    · exact Nat.le_trans hle ((List.pairwise_cons.mp htimes).1 x hx)
  · rw [htold, (StreamCall.delivers_of_step hw hpast).due]
    simp [after]

section Pump

variable {v : Preparing.View} {target : CallTarget} {stream : ResponseStream ρ}
  {now since : Instant}

private theorem completes_of_delivering {item : StreamItem ρ} (hend : ∀ x, item ≠ .message x)
    {ends : Bool}
    (hcaller : s.caller = .stream m (.pumping target stream since (.delivering item))) :
    Completes v ends ((Pump.delivering item).due stream) now s := by
  refine completes_of_step hcaller (by simp) (Nat.le_refl now) ?_ fun u hu => completes_of_ended hu
  intro t v' _
  cases item with
  | message x => exact absurd rfl (hend x)
  | failure status => exact ⟨_, _, rfl⟩
  | finish => exact ⟨_, _, rfl⟩

private theorem completes_of_reporting {status : Status} {ends : Bool}
    (hcaller : s.caller = .stream m (.pumping target stream since (.reporting status))) :
    Completes v ends [.error (.rpc status)] now s := by
  refine completes_of_step hcaller (by simp) (Nat.le_refl now) (fun t v' _ => ⟨_, _, rfl⟩) ?_
  intro u hu
  exact completes_of_delivering (by simp) hu

private theorem completes_of_pulling
    (hcaller : s.caller = .stream m (.pumping target stream since .pulling)) :
    Completes v stream.ending?.isSome stream.events now s := by
  -- each message takes the call through a round of the pump, to the rest of the stream
  induction stream generalizing s since now with
  | nil => exact completes_of_endless
  | cons step rest ih =>
    obtain ⟨delay, item⟩ := step
    obtain ⟨later, hle, hcome⟩ := exists_later now (since + delay)
    refine completes_of_step (d := .pumping target rest later (.taking item)) hcaller (by simp) hle
      ?_ ?_
    · rintro t v' rfl
      exact ⟨t, none, StreamCall.step_pulling hcome⟩
    · intro u hu
      cases item with
      | failure status => exact completes_of_reporting hu
      | finish => exact completes_of_delivering (by simp) hu
      | message x =>
        refine completes_of_step hu (by simp) (Nat.le_refl _) (fun t v' _ => ⟨_, _, rfl⟩) ?_
        intro u' hu'
        refine completes_of_step hu' (by simp) (Nat.le_refl _) (fun t v' _ => ⟨_, _, rfl⟩) ?_
        intro u'' hu''
        exact ih hu''

private theorem completes_of_checking
    (hcaller : s.caller = .stream m (.pumping target stream since .checking)) :
    Completes v stream.ending?.isSome stream.events now s := by
  refine completes_of_step hcaller (by simp) (Nat.le_refl now) (fun t v' _ => ⟨_, _, rfl⟩) ?_
  intro u hu
  exact completes_of_pulling hu

private theorem completes_of_pumping {p : Pump ρ}
    (hcaller : s.caller = .stream m (.pumping target stream since p)) :
    Completes v (p.ends stream) (p.due stream) now s := by
  cases p with
  | checking => exact completes_of_checking hcaller
  | pulling => exact completes_of_pulling hcaller
  | reporting status => exact completes_of_reporting hcaller
  | waiting =>
    cases stream with
    | nil => exact completes_of_endless
    | cons step rest =>
      obtain ⟨delay, item⟩ := step
      obtain ⟨later, hle, hcome⟩ := exists_later now (since + delay)
      refine completes_of_step (d := .pumping target ((delay, item) :: rest) since .checking)
        hcaller (by simp) hle ?_ fun u hu => completes_of_checking hu
      rintro t v' rfl
      exact ⟨t, none, StreamCall.step_waiting hcome⟩
  | delivering item =>
    cases item with
    | message x =>
      refine completes_of_step hcaller (by simp) (Nat.le_refl now) (fun t v' _ => ⟨_, _, rfl⟩) ?_
      intro u hu
      exact completes_of_checking hu
    | failure status => exact completes_of_delivering (by simp) hcaller
    | finish => exact completes_of_delivering (by simp) hcaller

end Pump

private theorem completes_of_returning {v : Preparing.View} {now : Instant}
    (hcaller : s.caller = .stream m .returning) : Completes v true [.control true] now s := by
  refine completes_of_step hcaller (by simp) (Nat.le_refl now) (fun t v' _ => ⟨_, _, rfl⟩) ?_
  intro u hu
  exact completes_of_ended hu

private theorem completes_of_failing {v : Preparing.View} {now : Instant} {e : Error}
    (hcaller : s.caller = .stream m (.failing e)) :
    Completes v true [.error e, .control true] now s := by
  refine completes_of_step hcaller (by simp) (Nat.le_refl now) (fun t v' _ => ⟨_, _, rfl⟩) ?_
  intro u hu
  exact completes_of_returning hu

private theorem completes_of_rejected {v : Preparing.View} {now : Instant} {target : CallTarget}
    {status : Status} (hcaller : s.caller = .stream m (.rejected target status)) :
    Completes v true [.error (.rpc status), .control true] now s := by
  refine completes_of_step hcaller (by simp) (Nat.le_refl now) (fun t v' _ => ⟨_, _, rfl⟩) ?_
  intro u hu
  exact completes_of_failing hu

private theorem completes_of_opened {v : Preparing.View} {now : Instant} {target : CallTarget}
    {stream : ResponseStream ρ} (hcaller : s.caller = .stream m (.opened target stream)) :
    Completes v stream.ending?.isSome (.control false :: stream.events) now s := by
  refine completes_of_step (d := .pumping target stream now .checking) hcaller (by simp)
    (Nat.le_refl now) ?_ fun u hu => completes_of_checking hu
  rintro t v' rfl
  exact ⟨_, _, rfl⟩

/-- Once its preparation is over, a call goes on to the end, unless its method never answers or its
stream yields nothing more. -/
theorem completes (hcaller : s.caller = .stream m c) (hpast : ∀ p, c ≠ .preparing p)
    (v : Preparing.View) (now : Instant) : Completes v (c.ends m) (c.due m) now s := by
  cases c with
  | preparing p => exact absurd rfl (hpast p)
  | opening target since =>
    cases hm : m target since with
    | none =>
      have hends : (StreamCall.opening target since).ends m = false := by
        simp [StreamCall.ends, Method.ending?, hm]
      have hdue : (StreamCall.opening target since).due m = [] := by
        simp [StreamCall.due, Method.events, hm]
      rw [hends, hdue]
      exact completes_of_endless
    | some answer =>
      obtain ⟨delay, answer⟩ := answer
      obtain ⟨later, hle, hcome⟩ := exists_later now (since + delay)
      refine completes_of_step (d := .answered target answer) hcaller (by simp) hle ?_ ?_
      · rintro t v' rfl
        exact ⟨t, none, StreamCall.step_opening hm hcome⟩
      · intro u hu
        simp only [StreamCall.ends, Method.ending?, hm, Option.bind_some]
        cases answer with
        | ok stream => exact completes_of_opened hu
        | error status => exact completes_of_rejected hu
  | rejected target status => exact completes_of_rejected hcaller
  | failing e => exact completes_of_failing hcaller
  | returning => exact completes_of_returning hcaller
  | opened target stream => exact completes_of_opened hcaller
  | pumping target stream since p => exact completes_of_pumping hcaller
  | ended => exact completes_of_ended hcaller

private theorem prefix_of_due {told due whole : List (StreamEvent ρ)} (h : told ++ due = whole) :
    told <+: whole :=
  ⟨due, h⟩

/-- A stream that is not cancelled. If its preparation comes to an error, the observer is told of
that before the caller is given a control of nothing. If the method is invoked, what is told is what
the method makes of it: the messages up to the end of the stream and the end, or the error with
which it did not open. All of it is told in the end, and nothing after it. The endpoints are as they
would be without the call until it fails with a status that is not a success: then one of its steps
marks the target if that is listed and unmarked at that moment, and the call does nothing else to
them. -/
theorem stream_tells_observer {c : Config} {hasExecutor : Bool} {transport : Transport}
    (hstart : Transport.start c hasExecutor = .ok transport) {before : List Activity.Move}
    {a : Activity} (hbefore : Activity.run { transport } before = some a)
    (settings : CallSettings) (m : Method (ResponseStream ρ)) {t : Calling ρ}
    (hrun : (start a settings (.stream m)).run ms = some t)
    (hkept : ∀ m' ∈ ms, m'.cancels = false) :
    (t.invoked = none → t.endpoints = t.without ∧
      ((t.caller.preparing? ≠ none ∧ t.told = []) ∨
        ∃ e, (start a settings (.stream m)).Meets ms (ComesTo e) ∧
          t.told <+: [.error e, .control true] ∧
          (t.caller.isOver = true → t.told = [.error e, .control true]) ∧
          ∀ (v : Preparing.View) (now : Instant), ∃ times w,
            (now :: times).Pairwise (· ≤ ·) ∧
            t.run (times.map fun now => .step { v with now } false) = some w ∧
            w.told = [.error e, .control true] ∧ w.caller.isOver = true)) ∧
    (∀ target since, t.invoked = some (target, since) →
      t.told <+: m.events target since ∧
      (t.caller.isOver = true →
        t.told = m.events target since ∧ (m.ending? target since).isSome = true) ∧
      (∀ (v : Preparing.View) (now : Instant), ∃ times w, (now :: times).Pairwise (· ≤ ·) ∧
        t.run (times.map fun now => .step { v with now } false) = some w ∧
        w.told = m.events target since ∧
        ((m.ending? target since).isSome = true → w.caller.isOver = true)) ∧
      (t.endpoints = t.without ∧
          (t.caller.isOver = true →
            ∀ s, m.ending? target since = some (.error s) → s.isOk = true) ∨
        ∃ s, m.ending? target since = some (.error s) ∧ s.isOk = false ∧
          ∃ first u v isCancelled w rest, ms = first ++ .step v isCancelled :: rest ∧
            Marking (start a settings (.stream m)) first u v isCancelled w rest target t ∧
            t.without = u.without.after (w.poolEvents rest) ∧
            ∀ e, w.endpoints.health e =
              if target.endpoint.toAddress = e.toAddress then
                (u.endpoints.health e).map fun mark => mark.or (some v.markTime)
              else u.endpoints.health e)) := by
  have hsound : (start a settings (.stream m)).without.current.Sound :=
    Activity.sound_of_run (Activity.sound_of_start hstart) hbefore
  obtain ⟨c, hcaller, hstage⟩ := (observed_start a settings).run hkept hrun
  have hended : t.caller.isOver = true → c = .ended := by
    intro hover
    rw [hcaller] at hover
    cases c <;> first | rfl | cases hover
  refine ⟨?_, ?_⟩
  · intro hnone
    cases hstage with
    | preparing p htold _ hsame =>
      refine ⟨hsame, Or.inl ⟨?_, htold⟩⟩
      rw [hcaller]
      simp [Caller.preparing?]
    | invoked c target since _ hinvoked => cases hnone.symm.trans hinvoked
    | refused c e hpast hcomes hdue hends _ _ hsame =>
      refine ⟨hsame, Or.inr ⟨e, hcomes, prefix_of_due hdue, ?_, ?_⟩⟩
      · intro hover
        rw [← hdue, hended hover]
        exact (List.append_nil _).symm
      · intro v now
        obtain ⟨times, w, htimes, hw, htold, hover⟩ := completes hcaller hpast v now
        exact ⟨times, w, htimes, hw, htold.trans hdue, hover hends⟩
  · intro target since hinvoked
    cases hstage with
    | preparing p _ hnone => cases hnone.symm.trans hinvoked
    | refused c e _ _ _ _ _ hnone => cases hnone.symm.trans hinvoked
    | invoked c x y hpast hx hdue hends _ hdiffers =>
      cases hinvoked.symm.trans hx
      refine ⟨prefix_of_due hdue, ?_, ?_, ?_⟩
      · intro hover
        rw [← hdue, ← hends, hended hover]
        exact ⟨(List.append_nil _).symm, rfl⟩
      · intro v now
        obtain ⟨times, w, htimes, hw, htold, hover⟩ := completes hcaller hpast v now
        exact ⟨times, w, htimes, hw, htold.trans hdue, fun hsome => hover (hends.trans hsome)⟩
      · rcases hdiffers.same_or_marks with
          ⟨hsame, hok⟩ | ⟨s, hending, hbad, first, u, v, isCancelled, w, rest, hms, hmarking⟩
        · refine Or.inl ⟨hsame, fun hover => hok ?_⟩
          rw [hended hover]
          rfl
        · exact Or.inr ⟨s, hending, hbad, first, u, v, isCancelled, w, rest, hms, hmarking,
            hmarking.without, hmarking.health hsound⟩

/-- A stream that fails after its first message: its endpoint is marked by the report, and would not
be without the call. -/
theorem stream_tells_observer_of_failure :
    let e := Endpoint.ofAddress ⟨"h", 1⟩
    let answered : RoundView := { RoundView.idle with answer := some (.ok { endpoints := [e] }) }
    let before : List Activity.Move := [.stepLoop 0 .idle, .stepLoop 0 answered,
      .stepLoop 0 .idle, .stepLoop 0 .idle, .stepLoop 0 .idle] ++
        List.replicate 10 (.stepHandler 0 0)
    let failure : Status := { code := .unavailable, message := "gone" }
    let m : Method (ResponseStream String) := fun _ _ =>
      some (0, .ok [(0, .message "x"), (0, .failure failure), (0, .message "y")])
    let v : Preparing.View :=
      { settings := {}, reach := fun _ => none, words := { next := fun _ => 0 }, now := 5,
        markTime := 5 }
    let steps := List.replicate 21 (Move.step v false)
    let target : CallTarget := ⟨e, ⟨1, e⟩⟩
    ∃ transport a t, Transport.start {} true = .ok transport ∧
      Activity.run { transport } before = some a ∧
      (start a {} (.stream m)).run steps = some t ∧ t.invoked = some (target, 5) ∧
      t.told = [.control false, .next "x", .error (.rpc failure)] ∧
      t.endpoints.health e = some (some 5) ∧ t.without.health e = some none ∧
      ∃ first u v isCancelled w rest, steps = first ++ .step v isCancelled :: rest ∧
        Marking (start a {} (.stream m)) first u v isCancelled w rest target t ∧
        u.endpoints.health e = some none ∧ w.endpoints.health e = some (some v.markTime) := by
  intro e answered before failure m v steps target
  obtain ⟨transport, hstart⟩ : ∃ transport, Transport.start {} true = .ok transport := ⟨_, rfl⟩
  have hruns : ((Activity.run { transport } before).bind fun a =>
      ((start a {} (.stream m)).run steps).map fun t =>
        (t.invoked, t.caller.isOver, t.endpoints.health e, t.without.health e)) =
        some (some (target, 5), true, some (some 5), some none) := by
    cases hstart
    decide +kernel
  simp only [Option.bind_eq_some_iff, Option.map_eq_some_iff, Prod.mk.injEq] at hruns
  obtain ⟨a, hbefore, t, hrun, hinvoked, hover, hmarked, hunmarked⟩ := hruns
  have hkept : ∀ m' ∈ steps, m'.cancels = false := by simp [steps, Move.cancels]
  obtain ⟨_, htells⟩ := stream_tells_observer hstart hbefore {} m hrun hkept
  obtain ⟨_, hwhole, _, hmarks⟩ := htells target 5 hinvoked
  have hdiffers : t.endpoints ≠ t.without := by
    intro hsame
    rw [hsame, hunmarked] at hmarked
    cases hmarked
  rcases hmarks with ⟨hsame, _⟩ | ⟨_, _, _, first, u, v, isCancelled, w, rest, hms, hmarking, _⟩
  · exact absurd hsame hdiffers
  · have hsound : (start a {} (.stream m)).without.current.Sound :=
      Activity.sound_of_run (Activity.sound_of_start hstart) hbefore
    obtain ⟨hbefore', hafter⟩ := hmarking.health_of_ne hsound hdiffers
    exact ⟨transport, a, t, hstart, hbefore, hrun, hinvoked, (hwhole hover).1, hmarked, hunmarked,
      first, u, v, isCancelled, w, rest, hms, hmarking, hbefore', hafter⟩

end Transport.Calling

end ClusterTransport
