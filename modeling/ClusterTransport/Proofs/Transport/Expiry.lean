import ClusterTransport.Proofs.Call.Sending
import ClusterTransport.Proofs.Transport.Reporting

/-!
# Calls whose time runs out

The deadline of a call is checked before an endpoint is selected, and again when the request is
built. A call whose deadline passes between the two sends nothing, and yet its endpoint is reported
as failing.
-/

namespace ClusterTransport

/-- A method that is called over the connection of its target. -/
structure RemoteMethod (α : Type) where
  channel : CallTarget → Channel
  server : CallTarget → Server
  path : String
  message : List UInt8
  read : Nat → ServerReply → Except Status α
  /-- The number of the request among those that the server is sent. -/
  number : CallTarget → Nat

namespace RemoteMethod

variable {α : Type}

def outcome? (m : RemoteMethod α) (settings : CallSettings) (target : CallTarget)
    (since : Instant) : Option (CallOutcome α) :=
  Call.run (m.channel target) (m.server target) settings m.path m.message m.read since
    (m.number target)

def method (m : RemoteMethod α) (settings : CallSettings) : Method α :=
  fun target since => (m.outcome? settings target since).map fun o => (o.finished - since, o.result)

private theorem outcome?_of_isExpired (m : RemoteMethod α) {settings : CallSettings}
    {since : Instant}
    (target : CallTarget) (hexpired : settings.isExpired since = true) :
    ∃ s, s.isOk = false ∧ m.outcome? settings target since = some ⟨.error s, none, since⟩ :=
  Call.run_of_isExpired _ _ _ _ _ _ hexpired

end RemoteMethod

inductive AnyRemoteMethod (ρ : Type) where
  | unary (m : RemoteMethod ρ)
  | stream (m : RemoteMethod (ResponseStream ρ))

variable {ρ : Type}

namespace AnyRemoteMethod

def method (settings : CallSettings) : AnyRemoteMethod ρ → AnyMethod ρ
  | unary m => .unary (m.method settings)
  | stream m => .stream (m.method settings)

def sent? (settings : CallSettings) (target : CallTarget) (since : Instant) :
    AnyRemoteMethod ρ → Option SentRequest
  | unary m => (m.outcome? settings target since).bind CallOutcome.sent
  | stream m => (m.outcome? settings target since).bind CallOutcome.sent

private theorem failure?_of_isExpired (m : AnyRemoteMethod ρ) {settings : CallSettings}
    {since : Instant}
    (target : CallTarget) (hexpired : settings.isExpired since = true) :
    m.sent? settings target since = none ∧
      ∃ s, (m.method settings).failure? target since = some s ∧ s.isOk = false := by
  cases m with
  | unary m =>
    obtain ⟨s, hs, houtcome⟩ := m.outcome?_of_isExpired target hexpired
    refine ⟨?_, s, ?_, hs⟩
    · rw [sent?, houtcome]
      rfl
    · rw [method, AnyMethod.failure?, RemoteMethod.method, houtcome]
      rfl
  | stream m =>
    obtain ⟨s, hs, houtcome⟩ := m.outcome?_of_isExpired target hexpired
    refine ⟨?_, s, ?_, hs⟩
    · rw [sent?, houtcome]
      rfl
    · rw [method, AnyMethod.failure?, RemoteMethod.method, houtcome]
      rfl

end AnyRemoteMethod

/-- What is known at each phase of a call that is invoked too late, if it is invoked: it makes no
difference to the endpoints before it has marked its target. -/
def Phase.Overdue (marked : CallTarget → Prop) (invoked : Option (CallTarget × Instant))
    (endpoints without : EndpointPool) : Phase → Prop
  | before => invoked = none ∧ endpoints = without
  | during target since => invoked = some (target, since) ∧ endpoints = without
  | failed target s =>
    (∃ since, invoked = some (target, since)) ∧ s.isOk = false ∧ endpoints = without
  | served => False
  | settled =>
    (invoked = none ∧ endpoints = without) ∨
      ∃ target since, invoked = some (target, since) ∧ marked target

def AnyMethod.Fails (invoked : Option (CallTarget × Instant)) (m : AnyMethod ρ) : Prop :=
  ∀ target since, invoked = some (target, since) →
    ∃ s, m.failure? target since = some s ∧ s.isOk = false

variable {marked marked' : CallTarget → Prop}

private theorem Phase.Overdue.next {m : AnyMethod ρ} {v : Preparing.View}
    {p q without : EndpointPool}
    {phase next : Phase} {invoked : Option (CallTarget × Instant)}
    (h : phase.Overdue marked invoked p without) (hn : Phase.Next m v p phase q next)
    (hfails : m.Fails (invoked.or next.invoked?))
    (hkept : q = p → ∀ target, marked target → marked' target)
    (hmarks : ∀ target, p = without → q = p.pessimize v.markTime target.endpoint →
      marked' target) :
    next.Overdue marked' (invoked.or next.invoked?) q without := by
  cases hn with
  | preparing =>
    obtain ⟨rfl, rfl⟩ := h
    exact ⟨rfl, rfl⟩
  | refused =>
    obtain ⟨rfl, rfl⟩ := h
    exact Or.inl ⟨rfl, rfl⟩
  | invoking target =>
    obtain ⟨rfl, rfl⟩ := h
    exact ⟨rfl, rfl⟩
  | failing target since s hfailure =>
    obtain ⟨rfl, rfl⟩ := h
    obtain ⟨s', hs', hbad⟩ := hfails target since rfl
    cases hfailure.symm.trans hs'
    exact ⟨⟨since, rfl⟩, hbad, rfl⟩
  | serving target since hfailure =>
    obtain ⟨rfl, rfl⟩ := h
    obtain ⟨s', hs', _⟩ := hfails target since rfl
    cases hfailure.symm.trans hs'
  | reporting target s =>
    obtain ⟨⟨since, rfl⟩, hbad, hsame⟩ := h
    rw [PoolEvent.ofReport, hbad] at hmarks ⊢
    exact Or.inr ⟨target, since, rfl, hmarks target hsame rfl⟩
  | passing q => exact h.elim
  | ending => exact h.elim
  | resting =>
    rcases h with ⟨rfl, rfl⟩ | ⟨target, since, rfl, hmarked⟩
    · exact Or.inl ⟨rfl, rfl⟩
    · exact Or.inr ⟨target, since, rfl, hkept rfl target hmarked⟩

/-- What others do changes nothing, since they do it to both versions of the endpoints. -/
theorem Phase.Overdue.after {phase : Phase} {invoked : Option (CallTarget × Instant)}
    {p without : EndpointPool} (h : phase.Overdue marked invoked p without)
    (events : List PoolEvent) (hkept : ∀ target, marked target → marked' target) :
    phase.Overdue marked' invoked (p.after events) (without.after events) := by
  cases phase with
  | before => exact ⟨h.1, congrArg (·.after events) h.2⟩
  | during target since => exact ⟨h.1, congrArg (·.after events) h.2⟩
  | failed target s => exact ⟨h.1, h.2.1, congrArg (·.after events) h.2.2⟩
  | served => exact h
  | settled =>
    rcases h with ⟨hnone, rfl⟩ | ⟨target, since, hinvoked, hmarked⟩
    · exact Or.inl ⟨hnone, rfl⟩
    · exact Or.inr ⟨target, since, hinvoked, hkept target hmarked⟩

/-- Until the call has reported its target there is no difference, and then there is that one. -/
theorem Phase.Overdue.eq_or_marked {phase : Phase} {invoked : Option (CallTarget × Instant)}
    {p without : EndpointPool} (h : phase.Overdue marked invoked p without) :
    (p = without ∧ (phase = .settled → invoked = none)) ∨
      ∃ target since, phase = .settled ∧ invoked = some (target, since) ∧ marked target := by
  cases phase with
  | before => exact Or.inl ⟨h.2, nofun⟩
  | during target since => exact Or.inl ⟨h.2, nofun⟩
  | failed target s => exact Or.inl ⟨h.2.2, nofun⟩
  | served => exact h.elim
  | settled =>
    rcases h with ⟨hnone, hsame⟩ | ⟨target, since, hinvoked, hmarked⟩
    · exact Or.inl ⟨hsame, fun _ => hnone⟩
    · exact Or.inr ⟨target, since, rfl, hinvoked, hmarked⟩

namespace Transport.Calling

variable {s t u : Calling ρ} {m : Move} {ms : List Move} {method : AnyMethod ρ}

/-- A call of a method, with what is known of it if it is invoked too late. -/
structure Watched (method : AnyMethod ρ) (s : Calling ρ) (ms : List Move) (t : Calling ρ) :
    Prop where
  method_eq : t.caller.method = method
  overdue : method.Fails t.invoked →
    t.caller.phase.Overdue (s.Marks ms · t) t.invoked t.endpoints t.without

theorem watched_start (a : Activity) (settings : CallSettings) (method : AnyMethod ρ) :
    Watched method (start a settings method) [] (start a settings method) := by
  cases method with
  | unary m => exact ⟨rfl, fun _ => ⟨rfl, rfl⟩⟩
  | stream m => exact ⟨rfl, fun _ => ⟨rfl, rfl⟩⟩

theorem Watched.move (hrun : s.run ms = some u) (h : Watched method s ms u)
    (hm : u.move m = some t) : Watched method s (ms ++ [m]) t := by
  have hmove := hm
  cases m with
  | others m =>
    obtain ⟨a, ha, rfl⟩ := Option.map_eq_some_iff.mp hm
    have hends : a.transport.endpoints = u.endpoints.after (u.activity.poolEvents m) :=
      Activity.endpoints_of_move ha
    refine ⟨h.method_eq, fun hfails => ?_⟩
    have hafter := (h.overdue hfails).after (u.activity.poolEvents m)
      fun target hmarked => hmarked.move hmove hends
    rw [← hends] at hafter
    exact hafter
  | step v isCancelled =>
    obtain ⟨⟨w, d, event⟩, hstep, rfl⟩ := Option.map_eq_some_iff.mp hm
    obtain ⟨hmethod, hnext⟩ := Caller.next_of_step hstep
    rw [h.method_eq] at hmethod hnext
    refine ⟨hmethod, fun hfails => ?_⟩
    have hbefore : method.Fails u.invoked := fun target since hinvoked =>
      hfails target since (by simp [hinvoked])
    refine (h.overdue hbefore).next hnext hfails ?_ ?_
    · intro hsame target hmarked
      exact hmarked.move hmove hsame
    · intro target hsame hmarks
      exact marks_of_step hrun hmove hsame hmarks

theorem Watched.run {a : Activity} {settings : CallSettings}
    (hrun : (start a settings method).run ms = some t) :
    Watched method (start a settings method) ms t :=
  foldlM_induction (Watched method _) (watched_start a settings method)
    (fun _ _ _ _ hms hu hm => hu.move hms hm) hrun

/-- A call that is not invoked leaves the endpoints as they would be without it. One that is invoked
when its deadline has passed sends nothing, and reports its target as failing all the same: until
that step it makes no difference, and with it, it makes none if and only if the target is not listed
any more then, or marked already. -/
theorem overdue_call_marks {c : Config} {hasExecutor : Bool} {transport : Transport}
    (hstart : Transport.start c hasExecutor = .ok transport) {before : List Activity.Move}
    {a : Activity} (hbefore : Activity.run { transport } before = some a)
    (settings : CallSettings) (m : AnyRemoteMethod ρ) {ms : List Move} {t : Calling ρ}
    (hrun : (start a settings (m.method settings)).run ms = some t)
    (hexpired : ∀ target since, t.invoked = some (target, since) →
      settings.isExpired since = true) :
    (t.invoked = none → t.endpoints = t.without) ∧
    ∀ target since, t.invoked = some (target, since) →
      m.sent? settings target since = none ∧
      (t.caller.phase ≠ .settled → t.endpoints = t.without) ∧
      (t.caller.phase = .settled →
        ∃ first u v isCancelled w rest, ms = first ++ .step v isCancelled :: rest ∧
          Marking (start a settings (m.method settings)) first u v isCancelled w rest target t ∧
          t.without = u.without.after (w.poolEvents rest) ∧
          ((∀ e, w.endpoints.health e = u.endpoints.health e) ∧
              w.endpoints.current.pessimized = u.endpoints.current.pessimized ↔
            u.endpoints.health target.endpoint ≠ some none)) := by
  have hsound : (start a settings (m.method settings)).without.current.Sound :=
    Activity.sound_of_run (Activity.sound_of_start hstart) hbefore
  have hwatched := Watched.run hrun
  have hoverdue := hwatched.overdue fun target since hinvoked =>
    (m.failure?_of_isExpired target (hexpired target since hinvoked)).2
  refine ⟨?_, ?_⟩
  · intro hnone
    rcases hoverdue.eq_or_marked with ⟨hsame, _⟩ | ⟨target, since, _, hinvoked, _⟩
    · exact hsame
    · cases hnone.symm.trans hinvoked
  · intro target since hinvoked
    have hsent := (m.failure?_of_isExpired target (hexpired target since hinvoked)).1
    rcases hoverdue.eq_or_marked with ⟨hsame, hnone⟩ | ⟨target', since', hsettled, hsome, hmarked⟩
    · refine ⟨hsent, fun _ => hsame, fun hsettled => ?_⟩
      cases (hnone hsettled).symm.trans hinvoked
    · cases hsome.symm.trans hinvoked
      refine ⟨hsent, fun hne => absurd hsettled hne, fun _ => ?_⟩
      obtain ⟨first, u, v, isCancelled, w, rest, hms, hmarking⟩ := hmarked
      refine ⟨first, u, v, isCancelled, w, rest, hms, hmarking, hmarking.without, ?_⟩
      rw [hmarking.marks]
      exact EndpointPool.health_pessimize_eq_iff v.markTime (hmarking.sound hsound).indexed

/-- A stream is asked for in time, and its method is invoked when the deadline has passed: its
endpoint, unmarked until then, is marked by the report. -/
theorem overdue_call_marks_of_late_stream :
    let e := Endpoint.ofAddress ⟨"h", 1⟩
    let answered : RoundView := { RoundView.idle with answer := some (.ok { endpoints := [e] }) }
    let before : List Activity.Move := [.stepLoop 0 .idle, .stepLoop 0 answered,
      .stepLoop 0 .idle, .stepLoop 0 .idle, .stepLoop 0 .idle] ++
        List.replicate 10 (.stepHandler 0 0)
    let settings : CallSettings := { deadline := some 10, preferred := some e }
    let m : AnyRemoteMethod Unit := .stream
      { channel := fun _ => ⟨⟨none, "sdk"⟩, 67108864⟩, server := fun _ => {}, path := "/a/b"
        message := [], read := fun _ _ => .ok [], number := fun _ => 0 }
    let v : Instant → Preparing.View := fun now =>
      { settings, reach := fun _ => none, words := { next := fun _ => 0 }, now, markTime := now }
    let steps := List.replicate 11 (Move.step (v 5) false) ++
      List.replicate 3 (Move.step (v 20) false)
    let target : CallTarget := ⟨e, ⟨1, e⟩⟩
    ∃ transport a t, Transport.start {} true = .ok transport ∧
      Activity.run { transport } before = some a ∧
      (start a settings (m.method settings)).run steps = some t ∧
      m.sent? settings target 20 = none ∧
      ∃ first u v isCancelled w rest, steps = first ++ .step v isCancelled :: rest ∧
        Marking (start a settings (m.method settings)) first u v isCancelled w rest target t ∧
        u.endpoints.health e = some none ∧ w.endpoints.health e = some (some v.markTime) := by
  intro e answered before settings m v steps target
  obtain ⟨transport, hstart⟩ : ∃ transport, Transport.start {} true = .ok transport := ⟨_, rfl⟩
  have hruns : ((Activity.run { transport } before).bind fun a =>
      ((start a settings (m.method settings)).run steps).map fun t =>
        (t.invoked, t.caller.phase, t.endpoints.health e, t.without.health e)) =
          some (some (target, 20), .settled, some (some 20), some none) := by
    cases hstart
    decide +kernel
  simp only [Option.bind_eq_some_iff, Option.map_eq_some_iff, Prod.mk.injEq] at hruns
  obtain ⟨a, hbefore, t, hrun, hinvoked, hsettled, hmarked, hunmarked⟩ := hruns
  obtain ⟨_, hlate⟩ := overdue_call_marks hstart hbefore settings m hrun (by
    intro target' since h
    cases hinvoked.symm.trans h
    rfl)
  obtain ⟨hsent, _, hmarks⟩ := hlate target 20 hinvoked
  obtain ⟨first, u, v, isCancelled, w, rest, hms, hmarking, _⟩ := hmarks hsettled
  have hsound : (start a settings (m.method settings)).without.current.Sound :=
    Activity.sound_of_run (Activity.sound_of_start hstart) hbefore
  have hdiffers : t.endpoints ≠ t.without := by
    intro hsame
    rw [hsame, hunmarked] at hmarked
    cases hmarked
  obtain ⟨hbefore', hafter⟩ := hmarking.health_of_ne hsound hdiffers
  exact ⟨transport, a, t, hstart, hbefore, hrun, hsent, first, u, v, isCancelled, w, rest, hms,
    hmarking, hbefore', hafter⟩

/-- A unary call is made in time, and its method is invoked when the deadline has passed. Its only
endpoint is marked then, and would not be without the call. -/
theorem mark_of_overdue_call :
    let e := Endpoint.ofAddress ⟨"h", 1⟩
    let answered : RoundView := { RoundView.idle with answer := some (.ok { endpoints := [e] }) }
    let before : List Activity.Move := [.stepLoop 0 .idle, .stepLoop 0 answered,
      .stepLoop 0 .idle, .stepLoop 0 .idle, .stepLoop 0 .idle] ++
        List.replicate 10 (.stepHandler 0 0)
    let settings : CallSettings := { deadline := some 10, preferred := some e }
    let m : AnyRemoteMethod Unit := .unary
      { channel := fun _ => ⟨⟨none, "sdk"⟩, 67108864⟩, server := fun _ => {}, path := "/a/b"
        message := [], read := fun _ _ => .ok (), number := fun _ => 0 }
    let v : Instant → Preparing.View := fun now =>
      { settings, reach := fun _ => none, words := { next := fun _ => 0 }, now, markTime := now }
    let steps := List.replicate 12 (Move.step (v 5) false) ++
      List.replicate 3 (Move.step (v 20) false)
    let target : CallTarget := ⟨e, ⟨1, e⟩⟩
    ∃ transport a t, Transport.start {} true = .ok transport ∧
      Activity.run { transport } before = some a ∧
      (start a settings (m.method settings)).run steps = some t ∧
      t.invoked = some (target, 20) ∧ settings.isExpired 20 = true ∧
      t.endpoints.health e = some (some 20) ∧ t.without.health e = some none ∧
      t.endpoints.current.pessimized = 1 ∧ t.without.current.pessimized = 0 := by
  intro e answered before settings m v steps target
  obtain ⟨transport, hstart⟩ : ∃ transport, Transport.start {} true = .ok transport := ⟨_, rfl⟩
  have hruns : ((Activity.run { transport } before).bind fun a =>
      ((start a settings (m.method settings)).run steps).map fun t =>
        (t.invoked, t.endpoints.health e, t.without.health e, t.endpoints.current.pessimized,
          t.without.current.pessimized)) =
            some (some (target, 20), some (some 20), some none, 1, 0) := by
    cases hstart
    decide +kernel
  simp only [Option.bind_eq_some_iff, Option.map_eq_some_iff, Prod.mk.injEq] at hruns
  obtain ⟨a, hbefore, t, hrun, hinvoked, hmarked, hunmarked, hone, hzero⟩ := hruns
  exact ⟨transport, a, t, hstart, hbefore, hrun, hinvoked, rfl, hmarked, hunmarked, hone, hzero⟩

end Transport.Calling

end ClusterTransport
