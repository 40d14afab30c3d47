import ClusterTransport.Proofs.Transport.Observing

/-!
# Cancelling a stream

A stream may be cancelled between any two steps of its pump. A pump that has seen the stream alive
takes its next step if that has come, and tells of it also when a cancel has returned by then; but
of no other.
-/

namespace ClusterTransport

variable {ρ : Type}

/-- Whether the control that is given controls nothing, if the event gives one. -/
def StreamEvent.isNoop? : StreamEvent ρ → Option Bool
  | control isNoop => some isNoop
  | _ => none

def StreamEvent.message? : StreamEvent ρ → Option ρ
  | next m => some m
  | _ => none

namespace StreamCall

/-- The event that may be told even if the stream is cancelled now: the pump has taken it, or is
about to take it without another look. -/
def inHand? : StreamCall ρ → Option (StreamEvent ρ)
  | pumping _ _ _ .checking => none
  | pumping _ _ _ .waiting => none
  | pumping _ stream _ p => (p.due stream).head?
  | _ => none

def stepsLeft : StreamCall ρ → Nat
  | pumping _ _ _ .checking => 1
  | pumping _ _ _ .pulling => 3
  | pumping _ _ _ .waiting => 2
  | pumping _ _ _ (.reporting _) => 2
  | pumping _ _ _ (.delivering (.message _)) => 2
  | pumping _ _ _ (.delivering _) => 1
  | _ => 0

variable {t u : Transport} {v : Preparing.View} {m : Method (ResponseStream ρ)}
  {c d : StreamCall ρ} {event : Option (StreamEvent ρ)} {isCancelled : Bool}

private theorem stepsLeft_le (c : StreamCall ρ) : c.stepsLeft ≤ 3 := by
  unfold stepsLeft
  split <;> omega

structure Winds (c d : StreamCall ρ) (event : Option (StreamEvent ρ)) : Prop where
  isOpening : d.isOpening = false
  stepsLeft : d.stepsLeft < c.stepsLeft
  told : (event = none ∧ ∀ e, d.inHand? = some e → c.inHand? = some e) ∨
    ∃ e, event = some e ∧ c.inHand? = some e ∧ d.inHand? = none

private theorem winds_of_stepPump {target : CallTarget} {stream : ResponseStream ρ}
    {since : Instant}
    {p : Pump ρ} (h : stepPump t v true target stream since p = some (u, d, event)) :
    Winds (pumping target stream since p) d event := by
  cases p with
  | checking =>
    cases h
    exact ⟨rfl, by simp [stepsLeft], Or.inl ⟨rfl, fun e he => he⟩⟩
  | pulling =>
    simp only [stepPump] at h
    split at h
    next delay item rest =>
      split at h
      next =>
        cases item <;> cases h <;> exact ⟨rfl, by simp [stepsLeft], Or.inl ⟨rfl, fun e he => he⟩⟩
      next =>
        cases h
        exact ⟨rfl, by simp [stepsLeft], Or.inl ⟨rfl, by simp [inHand?]⟩⟩
    next =>
      cases h
      exact ⟨rfl, by simp [stepsLeft], Or.inl ⟨rfl, by simp [inHand?]⟩⟩
  | waiting =>
    cases h
    exact ⟨rfl, by simp [stepsLeft], Or.inl ⟨rfl, fun e he => he⟩⟩
  | reporting s =>
    cases h
    exact ⟨rfl, by simp [stepsLeft], Or.inl ⟨rfl, fun e he => he⟩⟩
  | delivering item =>
    cases item <;> cases h <;> exact ⟨rfl, by simp [stepsLeft], Or.inr ⟨_, rfl, rfl, rfl⟩⟩

theorem winds_of_step (h : c.step t v m true = some (u, d, event)) (hc : c.isOpening = false) :
    Winds c d event := by
  cases c with
  | pumping target stream since p => exact winds_of_stepPump h
  | ended => cases h
  | _ => cases hc

theorem isSome_step (hc : c.isOpening = false) (hc' : c ≠ ended) :
    (c.step t v m true).isSome = true := by
  cases c with
  | pumping target stream since p =>
    cases p with
    | pulling =>
      simp only [step, stepPump]
      repeat' split
      all_goals rfl
    | delivering item => cases item <;> rfl
    | _ => rfl
  | ended => exact absurd rfl hc'
  | _ => cases hc

private theorem isNoop?_of_stepPump {target : CallTarget} {stream : ResponseStream ρ}
    {since : Instant}
    {p : Pump ρ} (h : stepPump t v isCancelled target stream since p = some (u, d, event)) :
    event.bind StreamEvent.isNoop? = none ∧ d.isOpening = false := by
  refine ⟨?_, ?_⟩
  · cases p with
    | pulling =>
      simp only [stepPump] at h
      repeat' split at h
      all_goals
        cases h
        rfl
    | waiting =>
      simp only [stepPump] at h
      split at h <;> cases h
      rfl
    | delivering item => cases item <;> cases h <;> rfl
    | _ =>
      cases h
      rfl
  · rcases next_of_stepPump h with ⟨_, _, _, _, rfl⟩ | ⟨_, rfl⟩ <;> rfl

/-- What is in hand may be told: the next step tells it or keeps it in hand, if it is late enough
for a step of the stream to have come. -/
theorem exists_step_of_inHand? {e : StreamEvent ρ} (h : c.inHand? = some e) (now : Instant) :
    ∃ later, now ≤ later ∧ ∀ (t : Transport) (v : Preparing.View), v.now = later →
      ∃ u d event, c.step t v m true = some (u, d, event) ∧
        (event = some e ∨ event = none ∧ d.inHand? = some e) := by
  cases c with
  | pumping target stream since p =>
    cases p with
    | checking => cases h
    | waiting => cases h
    | pulling =>
      cases stream with
      | nil => cases h
      | cons first rest =>
        obtain ⟨delay, item⟩ := first
        obtain ⟨later, hle, hcome⟩ := Transport.Calling.exists_later now (since + delay)
        refine ⟨later, hle, ?_⟩
        rintro t v rfl
        refine ⟨t, .pumping target rest v.now (.taking item), none, step_pulling (m := m) hcome,
          Or.inr ⟨rfl, ?_⟩⟩
        cases item <;> exact h
    | reporting s => exact ⟨now, Nat.le_refl now, fun t v _ => ⟨_, _, _, rfl, Or.inr ⟨rfl, h⟩⟩⟩
    | delivering item =>
      refine ⟨now, Nat.le_refl now, fun t v _ => ?_⟩
      cases item <;> cases h <;> exact ⟨_, _, _, rfl, Or.inl rfl⟩
  | _ => cases h

theorem isNoop?_of_step (h : c.step t v m isCancelled = some (u, d, event)) :
    (event.bind StreamEvent.isNoop? = none ∧ (d.isOpening = true → c.isOpening = true)) ∨
      c.isOpening = true ∧ d.isOpening = false ∧
        (event = some (.control false) ∨ event = some (.control true) ∧ d = ended) := by
  cases c with
  | preparing p =>
    refine Or.inl ⟨?_, fun _ => rfl⟩
    rcases p.done_or_not with ⟨e, rfl⟩ | ⟨target, rfl⟩ | hp
    · cases h
      rfl
    · cases h
      rfl
    · rw [step_preparing hp] at h
      obtain ⟨r, _, heq⟩ := Option.map_eq_some_iff.mp h
      cases heq
      rfl
  | opening target since =>
    obtain ⟨answer, _, heq⟩ := Option.map_eq_some_iff.mp h
    cases answer <;> cases heq <;> exact Or.inl ⟨rfl, fun _ => rfl⟩
  | rejected target s =>
    cases h
    exact Or.inl ⟨rfl, fun _ => rfl⟩
  | failing e =>
    cases h
    exact Or.inl ⟨rfl, fun _ => rfl⟩
  | returning =>
    cases h
    exact Or.inr ⟨rfl, rfl, Or.inr ⟨rfl, rfl⟩⟩
  | opened target stream =>
    cases h
    exact Or.inr ⟨rfl, rfl, Or.inl rfl⟩
  | pumping target stream since p =>
    obtain ⟨hevent, hd⟩ := isNoop?_of_stepPump h
    exact Or.inl ⟨hevent, fun hopening => absurd hopening (by simp [hd])⟩
  | ended => cases h

end StreamCall

namespace Transport

/-- A call on a transport at work, whose stream may be cancelled. -/
structure Cancelling (ρ : Type) where
  calling : Calling ρ
  isCancelled : Bool := false

namespace Cancelling

inductive Move where
  | others (m : Activity.Move)
  | step (v : Preparing.View)
  /-- The control is told to cancel the stream, and returns. -/
  | cancel

def Move.isStep : Move → Bool
  | step _ => true
  | _ => false

def start (a : Activity) (settings : CallSettings) (m : Method (ResponseStream ρ)) :
    Cancelling ρ :=
  { calling := Calling.start a settings (.stream m) }

def isNoop? (s : Cancelling ρ) : Option Bool :=
  s.calling.told.findSome? StreamEvent.isNoop?

def move (s : Cancelling ρ) : Move → Option (Cancelling ρ)
  | .others m => (s.calling.move (.others m)).map fun calling => { s with calling }
  | .step v => (s.calling.move (.step v s.isCancelled)).map fun calling => { s with calling }
  | .cancel => s.isNoop?.map fun isNoop => { s with isCancelled := s.isCancelled || !isNoop }

def run (s : Cancelling ρ) (ms : List Move) : Option (Cancelling ρ) :=
  ms.foldlM move s

variable {m : Method (ResponseStream ρ)} {s t u : Cancelling ρ} {ms : List Move}
  {c d : StreamCall ρ}

/-- The caller has the control of a stream only once its pump is at work, and that of nothing only
when the call is over. -/
structure Controlled (m : Method (ResponseStream ρ)) (c : StreamCall ρ) (s : Cancelling ρ) :
    Prop where
  caller : s.calling.caller = .stream m c
  opening : c.isOpening = true → s.isNoop? = none
  noop : s.isNoop? = some true → c = .ended

theorem exists_of_step {v : Preparing.View} (hcaller : s.calling.caller = .stream m c)
    (h : s.move (.step v) = some t) :
    ∃ w d event, c.step s.calling.activity.transport { v with settings := s.calling.settings } m
        s.isCancelled = some (w, d, event) ∧
      t = { s with calling := Calling.after s.calling w (.stream m d) event } := by
  obtain ⟨calling, hmove, rfl⟩ := Option.map_eq_some_iff.mp h
  obtain ⟨⟨w, caller, event⟩, hstep, rfl⟩ := Option.map_eq_some_iff.mp hmove
  rw [hcaller] at hstep
  obtain ⟨⟨w', d, event'⟩, hd, heq⟩ := Option.map_eq_some_iff.mp hstep
  cases heq
  exact ⟨w', d, event', hd, rfl⟩

theorem move_step {v : Preparing.View} {w : Transport} {event : Option (StreamEvent ρ)}
    (hcaller : s.calling.caller = .stream m c)
    (hstep : c.step s.calling.activity.transport { v with settings := s.calling.settings } m
      s.isCancelled = some (w, d, event)) :
    s.move (.step v) =
      some { s with calling := Calling.after s.calling w (.stream m d) event } := by
  simp only [move, Calling.move, hcaller, Caller.step, hstep, Option.map_some]
  rfl

theorem Controlled.step {v : Preparing.View} (hc : Controlled m c s)
    (h : s.move (.step v) = some t) : ∃ d, Controlled m d t := by
  obtain ⟨w, d, event, hstep, rfl⟩ := exists_of_step hc.caller h
  have htold : isNoop? { s with calling := Calling.after s.calling w (.stream m d) event } =
      s.isNoop?.or (event.bind StreamEvent.isNoop?) := by
    simp only [isNoop?, Calling.after, List.findSome?_append]
    cases event with
    | none => rfl
    | some e => cases h : e.isNoop? <;> simp [h]
  refine ⟨d, rfl, ?_, ?_⟩
  · intro hopening
    rw [htold]
    rcases StreamCall.isNoop?_of_step hstep with ⟨hnone, hkept⟩ | ⟨_, hd, _⟩
    · rw [hnone, hc.opening (hkept hopening)]
      rfl
    · cases hopening.symm.trans hd
  · intro hnoop
    rw [htold] at hnoop
    rcases StreamCall.isNoop?_of_step hstep with ⟨hnone, _⟩ | ⟨hopening, _, rfl | ⟨rfl, rfl⟩⟩
    · rw [hnone, Option.or_none] at hnoop
      rw [hc.noop hnoop] at hstep
      cases hstep
    · rw [hc.opening hopening] at hnoop
      cases hnoop
    · rfl

theorem Controlled.move {m' : Move} (hc : Controlled m c s) (h : s.move m' = some t) :
    ∃ d, Controlled m d t := by
  cases m' with
  | others x =>
    obtain ⟨calling, hcalling, rfl⟩ := Option.map_eq_some_iff.mp h
    obtain ⟨a, _, rfl⟩ := Option.map_eq_some_iff.mp hcalling
    exact ⟨c, hc.caller, hc.opening, hc.noop⟩
  | step v => exact hc.step h
  | cancel =>
    obtain ⟨isNoop, _, rfl⟩ := Option.map_eq_some_iff.mp h
    exact ⟨c, hc.caller, hc.opening, hc.noop⟩

theorem controlled_run {a : Activity} {settings : CallSettings}
    (hrun : (start a settings m).run ms = some s) : ∃ c, Controlled m c s :=
  foldlM_invariant (fun s => ∃ c, Controlled m c s) (fun _ _ _ ⟨_, hc⟩ h => hc.move h)
    ⟨_, rfl, fun _ => rfl, by simp [start, isNoop?, Calling.start]⟩ hrun

structure Wound (m : Method (ResponseStream ρ)) (c : StreamCall ρ) (s : Cancelling ρ) : Prop where
  caller : s.calling.caller = .stream m c
  isOpening : c.isOpening = false
  isCancelled : s.isCancelled = true ∨ c = .ended

theorem Wound.isSome_move_step (hc : Wound m c s) (hbusy : s.calling.caller.isOver = false)
    (v : Preparing.View) : (s.move (.step v)).isSome = true := by
  have hne : c ≠ .ended := by
    rintro rfl
    rw [hc.caller] at hbusy
    cases hbusy
  obtain ⟨⟨w, d, event⟩, hstep⟩ := Option.isSome_iff_exists.mp
    (StreamCall.isSome_step (t := s.calling.activity.transport)
      (v := { v with settings := s.calling.settings }) (m := m) hc.isOpening hne)
  have hcancelled : s.isCancelled = true := hc.isCancelled.resolve_right hne
  rw [move_step hc.caller (hcancelled ▸ hstep)]
  rfl

private theorem exists_wound {a : Activity} {settings : CallSettings} {before : List Move}
    (hbefore : (start a settings m).run before = some u) (hcancel : u.move .cancel = some s) :
    ∃ c, Wound m c s := by
  obtain ⟨c, hc⟩ := controlled_run hbefore
  obtain ⟨isNoop, hnoop, rfl⟩ := Option.map_eq_some_iff.mp hcancel
  refine ⟨c, hc.caller, ?_, ?_⟩
  · cases hopening : c.isOpening with
    | false => rfl
    | true => cases hnoop.symm.trans (hc.opening hopening)
  · cases isNoop with
    | false => exact Or.inl (Bool.or_true _)
    | true => exact Or.inr (hc.noop hnoop)

/-- What has become of a stream since it was cancelled: nothing was told but what was in hand. -/
structure Since (m : Method (ResponseStream ρ)) (s : Cancelling ρ) (c : StreamCall ρ)
    (ms : List Move) (t : Cancelling ρ) : Prop where
  wound : ∃ d, Wound m d t ∧ ms.countP Move.isStep + d.stepsLeft ≤ c.stepsLeft ∧
    ((t.calling.told = s.calling.told ∧ ∀ e, d.inHand? = some e → c.inHand? = some e) ∨
      ∃ e, c.inHand? = some e ∧ t.calling.told = s.calling.told ++ [e] ∧ d.inHand? = none)

theorem Since.step {v : Preparing.View} (h : Since m s c ms u) (hmove : u.move (.step v) = some t) :
    Since m s c (ms ++ [.step v]) t := by
  obtain ⟨d, hd, hsteps, htold⟩ := h.wound
  obtain ⟨w, d', event, hstep, rfl⟩ := exists_of_step hd.caller hmove
  have hcancelled : u.isCancelled = true := by
    rcases hd.isCancelled with hcancelled | rfl
    · exact hcancelled
    · cases hstep
  rw [hcancelled] at hstep
  have hwinds := StreamCall.winds_of_step hstep hd.isOpening
  refine ⟨d', ⟨rfl, hwinds.isOpening, Or.inl hcancelled⟩, ?_, ?_⟩
  · have hless := hwinds.stepsLeft
    rw [List.countP_append, List.countP_singleton]
    simp only [Move.isStep, if_true]
    omega
  · rcases hwinds.told with ⟨rfl, hkept⟩ | ⟨e, rfl, hhand, hnone⟩
    · have hnothing : u.calling.told ++ [] = u.calling.told := List.append_nil _
      rcases htold with ⟨hsame, hfirst⟩ | ⟨e, he, htold, hnone⟩
      · exact Or.inl ⟨hnothing.trans hsame, fun e he => hfirst e (hkept e he)⟩
      · refine Or.inr ⟨e, he, hnothing.trans htold, ?_⟩
        refine Option.eq_none_iff_forall_ne_some.mpr fun e' he' => ?_
        cases hnone.symm.trans (hkept e' he')
    · rcases htold with ⟨hsame, hfirst⟩ | ⟨_, _, _, hbefore⟩
      · exact Or.inr ⟨e, hfirst e hhand, congrArg (· ++ [e]) hsame, hnone⟩
      · cases hbefore.symm.trans hhand

theorem Since.move {m' : Move} (h : Since m s c ms u) (hmove : u.move m' = some t) :
    Since m s c (ms ++ [m']) t := by
  cases m' with
  | others x =>
    obtain ⟨d, hd, hsteps, htold⟩ := h.wound
    obtain ⟨calling, hcalling, rfl⟩ := Option.map_eq_some_iff.mp hmove
    obtain ⟨a, _, rfl⟩ := Option.map_eq_some_iff.mp hcalling
    exact ⟨d, ⟨hd.caller, hd.isOpening, hd.isCancelled⟩, by simpa [Move.isStep] using hsteps, htold⟩
  | step v => exact h.step hmove
  | cancel =>
    obtain ⟨d, hd, hsteps, htold⟩ := h.wound
    obtain ⟨isNoop, _, rfl⟩ := Option.map_eq_some_iff.mp hmove
    refine ⟨d, ⟨hd.caller, hd.isOpening, ?_⟩, by simpa [Move.isStep] using hsteps, htold⟩
    exact hd.isCancelled.imp_left fun hcancelled => by simp [hcancelled]

theorem since_run (hc : Wound m c s) (hrun : s.run ms = some t) : Since m s c ms t :=
  foldlM_induction (Since m s c)
    ⟨c, hc, by simp, Or.inl ⟨rfl, fun _ => id⟩⟩
    (fun _ _ _ _ _ h hm => h.move hm) hrun

private theorem exists_told (hc : Wound m c s) {e : StreamEvent ρ} (he : c.inHand? = some e)
    (v : Preparing.View) (now : Instant) :
    ∃ times t, (now :: times).Pairwise (· ≤ ·) ∧
      s.run (times.map fun now => .step { v with now }) = some t ∧
      t.calling.told = s.calling.told ++ [e] := by
  -- A step that keeps the event in hand leaves the pump fewer steps.
  induction hn : c.stepsLeft using Nat.strongRecOn generalizing c s now with
  | ind n ih =>
    obtain ⟨later, hle, hstep⟩ := StreamCall.exists_step_of_inHand? (m := m) he now
    obtain ⟨w, d, event, hd, htells⟩ := hstep s.calling.activity.transport
      { v with now := later, settings := s.calling.settings } rfl
    have hcancelled : s.isCancelled = true := by
      rcases hc.isCancelled with hcancelled | rfl
      · exact hcancelled
      · cases he
    have hmove := move_step (v := { v with now := later }) hc.caller (hcancelled ▸ hd)
    have hwinds := StreamCall.winds_of_step hd hc.isOpening
    rcases htells with rfl | ⟨rfl, hhand⟩
    · exact ⟨[later], _, by simpa using hle, foldlM_cons_of_move hmove rfl, rfl⟩
    · have hnext : Wound m d
          { s with calling := Calling.after s.calling w (.stream m d) none } :=
        ⟨rfl, hwinds.isOpening, Or.inl hcancelled⟩
      obtain ⟨times, t, htimes, hrun, htold⟩ :=
        ih d.stepsLeft (hn ▸ hwinds.stepsLeft) hnext hhand later rfl
      refine ⟨later :: times, t, ?_, foldlM_cons_of_move hmove hrun, ?_⟩
      · refine List.pairwise_cons.mpr ⟨?_, htimes⟩
        intro x hx
        rcases List.mem_cons.mp hx with rfl | hx
        · exact hle
        · exact Nat.le_trans hle ((List.pairwise_cons.mp htimes).1 x hx)
      · rw [htold]
        exact congrArg (· ++ [e]) (List.append_nil _)

private theorem Wound.told_cases (hc : Wound m c s) (hrun : s.run ms = some t) :
    t.calling.told = s.calling.told ∨
      ∃ e, c.inHand? = some e ∧ t.calling.told = s.calling.told ++ [e] := by
  obtain ⟨d, _, _, htold⟩ := (since_run hc hrun).wound
  exact htold.imp And.left fun ⟨e, he, htold, _⟩ => ⟨e, he, htold⟩

private theorem Wound.told_eq_iff (hc : Wound m c s) :
    (∀ ms t, s.run ms = some t → t.calling.told = s.calling.told) ↔ c.inHand? = none := by
  constructor
  · intro hquiet
    refine Option.eq_none_iff_forall_ne_some.mpr fun e he => ?_
    let v : Preparing.View :=
      { settings := s.calling.settings, reach := fun _ => none, words := { next := fun _ => 0 },
        now := 0, markTime := 0 }
    obtain ⟨times, t, _, hrun, htold⟩ := exists_told hc he v 0
    have hsame := (hquiet _ t hrun).symm.trans htold
    simp at hsame
  · intro hnone ms t hrun
    rcases hc.told_cases hrun with hsame | ⟨e, he, _⟩
    · exact hsame
    · cases hnone.symm.trans he

/-- A stream is cancelled at any moment. From then on its observer is told of nothing but the event
that was in hand, which comes from a step that the pump had taken or was about to take; it may be
told of that. The pump takes at most three more steps, none of which waits, and then it is over. -/
theorem told_after_cancel (a : Activity) (settings : CallSettings)
    (m : Method (ResponseStream ρ)) {before : List Move}
    (hbefore : (start a settings m).run before = some u) (hcancel : u.move .cancel = some s) :
    ∃ c, s.calling.caller = .stream m c ∧
      (∀ ms t, s.run ms = some t →
        (t.calling.told = s.calling.told ∨
          ∃ e, c.inHand? = some e ∧ t.calling.told = s.calling.told ++ [e]) ∧
        ms.countP Move.isStep ≤ 3 ∧
        (t.calling.caller.isOver = false → ∀ v, (t.move (.step v)).isSome = true)) ∧
      (∀ e, c.inHand? = some e → ∀ (v : Preparing.View) (now : Instant), ∃ times t,
        (now :: times).Pairwise (· ≤ ·) ∧
        s.run (times.map fun now => .step { v with now }) = some t ∧
        t.calling.told = s.calling.told ++ [e]) ∧
      ((∀ ms t, s.run ms = some t → t.calling.told = s.calling.told) ↔ c.inHand? = none) := by
  obtain ⟨c, hc⟩ := exists_wound hbefore hcancel
  refine ⟨c, hc.caller, ?_, fun e he => exists_told hc he, hc.told_eq_iff⟩
  intro ms t hrun
  obtain ⟨d, hd, hsteps, _⟩ := (since_run hc hrun).wound
  refine ⟨hc.told_cases hrun, ?_, ?_⟩
  · have hle := c.stepsLeft_le
    omega
  · intro hbusy v
    exact hd.isSome_move_step hbusy v

def firstRound (e : Endpoint) : List Activity.Move :=
  let answered := { RoundView.idle with answer := some (.ok { endpoints := [e] }) }
  [.stepLoop 0 .idle, .stepLoop 0 answered, .stepLoop 0 .idle, .stepLoop 0 .idle,
    .stepLoop 0 .idle] ++ List.replicate 10 (.stepHandler 0 0)

/-- The stream is cancelled when the pump has seen it alive and is about to take the first of two
messages that have come: the observer is told of that message and not of the other. -/
theorem told_after_cancel_while_pulling :
    let e := Endpoint.ofAddress ⟨"h", 1⟩
    let m : Method (ResponseStream String) := fun _ _ =>
      some (0, .ok [(0, .message "x"), (0, .message "y")])
    let v : Preparing.View :=
      { settings := {}, reach := fun _ => none, words := { next := fun _ => 0 }, now := 5,
        markTime := 5 }
    ∃ transport a u s t, Transport.start {} true = .ok transport ∧
      Activity.run { transport } (firstRound e) = some a ∧
      (start a {} m).run (List.replicate 15 (.step v)) = some u ∧ u.move .cancel = some s ∧
      s.run (List.replicate 3 (.step v)) = some t ∧ t.calling.caller.isOver = true ∧
      ∃ event, t.calling.told = s.calling.told ++ [event] ∧ event.message? = some "x" := by
  intro e m v
  obtain ⟨transport, hstart⟩ : ∃ transport, Transport.start {} true = .ok transport := ⟨_, rfl⟩
  have hruns : ((Activity.run { transport } (firstRound e)).bind fun a =>
      ((start a {} m).run (List.replicate 15 (.step v))).bind fun u =>
        (u.move .cancel).bind fun s =>
          (s.run (List.replicate 3 (.step v))).map fun t =>
            (s.calling.told.length, t.calling.caller.isOver,
              t.calling.told.map StreamEvent.message?)) =
        some (1, true, [none, some "x"]) := by
    cases hstart
    decide +kernel
  simp only [Option.bind_eq_some_iff, Option.map_eq_some_iff, Prod.mk.injEq] at hruns
  obtain ⟨a, hbefore, u, hu, s, hs, t, ht, hlength, hover, hmessages⟩ := hruns
  obtain ⟨c, _, hmost, _⟩ := told_after_cancel a {} m hu hs
  refine ⟨transport, a, u, s, t, hstart, hbefore, hu, hs, ht, hover, ?_⟩
  rcases (hmost _ t ht).1 with hsame | ⟨event, _, htold⟩
  · have hmore := congrArg List.length hmessages
    rw [List.length_map, hsame, hlength] at hmore
    cases hmore
  · refine ⟨event, htold, ?_⟩
    have hlast := congrArg List.getLast? hmessages
    rw [htold, List.map_append, List.map_singleton, List.getLast?_concat] at hlast
    exact Option.some.inj hlast

/-- The observer is told of a message that the pump has taken before the cancel, and of which it
tells after the cancel has returned. -/
theorem next_after_cancel :
    let e := Endpoint.ofAddress ⟨"h", 1⟩
    let m : Method (ResponseStream String) := fun _ _ => some (0, .ok [(0, .message "x")])
    let v : Preparing.View :=
      { settings := {}, reach := fun _ => none, words := { next := fun _ => 0 }, now := 5,
        markTime := 5 }
    ∃ transport a u s t, Transport.start {} true = .ok transport ∧
      Activity.run { transport } (firstRound e) = some a ∧
      (start a {} m).run (List.replicate 16 (.step v)) = some u ∧ u.move .cancel = some s ∧
      s.move (.step v) = some t ∧ s.calling.told.map StreamEvent.message? = [none] ∧
      t.calling.told.map StreamEvent.message? = [none, some "x"] := by
  intro e m v
  obtain ⟨transport, hstart⟩ : ∃ transport, Transport.start {} true = .ok transport := ⟨_, rfl⟩
  have hruns : ((Activity.run { transport } (firstRound e)).bind fun a =>
      ((start a {} m).run (List.replicate 16 (.step v))).bind fun u =>
        (u.move .cancel).bind fun s =>
          (s.move (.step v)).map fun t =>
            (s.calling.told.map StreamEvent.message?, t.calling.told.map StreamEvent.message?)) =
        some ([none], [none, some "x"]) := by
    cases hstart
    decide +kernel
  simp only [Option.bind_eq_some_iff, Option.map_eq_some_iff, Prod.mk.injEq] at hruns
  obtain ⟨a, hbefore, u, hu, s, hs, t, ht, hearlier, hlater⟩ := hruns
  exact ⟨transport, a, u, s, t, hstart, hbefore, hu, hs, ht, hearlier, hlater⟩

end Cancelling

end Transport

end ClusterTransport
