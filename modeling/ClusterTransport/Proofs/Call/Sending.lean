import ClusterTransport.Call.Exchange

/-!
# Sending calls

When the request of a call can be built, and what becomes of the call if the server is sent none.
-/

namespace ClusterTransport

namespace WireTimeout

private theorem isSome_inUnits_iff {d : Span} {units : List (Char × Span)} :
    (inUnits d units).isSome = true ↔ ∃ u ∈ units, d / u.2 ≤ greatest := by
  induction units with
  | nil => simp [inUnits]
  | cons u units ih =>
    rw [inUnits]
    split
    next h => simp [h]
    next h => simp [h, ih]

/-- A span can be written if it is shorter than a hundred million hours. -/
theorem isSome_ofSpan?_iff {d : Span} :
    (ofSpan? d).isSome = true ↔ d < Span.seconds 360000000000 := by
  rw [ofSpan?, isSome_inUnits_iff]
  simp only [units, greatest, Span.seconds, List.mem_cons, List.not_mem_nil, or_false,
    exists_eq_or_imp, exists_eq_left]
  unfold Span at *
  constructor
  · rintro (h | h | h | h | h | h) <;> omega
  · intro h
    omega

end WireTimeout

/-- The status of a call whose deadline passes before its request is built. -/
def RequestHead.overdue : Status :=
  ⟨.deadlineExceeded, "deadline expired before the call was sent", none⟩

variable {settings : CallSettings} {now : Instant}

private theorem CallSettings.withTraceId_of_validate (hvalid : settings.validate = .ok ())
    (h : Headers) : ∃ h', RequestHead.withTraceId settings.traceId h = .ok h' := by
  cases hid : settings.traceId with
  | none => exact ⟨h, rfl⟩
  | some id =>
    simp only [CallSettings.validate, hid] at hvalid
    split at hvalid
    next hvalue => exact ⟨_, by rw [RequestHead.withTraceId, if_pos hvalue]⟩
    next => cases hvalid

private theorem CallSettings.remaining_of_isExpired (h : settings.isExpired now = true) :
    settings.remaining now = some 0 := by
  simpa [isExpired] using h

private theorem RequestHead.build_of_isExpired (channel : ChannelHeaders)
    (hexpired : settings.isExpired now = true) :
    ∃ s, s.isOk = false ∧ build channel settings now = .error (.status s) := by
  unfold build
  cases hid : settings.traceId with
  | none => exact ⟨overdue, rfl, by rw [settings.remaining_of_isExpired hexpired]; rfl⟩
  | some id =>
    simp only [withTraceId]
    split
    next => exact ⟨overdue, rfl, by rw [settings.remaining_of_isExpired hexpired]; rfl⟩
    next => exact ⟨_, rfl, rfl⟩

/-- A request of valid settings is built unless the deadline has passed or is too far away. -/
theorem RequestHead.build_cases (channel : ChannelHeaders) (hvalid : settings.validate = .ok ()) :
    (settings.isExpired now = true ∧ build channel settings now = .error (.status overdue)) ∨
    (∃ d, settings.remaining now = some d ∧ Span.seconds 360000000000 ≤ d ∧
      build channel settings now = .error .timeoutTooLong) ∨
    (settings.isExpired now = false ∧
      (∀ d, settings.remaining now = some d → d < Span.seconds 360000000000) ∧
      ∃ head, build channel settings now = .ok head) := by
  obtain ⟨h, hbuilt⟩ := settings.withTraceId_of_validate hvalid (channel.apply [])
  have hbuild : build channel settings now = withTimeout (settings.remaining now) h := by
    rw [build, hbuilt]
    rfl
  rw [hbuild, CallSettings.isExpired]
  cases hremaining : settings.remaining now with
  | none => exact Or.inr (Or.inr ⟨rfl, by simp, _, rfl⟩)
  | some d =>
    by_cases hzero : d = 0
    · subst hzero
      exact Or.inl ⟨rfl, rfl⟩
    · rw [withTimeout, if_neg hzero]
      cases hspan : WireTimeout.ofSpan? d with
      | none =>
        have hlong : ¬ d < Span.seconds 360000000000 := by
          rw [← WireTimeout.isSome_ofSpan?_iff, hspan]
          simp
        exact Or.inr (Or.inl ⟨d, rfl, Nat.le_of_not_lt hlong, rfl⟩)
      | some t =>
        have hshort : d < Span.seconds 360000000000 := by
          rw [← WireTimeout.isSome_ofSpan?_iff, hspan]
          rfl
        refine Or.inr (Or.inr ⟨by simp [hzero], ?_, _, rfl⟩)
        intro d' hd'
        exact Option.some.inj hd' ▸ hshort

namespace Call

variable {α : Type} (channel : Channel) (server : Server) (path : String) (message : List UInt8)
  (read : Nat → ServerReply → Except Status α) (number : Nat)

theorem run_of_isExpired (hexpired : settings.isExpired now = true) :
    ∃ s, s.isOk = false ∧
      run channel server settings path message read now number = some ⟨.error s, none, now⟩ := by
  obtain ⟨s, hs, hbuild⟩ := RequestHead.build_of_isExpired channel.headers hexpired
  exact ⟨s, hs, by rw [run, hbuild]⟩

/-- A call comes to something unless its deadline is too far away. -/
theorem isSome_run_iff (hvalid : settings.validate = .ok ())
    (hpath : (targetPath? path).isSome = true) :
    (run channel server settings path message read now number).isSome = true ↔
      ∀ d, settings.remaining now = some d → d < Span.seconds 360000000000 := by
  rcases RequestHead.build_cases channel.headers hvalid with
    ⟨hexpired, hbuild⟩ | ⟨d, hd, hlong, hbuild⟩ | ⟨_, hshort, head, hbuild⟩
  · rw [run, hbuild, settings.remaining_of_isExpired hexpired]
    simp [Span.seconds]
  · rw [run, hbuild, hd]
    simpa using hlong
  · obtain ⟨target, htarget⟩ := Option.isSome_iff_exists.mp hpath
    have hsome : (run channel server settings path message read now number).isSome = true := by
      rw [run, hbuild, htarget]
      cases server.refusal with
      | some reason => rfl
      | none =>
        dsimp only
        split
        · split <;> rfl
        · rfl
    exact iff_of_true hsome hshort

end Call

end ClusterTransport
