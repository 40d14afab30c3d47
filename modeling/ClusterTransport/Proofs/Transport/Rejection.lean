import ClusterTransport.Proofs.Transport.Calling

/-!
# Calls after a shutdown

Once a shutdown is over, a call that begins is turned away before it does anything to the transport.
The settings are checked first, so a call whose trace identifier cannot be sent is told of that.
-/

namespace ClusterTransport

/-- Why a call with these settings is turned away once the transport is shut down. -/
def CallSettings.rejection (s : CallSettings) : Error :=
  match s.validate with
  | .ok () => .shuttingDown
  | .error fault => fault

private theorem CallSettings.rejection_eq_shuttingDown_iff (s : CallSettings) :
    s.rejection = .shuttingDown ↔ s.validate = .ok () := by
  unfold rejection validate
  cases s.traceId with
  | none => exact iff_of_true rfl rfl
  | some id => by_cases h : Headers.isValue id = true <;> simp [h]

theorem Adopting.isShutdown_step (now : Instant) (t : Transport) (o : Adopting) :
    (o.step now t).1.isShutdown = t.isShutdown := by
  cases o with
  | removing o => cases o <;> rfl
  | pruning o => cases o <;> rfl
  | _ => rfl

theorem ShuttingDown.isShutdown_of_step {t u : Transport} {d next : ShuttingDown}
    (h : d.step t = some (u, next)) :
    u.isShutdown = true ∨ (d ≠ .begun ∧ u.isShutdown = t.isShutdown) := by
  cases d with
  | begun =>
    simp only [step] at h
    split at h
    next hflag =>
      cases h
      exact Or.inl hflag
    next =>
      cases h
      exact Or.inl rfl
  | stoppingDiscovery o =>
    refine Or.inr ⟨by simp, ?_⟩
    by_cases ho : o = .done
    · subst ho
      cases h
      rfl
    · rw [step_stoppingDiscovery ho] at h
      obtain ⟨r, _, heq⟩ := Option.map_eq_some_iff.mp h
      cases heq
      rfl
  | closingGate =>
    cases h
    exact Or.inr ⟨by simp, rfl⟩
  | closingChannels o => cases o <;> cases h <;> exact Or.inr ⟨by simp, rfl⟩
  | done => cases h

namespace Transport.Activity

variable {s t : Activity} {m : Move}

theorem isShutdown_of_move (h : s.move m = some t) (hflag : s.transport.isShutdown = true) :
    t.transport.isShutdown = true := by
  cases m with
  | stepLoop i v =>
    obtain ⟨r, _, rfl⟩ := Option.map_eq_some_iff.mp h
    exact hflag
  | stepHandler i now =>
    cases h
    exact (Adopting.isShutdown_step now s.transport (s.handlers i)).trans hflag
  | stepShutdown j =>
    obtain ⟨d, _, hmap⟩ := Option.bind_eq_some_iff.mp h
    obtain ⟨⟨u, next⟩, hstep, rfl⟩ := Option.map_eq_some_iff.mp hmap
    rcases ShuttingDown.isShutdown_of_step hstep with hset | ⟨_, hsame⟩
    · exact hset
    · exact hsame.trans hflag
  | report now e status =>
    cases h
    dsimp only [Transport.report]
    split <;> exact hflag
  | _ =>
    cases h
    exact hflag

/-- A shutdown that has taken a step has marked the transport. -/
def Flagged (s : Activity) : Prop :=
  ∀ d ∈ s.shutdowns, d = .begun ∨ s.transport.isShutdown = true

theorem Flagged.isShutdown_of_stepShutdown (h : s.Flagged) {j : Nat}
    (hm : s.move (.stepShutdown j) = some t) : t.transport.isShutdown = true := by
  have hmono := isShutdown_of_move hm
  obtain ⟨d, hd, hmap⟩ := Option.bind_eq_some_iff.mp hm
  obtain ⟨⟨u, next⟩, hstep, rfl⟩ := Option.map_eq_some_iff.mp hmap
  rcases ShuttingDown.isShutdown_of_step hstep with hset | ⟨hpast, _⟩
  · exact hset
  · exact hmono ((h d (List.mem_of_getElem? hd)).resolve_left hpast)

theorem Flagged.move (h : s.Flagged) (hm : s.move m = some t) : t.Flagged := by
  have hmono := isShutdown_of_move hm
  cases m with
  | beginShutdown =>
    cases hm
    intro d hd
    rcases List.mem_append.mp hd with hold | hnew
    · exact h d hold
    · exact Or.inl (List.mem_singleton.mp hnew)
  | stepShutdown j =>
    have hflag := h.isShutdown_of_stepShutdown hm
    exact fun _ _ => Or.inr hflag
  | stepLoop i v =>
    obtain ⟨r, _, rfl⟩ := Option.map_eq_some_iff.mp hm
    exact fun d hd => (h d hd).imp_right hmono
  | _ =>
    cases hm
    exact fun d hd => (h d hd).imp_right hmono

private theorem isShutdown_of_done {transport : Transport} {ms : List Move}
    (hrun : run { transport } ms = some s) (hdone : .done ∈ s.shutdowns) :
    s.transport.isShutdown = true := by
  have hflagged : s.Flagged :=
    foldlM_invariant Flagged (fun _ _ _ hs hm => hs.move hm) (by simp [Flagged]) hrun
  exact (hflagged .done hdone).resolve_left (by simp)

end Transport.Activity

def Preparing.IsRefused (settings : CallSettings) : Preparing → Prop
  | begun => True
  | entering => settings.validate = .ok ()
  | done result => result = .error settings.rejection
  | _ => False

def Preparing.left : Preparing → Nat
  | begun => 2
  | entering => 1
  | _ => 0

variable {ρ : Type} {t : Transport} {v : Preparing.View}

theorem Preparing.IsRefused.step {p : Preparing} (h : p.IsRefused v.settings)
    (hflag : t.isShutdown = true) :
    p = .done (.error v.settings.rejection) ∨
      ∃ q, p.step t v = some (t, q) ∧ q.IsRefused v.settings ∧ q.left < p.left := by
  cases p with
  | begun =>
    refine Or.inr ?_
    cases hvalid : v.settings.validate with
    | ok _ =>
      exact ⟨.entering, by rw [Preparing.step, hvalid], hvalid, Nat.lt_succ_self 1⟩
    | error fault =>
      have hwhy : v.settings.rejection = fault := by rw [CallSettings.rejection, hvalid]
      refine ⟨.done (.error fault), by rw [Preparing.step, hvalid], ?_, Nat.zero_lt_two⟩
      exact congrArg Except.error hwhy.symm
  | entering =>
    have hwhy : v.settings.rejection = .shuttingDown := by
      rw [CallSettings.rejection, show v.settings.validate = .ok () from h]
    refine Or.inr ⟨.done (.error .shuttingDown), ?_, ?_, Nat.zero_lt_one⟩
    · simp only [Preparing.step, hflag, if_true]
    · exact congrArg Except.error hwhy.symm
  | done result => exact Or.inl (congrArg Preparing.done h)
  | _ => exact h.elim

/-- A call of the method that was turned away, with what the caller of a stream was told: the
reason, and then a control of nothing. -/
def AnyMethod.refusal (e : Error) : AnyMethod ρ → Caller ρ × List (StreamEvent ρ)
  | unary m => (.unary m (.done (.error e)), [])
  | stream m => (.stream m .ended, [.error e, .control true])

namespace Caller

/-- What was told so far to the caller of a call that is turned away. -/
def IsRefused (settings : CallSettings) (told : List (StreamEvent ρ)) : Caller ρ → Prop
  | unary _ (.preparing p) => p.IsRefused settings ∧ told = []
  | unary _ (.done result) => result = .error settings.rejection ∧ told = []
  | stream _ (.preparing p) => p.IsRefused settings ∧ told = []
  | stream _ (.failing e) => e = settings.rejection ∧ told = []
  | stream _ .returning => told = [.error settings.rejection]
  | stream _ .ended => told = [.error settings.rejection, .control true]
  | _ => False

def left : Caller ρ → Nat
  | unary _ (.preparing p) => p.left + 1
  | stream _ (.preparing p) => p.left + 3
  | stream _ (.failing _) => 2
  | stream _ .returning => 1
  | _ => 0

theorem IsRefused.step {c : Caller ρ} {told : List (StreamEvent ρ)} (v : Preparing.View)
    (isCancelled : Bool) (h : c.IsRefused v.settings told) (hflag : t.isShutdown = true)
    (hover : c.isOver = false) :
    ∃ d event, c.step t v isCancelled = some (t, d, event) ∧
      d.IsRefused v.settings (told ++ event.toList) ∧ d.left < c.left ∧
      d.phase.invoked? = none := by
  cases c with
  | unary m c =>
    cases c with
    | preparing p =>
      obtain ⟨hp, rfl⟩ := h
      rcases hp.step hflag with rfl | ⟨q, hq, hrefused, hleft⟩
      · exact ⟨_, none, rfl, ⟨rfl, rfl⟩, Nat.lt_succ_self 0, rfl⟩
      · refine ⟨.unary m (.preparing q), none, ?_, ⟨hrefused, rfl⟩, Nat.succ_lt_succ hleft, rfl⟩
        rw [Caller.step, UnaryCall.step_preparing (Preparing.ne_done_of_step hq), hq]
        rfl
    | done result => cases hover
    | _ => exact h.elim
  | stream m c =>
    cases c with
    | preparing p =>
      obtain ⟨hp, rfl⟩ := h
      rcases hp.step hflag with rfl | ⟨q, hq, hrefused, hleft⟩
      · exact ⟨_, none, rfl, ⟨rfl, rfl⟩, Nat.lt_succ_self 2, rfl⟩
      · refine ⟨.stream m (.preparing q), none, ?_, ⟨hrefused, rfl⟩,
          Nat.add_lt_add_right hleft 3, rfl⟩
        rw [Caller.step, StreamCall.step_preparing (Preparing.ne_done_of_step hq), hq]
        rfl
    | failing e =>
      obtain ⟨rfl, rfl⟩ := h
      exact ⟨_, some (.error v.settings.rejection), rfl, rfl, Nat.lt_succ_self 1, rfl⟩
    | returning =>
      obtain rfl := h
      exact ⟨_, some (.control true), rfl, rfl, Nat.lt_succ_self 0, rfl⟩
    | ended => cases hover
    | _ => exact h.elim

private theorem IsRefused.told_of_isOver {c : Caller ρ} {m : AnyMethod ρ} {settings : CallSettings}
    {told : List (StreamEvent ρ)} (h : c.IsRefused settings told) (hm : c.method = m)
    (hover : c.isOver = true) :
    (c, told) = m.refusal settings.rejection := by
  subst hm
  cases c with
  | unary m c =>
    cases c with
    | done result =>
      obtain ⟨rfl, rfl⟩ := h
      rfl
    | _ => cases hover
  | stream m c =>
    cases c with
    | ended => exact congrArg _ h
    | _ => cases hover

end Caller

namespace Transport.Calling

variable {settings : CallSettings} {m : AnyMethod ρ} {s t : Calling ρ} {ms : List Move}

/-- A call that is turned away has not touched the endpoints. -/
structure Refused (settings : CallSettings) (m : AnyMethod ρ) (s : Calling ρ) : Prop where
  isShutdown : s.activity.transport.isShutdown = true
  settings_eq : s.settings = settings
  method_eq : s.caller.method = m
  caller : s.caller.IsRefused settings s.told
  invoked : s.invoked = none
  without : s.without = s.endpoints

theorem refused_start {a : Activity} (hflag : a.transport.isShutdown = true) :
    (start a settings m).Refused settings m := by
  cases m with
  | unary m => exact ⟨hflag, rfl, rfl, ⟨trivial, rfl⟩, rfl, rfl⟩
  | stream m => exact ⟨hflag, rfl, rfl, ⟨trivial, rfl⟩, rfl, rfl⟩

private theorem Refused.others {m' : Activity.Move} (h : s.Refused settings m)
    (hm : s.move (.others m') = some t) : t.Refused settings m ∧ t.caller.left = s.caller.left := by
  obtain ⟨a, ha, rfl⟩ := Option.map_eq_some_iff.mp hm
  refine ⟨⟨Activity.isShutdown_of_move ha h.isShutdown, h.settings_eq, h.method_eq, h.caller,
    h.invoked, ?_⟩, rfl⟩
  have hsame := h.without
  simp only [endpoints] at hsame ⊢
  rw [Activity.endpoints_of_move ha, hsame]

theorem Refused.step (h : s.Refused settings m) (hover : s.caller.isOver = false)
    (v : Preparing.View) (isCancelled : Bool) :
    ∃ t, s.move (.step v isCancelled) = some t ∧ t.activity = s.activity ∧
      t.Refused settings m ∧ t.caller.left < s.caller.left := by
  have hcaller := h.caller
  rw [← h.settings_eq] at hcaller
  obtain ⟨d, event, hstep, hrefused, hleft, hinvoked⟩ :=
    Caller.IsRefused.step { v with settings := s.settings } isCancelled hcaller h.isShutdown hover
  refine ⟨_, Option.map_eq_some_iff.mpr ⟨_, hstep, rfl⟩, rfl, ?_, hleft⟩
  have hmethod : d.method = m := (Caller.next_of_step hstep).1.trans h.method_eq
  refine ⟨h.isShutdown, h.settings_eq, hmethod, h.settings_eq ▸ hrefused, ?_, h.without⟩
  simp only [hinvoked, h.invoked, Option.or_none]

theorem Refused.run (h : s.Refused settings m) (hrun : s.run ms = some t) :
    t.Refused settings m ∧ ms.countP Move.isStep + t.caller.left ≤ s.caller.left := by
  induction ms generalizing s with
  | nil =>
    cases hrun
    exact ⟨h, by simp⟩
  | cons move ms ih =>
    obtain ⟨u, hu, hrest⟩ := exists_move_of_foldlM_cons hrun
    cases move with
    | others m' =>
      obtain ⟨hnext, hsame⟩ := h.others hu
      obtain ⟨hlast, hcount⟩ := ih hnext hrest
      refine ⟨hlast, ?_⟩
      rw [List.countP_cons_of_neg (by simp [Move.isStep]), ← hsame]
      exact hcount
    | step v isCancelled =>
      obtain ⟨r, hr, _⟩ := Option.map_eq_some_iff.mp hu
      have hover := Caller.isOver_of_step hr
      obtain ⟨u', hu', _, hnext, hleft⟩ := h.step hover v isCancelled
      cases hu.symm.trans hu'
      obtain ⟨hlast, hcount⟩ := ih hnext hrest
      refine ⟨hlast, ?_⟩
      rw [List.countP_cons_of_pos rfl]
      omega

/-- A call that begins after a shutdown is turned away, whatever else goes on: within five steps of
its own, none of which waits or touches the transport. -/
theorem calls_refused_after_shutdown {transport : Transport} {before : List Activity.Move}
    {a : Activity} (hbefore : Activity.run { transport } before = some a)
    (hdone : .done ∈ a.shutdowns) (settings : CallSettings) (m : AnyMethod ρ) {ms : List Move}
    {t : Calling ρ} (hrun : (start a settings m).run ms = some t) :
    ms.countP Move.isStep ≤ 5 ∧
    (t.caller.isOver = false → ∀ v isCancelled, ∃ u,
      t.move (.step v isCancelled) = some u ∧ u.activity = t.activity) ∧
    t.invoked = none ∧ t.endpoints = t.without ∧
    (t.caller.isOver = true → (t.caller, t.told) = m.refusal settings.rejection) ∧
    (settings.rejection = .shuttingDown ↔ settings.validate = .ok ()) := by
  have hflag := Activity.isShutdown_of_done hbefore hdone
  obtain ⟨ht, hcount⟩ := (refused_start hflag).run hrun
  have hfive : (start a settings m).caller.left ≤ 5 := by
    cases m with
    | unary m => exact (by decide : 3 ≤ 5)
    | stream m => exact (by decide : 5 ≤ 5)
  refine ⟨by omega, ?_, ht.invoked, ht.without.symm, ?_, settings.rejection_eq_shuttingDown_iff⟩
  · intro hover v isCancelled
    obtain ⟨u, hu, hsame, _⟩ := ht.step hover v isCancelled
    exact ⟨u, hu, hsame⟩
  · exact ht.caller.told_of_isOver ht.method_eq

/-- A stream that is asked for after a shutdown. -/
theorem calls_refused_after_shutdown_of_stream :
    let before : List Activity.Move := .beginShutdown :: List.replicate 11 (.stepShutdown 0)
    let m : AnyMethod String := .stream fun _ _ => none
    let v : Preparing.View :=
      { settings := {}, reach := fun _ => none, words := { next := fun _ => 0 }, now := 0,
        markTime := 0 }
    ∃ transport a t, Transport.start {} true = .ok transport ∧
      Activity.run { transport } before = some a ∧
      (start a {} m).run (List.replicate 5 (.step v false)) = some t ∧
      t.told = [.error .shuttingDown, .control true] := by
  intro before m v
  have hcall : ∃ transport a t, Transport.start {} true = .ok transport ∧
      Activity.run { transport } before = some a ∧ .done ∈ a.shutdowns ∧
      (start a {} m).run (List.replicate 5 (.step v false)) = some t ∧ t.caller.isOver = true :=
    ⟨_, _, _, rfl, rfl, .head _, rfl, rfl⟩
  obtain ⟨transport, a, t, hstart, hbefore, hdone, hrun, hover⟩ := hcall
  obtain ⟨_, _, _, _, hrefused, hwhy⟩ := calls_refused_after_shutdown hbefore hdone {} m hrun
  have htold := congrArg Prod.snd (hrefused hover)
  rw [hwhy.mpr rfl] at htold
  exact ⟨transport, a, t, hstart, hbefore, hrun, htold⟩

/-- After a shutdown, a call with a trace identifier that cannot be sent is not told that the
transport is shut down. -/
theorem call_after_shutdown_with_bad_trace_id :
    let before : List Activity.Move := .beginShutdown :: List.replicate 11 (.stepShutdown 0)
    let settings : CallSettings := { traceId := some "bad\nid" }
    let m : Method String := fun _ _ => none
    let v : Preparing.View :=
      { settings, reach := fun _ => none, words := { next := fun _ => 0 }, now := 0, markTime := 0 }
    ∃ transport a t, Transport.start {} true = .ok transport ∧
      Activity.run { transport } before = some a ∧ .done ∈ a.shutdowns ∧
      (start a settings (.unary m)).run [.step v false, .step v false] = some t ∧
      t.caller = .unary m (.done (.error (.configuration (.traceId "bad\nid")))) :=
  ⟨_, _, _, rfl, rfl, .head _, rfl, rfl⟩

end Transport.Calling

end ClusterTransport
