import ClusterTransport.Proofs.Transport.Rejection

/-!
# Steps of a call

To the transport a call is one of those that use channels and report how they ended. Calls of both
kinds are prepared in the same way, and come to an error or to a target in the same way.
-/

namespace ClusterTransport

section Steps

variable {ρ : Type} {t u : Transport} {v : Preparing.View}

theorem Preparing.transport_of_step {p q : Preparing} (h : p.step t v = some (u, q)) :
    u = { t with channels := u.channels } := by
  cases p with
  | begun =>
    simp only [step] at h
    split at h <;> cases h <;> rfl
  | waiting w =>
    cases w with
    | «until» deadline =>
      simp only [step] at h
      split at h <;> cases h
      rfl
    | «over» opened => cases opened <;> cases h <;> rfl
  | selecting =>
    simp only [step] at h
    split at h <;> cases h <;> rfl
  | connecting e g => cases g <;> cases h <;> rfl
  | done result => cases h
  | _ =>
    cases h
    rfl

/-- A step does nothing to the transport but use the channels or report an endpoint. -/
def Preparing.View.Uses (v : View) (t u : Transport) : Prop :=
  (∃ channels, u = { t with channels }) ∨ ∃ e s, u = t.report v.markTime e s

private theorem Preparing.View.Uses.refl (v : View) (t : Transport) : v.Uses t t :=
  Or.inl ⟨t.channels, rfl⟩

theorem UnaryCall.uses_of_step {m : Method ρ} {c d : UnaryCall ρ}
    (h : c.step t v m = some (u, d)) : v.Uses t u := by
  cases c with
  | preparing p =>
    rcases p.done_or_not with ⟨e, rfl⟩ | ⟨target, rfl⟩ | hp
    · cases h
      exact .refl v t
    · cases h
      exact .refl v t
    · rw [step_preparing hp] at h
      obtain ⟨⟨u', q⟩, hq, heq⟩ := Option.map_eq_some_iff.mp h
      cases heq
      exact Or.inl ⟨_, Preparing.transport_of_step hq⟩
  | invoking target =>
    cases h
    exact .refl v t
  | awaiting target since =>
    obtain ⟨answer, _, heq⟩ := Option.map_eq_some_iff.mp h
    cases heq
    exact .refl v t
  | reporting target answer =>
    cases answer with
    | ok r =>
      cases h
      exact .refl v t
    | error s =>
      cases h
      exact Or.inr ⟨target.endpoint, s, rfl⟩
  | done result => cases h

private theorem StreamCall.uses_of_stepPump {isCancelled : Bool} {target : CallTarget}
    {stream : ResponseStream ρ} {since : Instant} {p : Pump ρ} {d : StreamCall ρ}
    {event : Option (StreamEvent ρ)}
    (h : stepPump t v isCancelled target stream since p = some (u, d, event)) : v.Uses t u := by
  cases p with
  | checking =>
    cases h
    exact .refl v t
  | pulling =>
    simp only [stepPump] at h
    repeat' split at h
    all_goals
      cases h
      exact .refl v t
  | waiting =>
    simp only [stepPump] at h
    split at h <;> cases h
    exact .refl v t
  | reporting s =>
    cases h
    exact Or.inr ⟨target.endpoint, s, rfl⟩
  | delivering item => cases item <;> cases h <;> exact .refl v t

theorem StreamCall.error_of_stepPump {isCancelled : Bool} {target : CallTarget}
    {stream : ResponseStream ρ} {since : Instant} {p : Pump ρ} {d : StreamCall ρ}
    {event : Option (StreamEvent ρ)} {e : Error}
    (h : stepPump t v isCancelled target stream since p = some (u, d, event))
    (hevent : event = some (.error e)) : ∃ s, e = .rpc s := by
  subst hevent
  cases p with
  | pulling =>
    simp only [stepPump] at h
    repeat' split at h
    all_goals cases h
  | waiting =>
    simp only [stepPump] at h
    split at h <;> cases h
  | delivering item =>
    cases item with
    | failure s =>
      cases h
      exact ⟨s, rfl⟩
    | _ => cases h
  | _ => cases h

theorem StreamCall.uses_of_step {m : Method (ResponseStream ρ)} {isCancelled : Bool}
    {c d : StreamCall ρ} {event : Option (StreamEvent ρ)}
    (h : c.step t v m isCancelled = some (u, d, event)) : v.Uses t u := by
  cases c with
  | preparing p =>
    rcases p.done_or_not with ⟨e, rfl⟩ | ⟨target, rfl⟩ | hp
    · cases h
      exact .refl v t
    · cases h
      exact .refl v t
    · rw [step_preparing hp] at h
      obtain ⟨⟨u', q⟩, hq, heq⟩ := Option.map_eq_some_iff.mp h
      cases heq
      exact Or.inl ⟨_, Preparing.transport_of_step hq⟩
  | opening target since =>
    obtain ⟨answer, _, heq⟩ := Option.map_eq_some_iff.mp h
    cases answer <;> cases heq <;> exact .refl v t
  | rejected target s =>
    cases h
    exact Or.inr ⟨target.endpoint, s, rfl⟩
  | pumping target stream since p => exact uses_of_stepPump h
  | ended => cases h
  | _ =>
    cases h
    exact .refl v t

theorem Caller.uses_of_step {isCancelled : Bool} {c d : Caller ρ}
    {event : Option (StreamEvent ρ)} (h : c.step t v isCancelled = some (u, d, event)) :
    v.Uses t u := by
  cases c with
  | unary m c =>
    obtain ⟨⟨u', c'⟩, hstep, heq⟩ := Option.map_eq_some_iff.mp h
    cases heq
    exact UnaryCall.uses_of_step hstep
  | stream m c =>
    obtain ⟨⟨u', c', event'⟩, hstep, heq⟩ := Option.map_eq_some_iff.mp h
    cases heq
    exact StreamCall.uses_of_step hstep

end Steps

private theorem Phase.Next.settled_of_settled {ρ : Type} {m : AnyMethod ρ} {v : Preparing.View}
    {p q : EndpointPool} {phase next : Phase} (h : Next m v p phase q next)
    (hsettled : phase = settled) : next = settled := by
  cases h with
  | resting => rfl
  | _ => cases hsettled

variable {ρ : Type}

namespace AnyMethod

def preparing (p : Preparing) : AnyMethod ρ → Caller ρ
  | unary m => .unary m (.preparing p)
  | stream m => .stream m (.preparing p)

def failing (e : Error) : AnyMethod ρ → Caller ρ
  | unary m => .unary m (.done (.error e))
  | stream m => .stream m (.failing e)

def invoking (target : CallTarget) (now : Instant) : AnyMethod ρ → Caller ρ
  | unary m => .unary m (.invoking target)
  | stream m => .stream m (.opening target now)

end AnyMethod

namespace Caller

variable {t u : Transport} {v : Preparing.View} {isCancelled : Bool} {c d : Caller ρ}
  {event : Option (StreamEvent ρ)}

def preparing? : Caller ρ → Option Preparing
  | unary _ (.preparing p) => some p
  | stream _ (.preparing p) => some p
  | _ => none

theorem preparing?_eq_some_iff {p : Preparing} :
    c.preparing? = some p ↔ c = c.method.preparing p := by
  cases c with
  | unary m c => cases c <;> simp [preparing?, method, AnyMethod.preparing]
  | stream m c => cases c <;> simp [preparing?, method, AnyMethod.preparing]

theorem preparing?_preparing (m : AnyMethod ρ) (p : Preparing) :
    (m.preparing p).preparing? = some p := by
  cases m <;> rfl

theorem step_preparing (m : AnyMethod ρ) {p : Preparing} (hp : ∀ result, p ≠ .done result) :
    (m.preparing p).step t v isCancelled =
      (p.step t v).map fun r => (r.1, m.preparing r.2, none) := by
  cases m with
  | unary m =>
    simp only [AnyMethod.preparing, step, UnaryCall.step_preparing hp, Option.map_map]
    rfl
  | stream m =>
    simp only [AnyMethod.preparing, step, StreamCall.step_preparing hp, Option.map_map]
    rfl

theorem step_of_preparing (m : AnyMethod ρ) {p q : Preparing} (h : p.step t v = some (u, q))
    (isCancelled : Bool) :
    (m.preparing p).step t v isCancelled = some (u, m.preparing q, none) := by
  rw [step_preparing m (Preparing.ne_done_of_step h), h]
  rfl

private theorem step_failing (m : AnyMethod ρ) (e : Error) :
    (m.preparing (.done (.error e))).step t v isCancelled = some (t, m.failing e, none) := by
  cases m <;> rfl

private theorem step_invoking (m : AnyMethod ρ) (target : CallTarget) :
    (m.preparing (.done (.ok target))).step t v isCancelled =
      some (t, m.invoking target v.now, none) := by
  cases m <;> rfl

/-- The step of a call is one of its preparation, or the preparation is over. -/
theorem step_cases (h : c.step t v isCancelled = some (u, d, event)) :
    (∃ p q, c = c.method.preparing p ∧ p.step t v = some (u, q) ∧
      d = c.method.preparing q ∧ event = none) ∨
    (∃ e, c = c.method.preparing (.done (.error e)) ∧ u = t ∧ d = c.method.failing e ∧
      event = none) ∨
    (∃ target, c = c.method.preparing (.done (.ok target)) ∧ u = t ∧
      d = c.method.invoking target v.now ∧ event = none) ∨
    (c.preparing? = none ∧ d.preparing? = none) := by
  cases hprepares : c.preparing? with
  | some p =>
    have hc := preparing?_eq_some_iff.mp hprepares
    rcases p.done_or_not with ⟨e, rfl⟩ | ⟨target, rfl⟩ | hp
    · rw [hc, step_failing] at h
      cases h
      exact Or.inr (Or.inl ⟨e, hc, rfl, rfl, rfl⟩)
    · rw [hc, step_invoking] at h
      cases h
      exact Or.inr (Or.inr (Or.inl ⟨target, hc, rfl, rfl, rfl⟩))
    · rw [hc, step_preparing _ hp] at h
      obtain ⟨⟨u', q⟩, hq, heq⟩ := Option.map_eq_some_iff.mp h
      cases heq
      exact Or.inl ⟨p, q, hc, hq, rfl, rfl⟩
  | none =>
    -- no step leads back to the preparation
    refine Or.inr (Or.inr (Or.inr ⟨rfl, ?_⟩))
    cases c with
    | unary m c =>
      obtain ⟨⟨u', c'⟩, hstep, heq⟩ := Option.map_eq_some_iff.mp h
      cases heq
      cases c with
      | preparing p => cases hprepares
      | invoking target =>
        cases hstep
        rfl
      | awaiting target since =>
        obtain ⟨answer, _, heq⟩ := Option.map_eq_some_iff.mp hstep
        cases heq
        rfl
      | reporting target answer => cases answer <;> cases hstep <;> rfl
      | done result => cases hstep
    | stream m c =>
      obtain ⟨⟨u', c', event'⟩, hstep, heq⟩ := Option.map_eq_some_iff.mp h
      cases heq
      cases c with
      | preparing p => cases hprepares
      | opening target since =>
        obtain ⟨answer, _, heq⟩ := Option.map_eq_some_iff.mp hstep
        cases answer <;> cases heq <;> rfl
      | pumping target stream since p =>
        rcases StreamCall.next_of_stepPump hstep with ⟨_, _, _, _, rfl⟩ | ⟨_, rfl⟩ <;> rfl
      | ended => cases hstep
      | _ =>
        cases hstep
        rfl

theorem preparing_of_step {q : Preparing} (h : c.step t v isCancelled = some (u, d, event))
    (hq : d.preparing? = some q) :
    ∃ p, c.preparing? = some p ∧ p.step t v = some (u, q) ∧ event = none := by
  rcases step_cases h with ⟨p, q', hp, hstep, rfl, hevent⟩ | ⟨e, _, _, rfl, _⟩ |
    ⟨target, _, _, rfl, _⟩ | ⟨_, hnone⟩
  · rw [preparing?_preparing] at hq
    cases hq
    exact ⟨p, preparing?_eq_some_iff.mpr hp, hstep, hevent⟩
  · cases hm : c.method <;> rw [hm] at hq <;> cases hq
  · cases hm : c.method <;> rw [hm] at hq <;> cases hq
  · cases hnone.symm.trans hq

/-- Whether the preparation has come past something, or it has come to a target. -/
def isPast (past : Preparing → Bool) (c : Caller ρ) : Bool :=
  match c.preparing? with
  | some p => past p
  | none => c.phase ≠ .settled

theorem isPast_preparing (past : Preparing → Bool) (m : AnyMethod ρ) (p : Preparing) :
    (m.preparing p).isPast past = past p := by
  cases m <;> rfl

theorem invoked?_of_preparing? {p : Preparing} (h : c.preparing? = some p) :
    c.phase.invoked? = none := by
  rw [preparing?_eq_some_iff.mp h]
  cases c.method <;> rfl

theorem isPast_of_invoked (past : Preparing → Bool) (h : c.phase.invoked? ≠ none) :
    c.isPast past = true := by
  cases c with
  | unary m c =>
    cases c with
    | awaiting target since => rfl
    | reporting target answer => cases answer <;> exact absurd rfl h
    | _ => exact absurd rfl h
  | stream m c =>
    cases c with
    | opening target since => rfl
    | _ => exact absurd rfl h

theorem isPast_of_step {past : Preparing → Bool} (passing : Preparing → Prop)
    (hok : ∀ target, past (.done (.ok target)) = true)
    (hpass : ∀ p q, p.step t v = some (u, q) → past q = true → past p = true ∨ passing p)
    (h : c.step t v isCancelled = some (u, d, event)) (hd : d.isPast past = true) :
    c.isPast past = true ∨ ∃ p, c.preparing? = some p ∧ passing p := by
  rcases step_cases h with ⟨p, q, hp, hstep, rfl, _⟩ | ⟨e, _, _, rfl, _⟩ | ⟨target, hp, _⟩ |
    ⟨hnone, hnone'⟩
  · rw [isPast_preparing] at hd
    rw [hp, isPast_preparing, preparing?_preparing]
    exact (hpass p q hstep hd).imp_right fun hpassing => ⟨p, rfl, hpassing⟩
  · cases hm : c.method <;> rw [hm] at hd <;> cases hd
  · rw [hp, isPast_preparing]
    exact Or.inl (hok target)
  · left
    simp only [isPast, hnone, hnone', decide_eq_true_eq] at hd ⊢
    intro hsettled
    exact hd ((next_of_step h).2.settled_of_settled hsettled)

/-- The call has come to an error, of which this much was told, and takes so many steps at most
until it is over. -/
inductive Failing (e : Error) : AnyMethod ρ → Nat → Caller ρ → List (StreamEvent ρ) → Prop where
  | failed (m : AnyMethod ρ) : Failing e m 3 (m.preparing (.done (.error e))) []
  | failing (m : AnyMethod ρ) : Failing e m 2 (m.failing e) []
  | returning (m : Method (ResponseStream ρ)) :
      Failing e (.stream m) 1 (.stream m .returning) [.error e]
  | ended (m : Method (ResponseStream ρ)) :
      Failing e (.stream m) 0 (.stream m .ended) [.error e, .control true]

section Failing

variable {e : Error} {m : AnyMethod ρ} {n : Nat} {told : List (StreamEvent ρ)}

theorem Failing.step (h : Failing e m n c told) (t : Transport) (v : Preparing.View)
    (isCancelled : Bool) (hover : c.isOver = false) :
    ∃ d event n', c.step t v isCancelled = some (t, d, event) ∧
      Failing e m n' d (told ++ event.toList) ∧ n' < n := by
  cases h with
  | failed m =>
    exact ⟨_, _, 2, step_failing m e, .failing m, Nat.lt_succ_self 2⟩
  | failing m =>
    cases m with
    | unary m => cases hover
    | stream m => exact ⟨_, _, 1, rfl, .returning m, Nat.lt_succ_self 1⟩
  | returning m => exact ⟨_, _, 0, rfl, .ended m, Nat.lt_succ_self 0⟩
  | ended m => cases hover

theorem Failing.invoked?_eq_none (h : Failing e m n c told) : c.phase.invoked? = none := by
  cases h with
  | failed m => cases m <;> rfl
  | failing m => cases m <;> rfl
  | _ => rfl

theorem Failing.eq_refusal (h : Failing e m n c told) (hover : c.isOver = true) :
    (c, told) = m.refusal e := by
  cases h with
  | failed m => cases m <;> cases hover
  | failing m =>
    cases m with
    | unary m => rfl
    | stream m => cases hover
  | returning m => cases hover
  | ended m => rfl

end Failing

end Caller

namespace Transport.Calling

variable {s t : Calling ρ}

theorem activity_of_move {m : Move} (h : s.move m = some t) :
    ∃ m', s.activity.move m' = some t.activity := by
  cases m with
  | others m =>
    obtain ⟨a, ha, rfl⟩ := Option.map_eq_some_iff.mp h
    exact ⟨m, ha⟩
  | step v isCancelled =>
    obtain ⟨⟨u, d, event⟩, hstep, rfl⟩ := Option.map_eq_some_iff.mp h
    rcases Caller.uses_of_step hstep with ⟨channels, rfl⟩ | ⟨e, status, rfl⟩
    · exact ⟨.useChannels channels, rfl⟩
    · exact ⟨.report v.markTime e status, rfl⟩

end Transport.Calling

end ClusterTransport
