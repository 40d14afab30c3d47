import ClusterTransport.Proofs.ChannelPool.Traffic

/-!
# Accounting for connections

Every connection that was opened is in one place: it is filed, or an operation has taken it out and
is to close it, or it was closed. So none is closed twice.
-/

namespace ClusterTransport.ChannelPool

def Call.holds (n : Nat) (c : Call) : Bool :=
  c.inHand.any (hasSerial n)

/-- The numbers of connections are used once, and not before their turn. -/
def Numbered (p : ChannelPool) : Prop :=
  ∀ n, p.timesOpened n ≤ 1 ∧ (p.opened < n → p.timesOpened n = 0)

theorem Numbered.file {p : ChannelPool} (h : p.Numbered) (e : Endpoint) :
    (p.file e).Numbered := by
  intro n
  obtain ⟨hle, hlater⟩ := h n
  have hopened : (p.file e).opened = p.opened + 1 := rfl
  rw [timesOpened_file, hopened]
  by_cases hn : p.opened + 1 = n
  · have hzero := hlater (by omega)
    simp only [hn, decide_true, Bool.toNat_true]
    omega
  · simp only [hn, decide_false, Bool.toNat_false]
    omega

variable {p q : ChannelPool} {w : Power} {before after : Option (Endpoint × Connection)}

theorem Effect.numbered (h : Effect p w before q after) (hp : p.Numbered) : q.Numbered := by
  cases h with
  | nothing => exact hp
  | filing e _ => exact hp.file e
  | taking e r _ => exact hp
  | closing r =>
    intro n
    rw [timesOpened_close]
    exact hp n
  | flagging => exact hp

theorem Effect.distinct (h : Effect p w before q after) (hp : p.Distinct) : q.Distinct := by
  cases h with
  | nothing => exact hp
  | filing e hnone => exact hp.file hnone
  | taking e r _ => exact hp.evict e
  | closing r => exact hp
  | flagging => exact hp

/-- What a step adds to the openings it adds to the places where a connection can be. -/
theorem Effect.balance (h : Effect p w before q after) (n : Nat) :
    p.timesOpened n + (q.timesFiled n + q.timesClosed n + (after.any (hasSerial n)).toNat) =
      q.timesOpened n + (p.timesFiled n + p.timesClosed n + (before.any (hasSerial n)).toNat) := by
  cases h with
  | nothing => rfl
  | filing e _ =>
    simp only [timesOpened_file, timesFiled_file, timesClosed_file]
    omega
  | taking e r hfind =>
    have hfiled := timesFiled_evict n hfind
    simp only [timesOpened_evict, timesClosed_evict, Option.any_some, Option.any_none,
      Bool.toNat_false]
    omega
  | closing r =>
    simp only [timesOpened_close, timesFiled_close, timesClosed_close, Option.any_some,
      Option.any_none, Bool.toNat_false]
    omega
  | flagging => rfl

/-- Every connection is in one place. -/
structure Traffic.Accounted (s : Traffic) : Prop where
  distinct : s.pool.Distinct
  numbered : s.pool.Numbered
  balance : ∀ n, s.pool.timesOpened n =
    s.pool.timesFiled n + s.pool.timesClosed n + s.calls.countP (Call.holds n)

namespace Traffic

theorem accounted_empty : Accounted {} where
  distinct := List.Pairwise.nil
  numbered := fun _ => ⟨Nat.zero_le 1, fun _ => rfl⟩
  balance := fun _ => rfl

variable {s t : Traffic}

theorem Accounted.begin (h : s.Accounted) (r : Request) :
    Accounted { s with calls := s.calls ++ [r.call] } where
  distinct := h.distinct
  numbered := h.numbered
  balance := by
    intro n
    have hr : Call.holds n r.call = false := by simp [Call.holds]
    simp only [List.countP_append, List.countP_singleton, hr]
    exact h.balance n

theorem Accounted.step (h : s.Accounted) {i : Nat} {c : Call} {reach : Reach}
    (hc : s.calls[i]? = some c) (hpool : t.pool = (c.step reach s.pool).1)
    (hcalls : t.calls = s.calls.set i (c.step reach s.pool).2) : t.Accounted := by
  have heffect := c.step_effect reach s.pool
  rw [← hpool] at heffect
  refine ⟨heffect.distinct h.distinct, heffect.numbered h.numbered, ?_⟩
  intro n
  have hstep := heffect.balance n
  have hcount := countP_set_add (Call.holds n) (c.step reach s.pool).2 hc
  have hbefore := h.balance n
  rw [hcalls]
  simp only [Call.holds] at hcount hbefore ⊢
  omega

theorem Accounted.drift (h : s.Accounted) {i : Nat} {c d : Call} (hc : s.calls[i]? = some c)
    (hd : Call.Drifts s.pool c d) : Accounted { s with calls := s.calls.set i d } where
  distinct := h.distinct
  numbered := h.numbered
  balance := by
    intro n
    have hsame : Call.holds n c = Call.holds n d := by rw [Call.holds, hd.inHand_eq, Call.holds]
    have hcount := countP_set_add (Call.holds n) d hc
    have hbefore := h.balance n
    dsimp only
    rw [hsame] at hcount
    omega

theorem Accounted.move {m : Move} (h : s.Accounted) (hm : s.move m = some t) : t.Accounted := by
  rcases move_cases hm with ⟨r, rfl⟩ | ⟨i, c, reach, hc, hpool, hcalls, _⟩ | ⟨i, c, d, hc, hd, rfl⟩
  · exact h.begin r
  · exact h.step hc hpool hcalls
  · exact h.drift hc hd

theorem Accounted.run {ms : List Move} (h : s.Accounted)
    (hrun : s.run ms = some t) : t.Accounted :=
  foldlM_invariant Accounted (fun _ _ _ hs hm => hs.move hm) h hrun

end Traffic

end ClusterTransport.ChannelPool
