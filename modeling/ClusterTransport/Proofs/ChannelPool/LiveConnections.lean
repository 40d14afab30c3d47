import ClusterTransport.Proofs.ChannelPool.Accounting
import ClusterTransport.Proofs.ChannelPool.Sharing

/-!
# Live connections

A connection is live from when it is opened until it is passed to the factory to be closed. Of one
endpoint those are live that are filed, at most one, and those that an operation has taken out and
is to close, any number.
-/

namespace ClusterTransport.ChannelPool

def livesAt (p : ChannelPool) (a : Address) : ChannelEvent → Bool
  | .opened n key => decide (key.toAddress = a) && p.timesClosed n == 0
  | .closed .. => false

/-- The number of connections that were opened for an address and are not closed yet. -/
def liveAt (p : ChannelPool) (a : Address) : Nat :=
  p.journal.countP (p.livesAt a)

def isAt (a : Address) (r : Endpoint × Connection) : Bool :=
  r.1.toAddress = a

def filedAt (p : ChannelPool) (a : Address) : Nat :=
  p.channels.countP (isAt a)

/-- The operation has taken out a connection of the address and is to close it. -/
def Call.holdsAt (a : Address) (c : Call) : Bool :=
  c.inHand.any (isAt a)

private theorem countP_eq_add {α : Type} {p q r : α → Bool} {l : List α}
    (h : ∀ x ∈ l, (p x).toNat = (q x).toNat + (r x).toNat) :
    l.countP p = l.countP q + l.countP r := by
  induction l with
  | nil => rfl
  | cons x l ih =>
    obtain ⟨hx, hl⟩ := List.forall_mem_cons.mp h
    rw [List.countP_cons, List.countP_cons, List.countP_cons, ih hl]
    revert hx
    cases p x <;> cases q x <;> cases r x <;> simp <;> omega

variable {p q : ChannelPool} {w : Power} {before after : Option (Endpoint × Connection)}
  {e : Endpoint} {r : Endpoint × Connection} {a : Address}

private theorem filedAt_file (p : ChannelPool) (e : Endpoint) (a : Address) :
    (p.file e).filedAt a = p.filedAt a + (decide (e.toAddress = a)).toNat := by
  rw [filedAt, file, List.countP_append, List.countP_singleton]
  by_cases h : e.toAddress = a <;> simp [filedAt, isAt, h]

private theorem filedAt_evict (h : p.find? e = some r) (a : Address) :
    p.filedAt a = (p.evict e).filedAt a + (isAt a r).toNat :=
  countP_channels_evict (isAt a) h

private theorem Distinct.filedAt_eq (h : p.Distinct) (e : Endpoint) :
    p.filedAt e.toAddress = (p.contains e).toNat := by
  cases hfind : p.find? e with
  | none =>
    rw [contains_eq_false hfind, filedAt, List.countP_eq_zero.mpr]
    · rfl
    · intro r hr
      simpa [isAt] using find?_eq_none_iff.mp hfind r hr
  | some r =>
    have hrest : (p.evict e).filedAt e.toAddress = 0 := by
      refine List.countP_eq_zero.mpr fun q hq => ?_
      simpa [isAt] using h.address_ne_of_mem_evict hq
    rw [filedAt_evict hfind, hrest, contains_eq_true hfind]
    simp [isAt, find?_address hfind]

private theorem livesAt_file (p : ChannelPool) (e : Endpoint) (a : Address) :
    (p.file e).livesAt a = p.livesAt a := by
  funext event
  cases event <;> simp [livesAt]

private theorem liveAt_file (e : Endpoint) (a : Address)
    (hfresh : p.timesClosed (p.opened + 1) = 0) :
    (p.file e).liveAt a = p.liveAt a + (decide (e.toAddress = a)).toNat := by
  rw [liveAt, livesAt_file, file, List.countP_cons, liveAt]
  by_cases h : e.toAddress = a <;> simp [livesAt, h, hfresh]

/-- The journal tells of the opening of a connection that is not closed, under the key that it is
filed under. -/
structure Traced (p : ChannelPool) (r : Endpoint × Connection) : Prop where
  opened : .opened r.2.serial r.1 ∈ p.journal
  once : p.timesOpened r.2.serial = 1
  unclosed : p.timesClosed r.2.serial = 0

private theorem Traced.countP_eq (h : p.Traced r) (a : Address) :
    p.journal.countP (fun event => event.opens r.2.serial && event.opensAt a) =
      (isAt a r).toNat := by
  have hsame : ∀ event ∈ p.journal, event.opens r.2.serial = true →
      event = .opened r.2.serial r.1 := fun event hevent hopens =>
    eq_of_countP_le_one (Nat.le_of_eq h.once) hevent h.opened hopens (by simp [ChannelEvent.opens])
  have honly : ∀ event ∈ p.journal, (event.opens r.2.serial && event.opensAt a) = true ↔
      (event.opens r.2.serial && isAt a r) = true := by
    intro event hevent
    cases hopens : event.opens r.2.serial with
    | false => rfl
    | true =>
      rw [hsame event hevent hopens]
      rfl
  rw [List.countP_congr honly]
  cases isAt a r with
  | false => simp
  | true =>
    simp only [Bool.and_true]
    exact h.once

private theorem liveAt_close (h : p.Traced r) (a : Address) :
    p.liveAt a = (p.close r).liveAt a + (isAt a r).toNat := by
  have hclosing : (p.close r).liveAt a = p.journal.countP ((p.close r).livesAt a) := by
    rw [liveAt, close, List.countP_cons]
    rfl
  rw [hclosing, ← h.countP_eq a]
  refine countP_eq_add fun event _ => ?_
  cases event with
  | closed n key => rfl
  | opened n key =>
    simp only [livesAt, timesClosed_close, hasSerial, ChannelEvent.opens, ChannelEvent.opensAt]
    by_cases hn : n = r.2.serial
    · rw [hn, h.unclosed]
      simp
    · simp [hn, Ne.symm hn]

/-- What a step adds to the live connections it adds to those that are filed or taken out. -/
theorem Effect.liveAt_add (h : Effect p w before q after)
    (hfresh : p.timesClosed (p.opened + 1) = 0) (hhand : ∀ r, before = some r → p.Traced r)
    (a : Address) :
    q.liveAt a + (p.filedAt a + (before.any (isAt a)).toNat) =
      p.liveAt a + (q.filedAt a + (after.any (isAt a)).toNat) := by
  cases h with
  | nothing => rfl
  | filing e _ =>
    rw [liveAt_file e a hfresh, filedAt_file]
    omega
  | taking e r hfind =>
    have hfiled := filedAt_evict hfind a
    have hsame : (p.evict e).liveAt a = p.liveAt a := rfl
    simp only [Option.any_some, Option.any_none, Bool.toNat_false]
    omega
  | closing r =>
    have hlive := liveAt_close (hhand r rfl) a
    have hsame : (p.close r).filedAt a = p.filedAt a := rfl
    simp only [Option.any_some, Option.any_none, Bool.toNat_false]
    omega
  | flagging => rfl

/-- A step that opens a connection for an endpoint finds none filed, and adds one to the live
connections; the others add none. -/
theorem Effect.opens_or_liveAt_le (h : Effect p w before q after)
    (hfresh : p.timesClosed (p.opened + 1) = 0) (hhand : ∀ r, before = some r → p.Traced r)
    (e : Endpoint) :
    (p.timesOpenedAt e.toAddress < q.timesOpenedAt e.toAddress ∧ p.contains e = false ∧
      q.liveAt e.toAddress = p.liveAt e.toAddress + 1) ∨
    (q.timesOpenedAt e.toAddress = p.timesOpenedAt e.toAddress ∧
      q.liveAt e.toAddress ≤ p.liveAt e.toAddress) := by
  cases h with
  | filing f hnone =>
    rw [liveAt_file f e.toAddress hfresh, timesOpenedAt_file]
    by_cases hsame : f.toAddress = e.toAddress
    · rw [find?_congr hsame] at hnone
      simp [contains_eq_false hnone, hsame]
    · simp [hsame]
  | closing r =>
    have hlive := liveAt_close (hhand r rfl) e.toAddress
    exact Or.inr ⟨timesOpenedAt_close p r e.toAddress, by omega⟩
  | _ => exact Or.inr ⟨rfl, Nat.le_refl _⟩

private theorem Effect.mem_journal (h : Effect p w before q after) {event : ChannelEvent}
    (hevent : event ∈ p.journal) : event ∈ q.journal := by
  cases h with
  | filing e _ => exact List.mem_cons_of_mem _ hevent
  | closing r => exact List.mem_cons_of_mem _ hevent
  | _ => exact hevent

private theorem Effect.opened_mem (h : Effect p w before q after)
    (hp : ∀ r ∈ p.channels, .opened r.2.serial r.1 ∈ p.journal)
    (hr : r ∈ q.channels ∨ after = some r) : .opened r.2.serial r.1 ∈ q.journal := by
  cases h with
  | filing e _ =>
    rcases hr with hr | hr
    · rcases List.mem_append.mp hr with hold | hnew
      · exact List.mem_cons_of_mem _ (hp r hold)
      · rw [List.mem_singleton.mp hnew]
        exact List.mem_cons_self
    · cases hr
  | taking e taken hfind =>
    rcases hr with hr | hr
    · exact hp r (mem_of_mem_evict hr)
    · cases hr
      exact hp r (List.mem_of_find?_eq_some hfind)
  | closing closed =>
    rcases hr with hr | hr
    · exact List.mem_cons_of_mem _ (hp r hr)
    · cases hr
  | nothing => exact hp r (hr.resolve_right (by simp))
  | flagging => exact hp r (hr.resolve_right (by simp))

namespace Traffic

variable {s t : Traffic}

/-- Every connection is in one place, and the live ones of an address are those that are filed under
it or taken out. -/
structure Living (s : Traffic) : Prop where
  accounted : s.Accounted
  journal : ∀ r, r ∈ s.pool.channels ∨ (∃ c ∈ s.calls, c.inHand = some r) →
    .opened r.2.serial r.1 ∈ s.pool.journal
  balance : ∀ a, s.pool.liveAt a = s.pool.filedAt a + s.calls.countP (Call.holdsAt a)

private theorem Living.fresh (h : s.Living) : s.pool.timesClosed (s.pool.opened + 1) = 0 := by
  have hnever := (h.accounted.numbered (s.pool.opened + 1)).2 (Nat.lt_succ_self _)
  have hbalance := h.accounted.balance (s.pool.opened + 1)
  omega

private theorem Living.traced (h : s.Living) {c : Call} (hc : c ∈ s.calls)
    {r : Endpoint × Connection} (hr : c.inHand = some r) : s.pool.Traced r := by
  -- It was opened once and is in hand, which leaves no place for a closing.
  have hholds : 0 < s.calls.countP (Call.holds r.2.serial) :=
    List.countP_pos_iff.mpr ⟨c, hc, by simp [Call.holds, hr, hasSerial]⟩
  have honce := (h.accounted.numbered r.2.serial).1
  have hbalance := h.accounted.balance r.2.serial
  exact ⟨h.journal r (Or.inr ⟨c, hc, hr⟩), by omega, by omega⟩

private theorem Living.begin (h : s.Living) (r : Request) :
    Living { s with calls := s.calls ++ [r.call] } where
  accounted := h.accounted.begin r
  journal q hq := by
    refine h.journal q (hq.imp_right ?_)
    rintro ⟨c, hc, hhand⟩
    rcases List.mem_append.mp hc with hc | hc
    · exact ⟨c, hc, hhand⟩
    · rw [List.mem_singleton.mp hc, Request.inHand_call] at hhand
      cases hhand
  balance a := by
    have hr : Call.holdsAt a r.call = false := by simp [Call.holdsAt]
    simp only [List.countP_append, List.countP_singleton, hr]
    exact h.balance a

theorem Living.step (h : s.Living) {i : Nat} {c : Call} {reach : Reach}
    (hc : s.calls[i]? = some c) (hpool : t.pool = (c.step reach s.pool).1)
    (hcalls : t.calls = s.calls.set i (c.step reach s.pool).2) : t.Living := by
  have hmem := List.mem_of_getElem? hc
  have heffect := c.step_effect reach s.pool
  rw [← hpool] at heffect
  refine ⟨h.accounted.step hc hpool hcalls, ?_, ?_⟩
  · intro r hr
    rw [hcalls] at hr
    rcases hr with hfiled | ⟨d, hd, hhand⟩
    · exact heffect.opened_mem (fun q hq => h.journal q (Or.inl hq)) (Or.inl hfiled)
    · rcases List.mem_or_eq_of_mem_set hd with hold | rfl
      · exact heffect.mem_journal (h.journal r (Or.inr ⟨d, hold, hhand⟩))
      · exact heffect.opened_mem (fun q hq => h.journal q (Or.inl hq)) (Or.inr hhand)
  · intro a
    have hstep := heffect.liveAt_add h.fresh (fun r hr => h.traced hmem hr) a
    have hcount := countP_set_add (Call.holdsAt a) (c.step reach s.pool).2 hc
    have hbefore := h.balance a
    rw [hcalls]
    simp only [Call.holdsAt] at hcount hbefore ⊢
    omega

private theorem Living.drift (h : s.Living) {i : Nat} {c d : Call} (hc : s.calls[i]? = some c)
    (hd : Call.Drifts s.pool c d) : Living { s with calls := s.calls.set i d } where
  accounted := h.accounted.drift hc hd
  journal r hr := by
    refine h.journal r (hr.imp_right ?_)
    rintro ⟨x, hx, hhand⟩
    rcases List.mem_or_eq_of_mem_set hx with hold | rfl
    · exact ⟨x, hold, hhand⟩
    · exact ⟨c, List.mem_of_getElem? hc, hd.inHand_eq.trans hhand⟩
  balance a := by
    have hsame : Call.holdsAt a c = Call.holdsAt a d := by
      rw [Call.holdsAt, hd.inHand_eq, Call.holdsAt]
    have hcount := countP_set_add (Call.holdsAt a) d hc
    have hbefore := h.balance a
    dsimp only
    rw [hsame] at hcount
    omega

theorem Living.move {m : Move} (h : s.Living) (hm : s.move m = some t) : t.Living := by
  rcases move_cases hm with ⟨r, rfl⟩ | ⟨i, c, reach, hc, hpool, hcalls, _⟩ | ⟨i, c, d, hc, hd, rfl⟩
  · exact h.begin r
  · exact h.step hc hpool hcalls
  · exact h.drift hc hd

theorem living_run {ms : List Move} (hrun : run {} ms = some s) : s.Living :=
  foldlM_invariant Living (fun _ _ _ hs hm => hs.move hm)
    ⟨accounted_empty, by simp, fun _ => rfl⟩ hrun

private theorem Living.liveAt_eq (h : s.Living) (e : Endpoint) :
    s.pool.liveAt e.toAddress =
      (s.pool.contains e).toNat + s.calls.countP (Call.holdsAt e.toAddress) := by
  rw [h.balance, h.accounted.distinct.filedAt_eq]

private theorem Living.opens_or_liveAt_le {m : Move} (h : s.Living) (hm : s.move m = some t)
    (e : Endpoint) :
    (s.pool.timesOpenedAt e.toAddress < t.pool.timesOpenedAt e.toAddress ∧
      s.pool.contains e = false ∧
      t.pool.liveAt e.toAddress = s.pool.liveAt e.toAddress + 1) ∨
    (t.pool.timesOpenedAt e.toAddress = s.pool.timesOpenedAt e.toAddress ∧
      t.pool.liveAt e.toAddress ≤ s.pool.liveAt e.toAddress) := by
  rcases move_cases hm with ⟨r, rfl⟩ | ⟨i, c, reach, hc, hpool, _⟩ | ⟨i, c, d, _, _, rfl⟩
  · exact Or.inr ⟨rfl, Nat.le_refl _⟩
  · have heffect := c.step_effect reach s.pool
    rw [← hpool] at heffect
    exact heffect.opens_or_liveAt_le h.fresh
      (fun r hr => h.traced (List.mem_of_getElem? hc) hr) e
  · exact Or.inr ⟨rfl, Nat.le_refl _⟩

/-- A connection of the endpoint is opened only while no operation has one taken out. -/
def OpensAfterClosing (e : Endpoint) (ms : List Move) : Prop :=
  ∀ first m u t, first ++ [m] <+: ms → run {} first = some u → u.move m = some t →
    u.pool.timesOpenedAt e.toAddress < t.pool.timesOpenedAt e.toAddress →
    u.calls.countP (Call.holdsAt e.toAddress) = 0

private theorem liveAt_le_one_iff {e : Endpoint} {ms : List Move} :
    (∀ first u, first <+: ms → run {} first = some u → u.pool.liveAt e.toAddress ≤ 1) ↔
      OpensAfterClosing e ms := by
  constructor
  · intro hall first m u t hfirst hu hm hopens
    have ht := hall (first ++ [m]) t hfirst (foldlM_trans hu (foldlM_cons_of_move hm rfl))
    have hlive := (living_run hu).liveAt_eq e
    rcases (living_run hu).opens_or_liveAt_le hm e with ⟨_, _, hmore⟩ | ⟨hsame, _⟩
    · omega
    · omega
  · intro hopens first u hfirst hu
    refine foldlM_induction (fun first u => first <+: ms → u.pool.liveAt e.toAddress ≤ 1)
      (fun _ => Nat.zero_le 1) ?_ hu hfirst
    intro first u m t hu ih hm hprefix
    have hbefore := ih ((List.prefix_append first [m]).trans hprefix)
    have hlive := (living_run hu).liveAt_eq e
    rcases (living_run hu).opens_or_liveAt_le hm e with ⟨hmore, hnone, hadds⟩ | ⟨_, hle⟩
    · have hclosed := hopens first m u t hprefix hu hm hmore
      rw [hnone, hclosed] at hlive
      simp only [Bool.toNat_false] at hlive
      omega
    · exact Nat.le_trans hle hbefore

section Hoarding

variable {cs : List Call} {e : Endpoint} {k : Nat}

private theorem exists_step_last {c : Call} (hs : s.calls = cs ++ [c]) (reach : Reach) :
    ∃ t, s.move (.step cs.length reach) = some t ∧ t.pool = (c.step reach s.pool).1 ∧
      t.calls = cs ++ [(c.step reach s.pool).2] := by
  have hc : s.calls[cs.length]? = some c := by simp [hs]
  exact ⟨_, Option.map_eq_some_iff.mpr ⟨c, hc, rfl⟩, rfl, by simp [hs]⟩

private theorem exists_run_getting {g : Getting} (hs : s.calls = cs ++ [.getting e g])
    (reach : Reach)
    (n : Nat) :
    ∃ t, s.run (List.replicate n (.step cs.length reach)) = some t ∧
      t.pool = (Getting.steps reach e n (s.pool, g)).1 ∧
      t.calls = cs ++ [.getting e (Getting.steps reach e n (s.pool, g)).2] := by
  induction n generalizing s g with
  | zero => exact ⟨s, rfl, rfl, hs⟩
  | succ n ih =>
    obtain ⟨u, hu, hpool, hcalls⟩ := exists_step_last hs reach
    obtain ⟨t, ht, hpool', hcalls'⟩ := ih hcalls
    rw [hpool] at hpool' hcalls'
    exact ⟨t, foldlM_cons_of_move hu ht, hpool', hcalls'⟩

private theorem steps_get {p : ChannelPool} (hup : p.isShutdown = false)
    (hnone : p.find? e = none) :
    Getting.steps (fun _ => none) e 4 (p, .begun) =
      (p.file e, .done (.ok ⟨p.opened + 1, e⟩)) := by
  have hfile : (p.file e).isShutdown = false := hup
  have hopen : p.openFor (fun _ => none) e = (p.file e, .ok ⟨p.opened + 1, e⟩) := by
    simp only [openFor, hnone, file]
  simp [Getting.steps, Getting.step, hup, hnone, hopen, hfile]

/-- Nothing is filed, and a number of operations have each taken out a connection of an endpoint. -/
structure Hoard (e : Endpoint) (k : Nat) (s : Traffic) : Prop where
  channels : s.pool.channels = []
  running : s.pool.isShutdown = false
  held : s.calls.countP (Call.holdsAt e.toAddress) = k

private theorem exists_run_opening (hup : s.pool.isShutdown = false)
    (hnone : s.pool.find? e = none) :
    ∃ ms t, s.run ms = some t ∧ t.pool = s.pool.file e ∧
      t.calls = s.calls ++ [.getting e (.done (.ok ⟨s.pool.opened + 1, e⟩))] := by
  obtain ⟨t, ht, hpool, hcalls⟩ :=
    exists_run_getting (s := { s with calls := s.calls ++ [.getting e .begun] }) rfl
      (fun _ => none) 4
  rw [steps_get hup hnone] at hpool hcalls
  have hrun : s.run (.begin (.get e) :: List.replicate 4 (.step s.calls.length fun _ => none)) =
      some t := foldlM_cons_of_move rfl ht
  exact ⟨_, t, hrun, hpool, hcalls⟩

private theorem exists_run_taking {r : Endpoint × Connection} (hfind : s.pool.find? e = some r) :
    ∃ ms t, s.run ms = some t ∧ t.pool = s.pool.evict e ∧
      t.calls = s.calls ++ [.evicting (.remove [e]) (.closing r [] 0)] := by
  obtain ⟨t, ht, hpool, hcalls⟩ :=
    exists_step_last (s := { s with calls := s.calls ++ [(Request.remove [e]).call] }) rfl
      (fun _ => none)
  have htaking : (Request.remove [e]).call.step (fun _ => none) s.pool =
      (s.pool.evict e, .evicting (.remove [e]) (.closing r [] 0)) := by
    simp only [Request.call, Call.step, Evicting.step, hfind]
  rw [htaking] at hpool hcalls
  have hrun : s.run [.begin (.remove [e]), .step s.calls.length fun _ => none] = some t :=
    foldlM_cons_of_move rfl (foldlM_cons_of_move ht rfl)
  exact ⟨_, t, hrun, hpool, hcalls⟩

/-- A `get` opens a connection, and a `remove` takes it out but does not come to close it. -/
theorem Hoard.exists_more (h : Hoard e k s) : ∃ ms t, s.run ms = some t ∧ Hoard e (k + 1) t := by
  have hnone : s.pool.find? e = none := by rw [find?, h.channels, List.find?_nil]
  obtain ⟨opening, u, hu, hpool, hcalls⟩ := exists_run_opening h.running hnone
  have hfiled : u.pool.find? e = some (e, ⟨s.pool.opened + 1, e⟩) := by
    simp [hpool, find?_file, hnone]
  obtain ⟨taking, t, ht, hpool', hcalls'⟩ := exists_run_taking hfiled
  refine ⟨opening ++ taking, t, foldlM_trans hu ht, ?_, ?_, ?_⟩
  · simp [hpool', hpool, evict, file, h.channels, Endpoint.same]
  · rw [hpool', hpool]
    exact h.running
  · have hidle : Call.holdsAt e.toAddress (.getting e (.done (.ok ⟨s.pool.opened + 1, e⟩))) =
        false := rfl
    have hholds : Call.holdsAt e.toAddress
        (.evicting (.remove [e]) (.closing (e, ⟨s.pool.opened + 1, e⟩) [] 0)) = true := by
      simp [Call.holdsAt, Call.inHand, Evicting.inHand, isAt]
    simp [hcalls', hcalls, List.countP_append, hidle, hholds, h.held]

private theorem exists_hoard (e : Endpoint) (k : Nat) :
    ∃ ms s, run {} ms = some s ∧ Hoard e k s := by
  induction k with
  | zero => exact ⟨[], {}, rfl, rfl, rfl, rfl⟩
  | succ k ih =>
    obtain ⟨ms, s, hs, hhoard⟩ := ih
    obtain ⟨more, t, ht, hmore⟩ := hhoard.exists_more
    exact ⟨ms ++ more, t, foldlM_trans hs ht, hmore⟩

end Hoarding

/-- The live connections of an endpoint are the one that is filed, if any, and those that operations
have taken out. There is at most one throughout a run just if none is opened while one is taken out,
and without that there can be any number. -/
theorem live_connections {ms : List Move} (hrun : run {} ms = some s) (e : Endpoint) :
    s.pool.liveAt e.toAddress =
      (s.pool.contains e).toNat + s.calls.countP (Call.holdsAt e.toAddress) ∧
    ((∀ first u, first <+: ms → run {} first = some u → u.pool.liveAt e.toAddress ≤ 1) ↔
      OpensAfterClosing e ms) ∧
    ∀ k, ∃ ms s, run {} ms = some s ∧ s.pool.liveAt e.toAddress = k := by
  refine ⟨(living_run hrun).liveAt_eq e, liveAt_le_one_iff, fun k => ?_⟩
  obtain ⟨ms, s, hs, hhoard⟩ := exists_hoard e k
  have hnone : s.pool.find? e = none := by rw [find?, hhoard.channels, List.find?_nil]
  have hlive := (living_run hs).liveAt_eq e
  rw [contains_eq_false hnone, hhoard.held, Bool.toNat_false, Nat.zero_add] at hlive
  exact ⟨ms, s, hs, hlive⟩

/-- A `get` that looked before the first connection was filed opens a second one when a shutdown has
taken the first one out and is to close it. -/
theorem live_connections_of_shutdown :
    let reach : Reach := fun _ => none
    let e := Endpoint.ofAddress ⟨"h", 1⟩
    let race := [.begin (.get e), .begin (.get e), .step 0 reach, .step 0 reach] ++
      List.replicate 4 (.step 1 reach) ++ .begin .shutdown :: List.replicate 5 (.step 2 reach) ++
      [.step 0 reach]
    ∃ s, run {} race = some s ∧ s.pool.isShutdown = true ∧ s.pool.contains e = true ∧
      s.pool.liveAt e.toAddress = 2 := by
  intro reach e race
  have hrace : (run {} race).map (fun s => (s.pool.isShutdown, s.pool.contains e,
      s.calls.countP (Call.holdsAt e.toAddress))) = some (true, true, 1) := by
    decide +kernel
  simp only [Option.map_eq_some_iff, Prod.mk.injEq] at hrace
  obtain ⟨s, hs, hflag, hfiled, hheld⟩ := hrace
  refine ⟨s, hs, hflag, hfiled, ?_⟩
  rw [(live_connections hs e).1, hfiled, hheld]
  rfl

/-- A connection is opened while a `remove` has the one before taken out and not closed. -/
theorem two_live_connections :
    ¬ ∀ ms s, run {} ms = some s → ∀ a, s.pool.liveAt a ≤ 1 := by
  intro hall
  let reach : Reach := fun _ => none
  let e := Endpoint.ofAddress ⟨"h", 1⟩
  let race : List Move := .begin (.get e) :: List.replicate 4 (.step 0 reach) ++
    [.begin (.remove [e]), .step 1 reach, .begin (.get e)] ++ List.replicate 4 (.step 2 reach)
  have hrace : (run {} race).map (fun s => s.pool.liveAt e.toAddress) = some 2 := by
    decide +kernel
  obtain ⟨s, hs, htwo⟩ := Option.map_eq_some_iff.mp hrace
  have hone := hall race s hs e.toAddress
  omega

end Traffic

end ClusterTransport.ChannelPool
