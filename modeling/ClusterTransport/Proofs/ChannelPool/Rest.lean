import ClusterTransport.Proofs.ChannelPool.Shutdown

/-!
# A channel pool at rest

A pool that was shut down and on which no operation is left in progress is empty, and nothing that
is begun on it later has an effect.
-/

namespace ClusterTransport.ChannelPool

/-- The operation has no effect on a pool that is shut down and empty. -/
def Call.isQuiet : Call → Bool
  | getting _ .begun => true
  | getting _ (.done _) => true
  | getting _ _ => false
  | evicting _ (.closing ..) => false
  | evicting _ _ => true

variable {p : ChannelPool} {c d : Call}

private theorem Call.isQuiet_of_isOver (h : c.isOver = true) : c.isQuiet = true := by
  rcases eq_done_of_isOver h with ⟨e, answer, rfl⟩ | ⟨q, count, rfl⟩ <;> rfl

private theorem Call.holds_of_isOver (n : Nat) (h : c.isOver = true) : c.holds n = false := by
  rcases eq_done_of_isOver h with ⟨e, answer, rfl⟩ | ⟨q, count, rfl⟩ <;> rfl

private theorem Request.isQuiet_call (q : Request) : q.call.isQuiet = true := by
  cases q <;> rfl

private theorem Call.Drifts.isQuiet (h : Drifts p c d) : d.isQuiet = true := by
  cases h <;> rfl

private theorem find?_of_channels_eq_nil (h : p.channels = []) (e : Endpoint) :
    p.find? e = none := by
  rw [find?, h]
  rfl

private theorem Call.step_of_isQuiet (reach : Reach) (hflag : p.isShutdown = true)
    (hempty : p.channels = []) (h : c.isQuiet = true) :
    (c.step reach p).1 = p ∧ (c.step reach p).2.isQuiet = true := by
  have hfind := find?_of_channels_eq_nil hempty
  cases c with
  | getting e g =>
    cases g with
    | begun => simp [step, Getting.step, hflag, isQuiet]
    | done answer => exact ⟨rfl, rfl⟩
    | _ => cases h
  | evicting q o =>
    cases o with
    | shutting => simp [step, Evicting.step, hflag, isQuiet]
    | surveying keep => exact ⟨rfl, rfl⟩
    | visiting keep ahead found =>
      cases ahead with
      | nil => exact ⟨rfl, rfl⟩
      | cons key ahead => simp [step, Evicting.step, hfind key, isQuiet]
    | removing keys count =>
      cases keys with
      | nil => exact ⟨rfl, rfl⟩
      | cons key keys => simp [step, Evicting.step, hfind key, isQuiet]
    | closing r keys count => cases h
    | done count => exact ⟨rfl, rfl⟩

namespace Traffic

variable {s t : Traffic}

/-- The pool is as it was, and no operation is going to change it. -/
structure Resting (p : ChannelPool) (s : Traffic) : Prop where
  pool : s.pool = p
  quiet : ∀ c ∈ s.calls, c.isQuiet = true

theorem Resting.move {m : Move} (hflag : p.isShutdown = true) (hempty : p.channels = [])
    (h : s.Resting p) (hm : s.move m = some t) : t.Resting p := by
  rcases move_cases hm with ⟨q, rfl⟩ | ⟨i, c, reach, hc, hpool, hcalls, _⟩ | ⟨i, c, d, hc, hd, rfl⟩
  · have hnew : ∀ b ∈ [q.call], b.isQuiet = true := List.forall_mem_singleton.mpr q.isQuiet_call
    exact ⟨h.pool, List.forall_mem_append.mpr ⟨h.quiet, hnew⟩⟩
  · have hquiet := h.quiet c (List.mem_of_getElem? hc)
    obtain ⟨hsame, hnext⟩ := Call.step_of_isQuiet reach hflag hempty hquiet
    rw [h.pool] at hpool hcalls
    refine ⟨hpool.trans hsame, ?_⟩
    rw [hcalls]
    exact forall_mem_set h.quiet hnext
  · exact ⟨h.pool, forall_mem_set h.quiet hd.isQuiet⟩

theorem Resting.run {ms : List Move} (hflag : p.isShutdown = true) (hempty : p.channels = [])
    (h : s.Resting p) (hrun : s.run ms = some t) : t.Resting p :=
  foldlM_invariant (Resting p) (fun _ _ _ hs hm => hs.move hflag hempty hm) h hrun

private theorem Accounted.timesClosed_le (h : s.Accounted) (n : Nat) :
    s.pool.timesClosed n ≤ s.pool.timesOpened n := by
  have hbalance := h.balance n
  omega

/-- Once nothing is filed and nothing in hand, whatever was opened is closed. -/
theorem Accounted.timesClosed_eq_one (h : s.Accounted) (hempty : s.pool.channels = [])
    (hover : ∀ c ∈ s.calls, c.isOver = true) {n : Nat} {e : Endpoint}
    (hopened : .opened n e ∈ s.pool.journal) : s.pool.timesClosed n = 1 := by
  have hatleast : 0 < s.pool.timesOpened n :=
    List.countP_pos_iff.mpr ⟨_, hopened, by simp [ChannelEvent.opens]⟩
  have hatmost := (h.numbered n).1
  have hfiled : s.pool.timesFiled n = 0 := by simp [timesFiled, hempty]
  have hheld : s.calls.countP (Call.holds n) = 0 := by
    refine List.countP_eq_zero.mpr ?_
    intro c hc
    simp [Call.holds_of_isOver n (hover c hc)]
  have hbalance := h.balance n
  omega

/-- No connection is closed twice. When the operation that shut the pool down has returned and no
other one is in progress, the pool is empty for good and each connection was closed once. -/
theorem connections_closed_once {ms : List Move} (hrun : run {} ms = some s) :
    (∀ n, s.pool.timesClosed n ≤ s.pool.timesOpened n ∧ s.pool.timesOpened n ≤ 1) ∧
      (s.stopper.isSome = true → (∀ c ∈ s.calls, c.isOver = true) →
        ∀ later t, s.run later = some t →
          t.pool.channels = [] ∧
          ∀ n e, .opened n e ∈ t.pool.journal → t.pool.timesClosed n = 1) := by
  have hs : s.Guarded := guarded_empty.run hrun
  refine ⟨?_, ?_⟩
  · intro n
    exact ⟨hs.timesClosed_le n, (hs.numbered n).1⟩
  · intro hstopper hover later t hlater
    have hflag : s.pool.isShutdown = true := hs.stopped ▸ hstopper
    have hempty := hs.channels_eq_nil hflag hover
    have hrest : s.Resting s.pool := ⟨rfl, fun c hc => Call.isQuiet_of_isOver (hover c hc)⟩
    have hpool : t.pool = s.pool := (hrest.run hflag hempty hlater).pool
    rw [hpool]
    exact ⟨hempty, fun n e => hs.timesClosed_eq_one hempty hover⟩

/-- A connection that is filed after the sweep of the shutdown is closed by the `get` that opened
it, and a later `get` opens none. -/
theorem connections_closed_once_race :
    let reach : Reach := fun _ => none
    let e := Endpoint.ofAddress ⟨"h", 1⟩
    let race := [.begin (.get e), .step 0 reach, .step 0 reach, .begin .shutdown, .step 1 reach,
      .step 1 reach, .step 1 reach, .step 1 reach, .step 0 reach, .step 0 reach, .step 0 reach,
      .step 0 reach]
    let later := [.begin (.get e), .step 2 reach]
    ∃ s t, run {} race = some s ∧ s.run later = some t ∧ s.pool.timesClosed 1 ≤ 1 ∧
      t.pool.channels = [] ∧ t.pool.timesClosed 1 = 1 := by
  intro reach e race later
  have hrace : ∃ s, run {} race = some s ∧ s.stopper.isSome = true ∧
      (∀ c ∈ s.calls, c.isOver = true) ∧
      ∃ t, s.run later = some t ∧ .opened 1 e ∈ t.pool.journal :=
    ⟨_, rfl, by decide, by decide, _, rfl, by decide⟩
  obtain ⟨s, hs, hstopper, hover, t, ht, hopened⟩ := hrace
  obtain ⟨hclosed, hrest⟩ := connections_closed_once hs
  obtain ⟨hempty, honce⟩ := hrest hstopper hover later t ht
  have hle : s.pool.timesClosed 1 ≤ 1 := Nat.le_trans (hclosed 1).1 (hclosed 1).2
  exact ⟨s, t, hs, ht, hle, hempty, honce 1 e hopened⟩

end Traffic

end ClusterTransport.ChannelPool
