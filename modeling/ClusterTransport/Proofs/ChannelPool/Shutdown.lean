import ClusterTransport.Proofs.ChannelPool.Accounting

/-!
# Shutting a channel pool down

The sweep of a shutdown may miss what is filed after it has begun. Whoever files it then looks at
the flag again and takes it out. So from the moment when the flag is set, some operation is bound
to take out each connection that is filed, and when all operations are over none is left.
-/

namespace ClusterTransport

def ChannelPool.Listed (a : Address) (keys : List Endpoint) : Prop :=
  ∃ key ∈ keys, key.toAddress = a

open ChannelPool

/-- The operation is bound to take out what is filed under its endpoint, once the pool is shut
down. -/
def Getting.IsWithdrawing : Getting → Prop
  | checking _ => True
  | withdrawing => True
  | _ => False

/-- The operation is bound to take out what is filed under an address, or finds nothing there. -/
def Evicting.Clears (a : Address) : Evicting → Prop
  | surveying keep => ∀ e, e.toAddress = a → keep e = false
  | visiting keep ahead found =>
    (∀ e, e.toAddress = a → keep e = false) ∧ Listed a (ahead ++ found)
  | removing keys _ => Listed a keys
  | closing _ keys _ => Listed a keys
  | _ => False

theorem Evicting.Clears.step {p : ChannelPool} {a : Address} {o : Evicting} (hp : p.Distinct)
    (h : o.Clears a) {r : Endpoint × Connection} (hr : r ∈ (o.step p).1.channels)
    (ha : r.1.toAddress = a) : (o.step p).2.Clears a := by
  cases o with
  | shutting => exact h.elim
  | surveying keep =>
    have hkey : r.1 ∈ p.keys := List.mem_map.mpr ⟨r, hr, rfl⟩
    exact ⟨h, r.1, by simpa using hkey, ha⟩
  | visiting keep ahead found =>
    obtain ⟨hkeep, key, hkey, hka⟩ := h
    cases ahead with
    | nil => exact ⟨key, by simpa using hkey, hka⟩
    | cons k ahead =>
      simp only [Evicting.step] at hr ⊢
      rw [List.cons_append] at hkey
      split at hr
      next q hq =>
        refine ⟨hkeep, ?_⟩
        rcases List.mem_cons.mp hkey with rfl | hlater
        · -- the key that is filed may differ from the one looked for, but not in its address
          have hqa : q.1.toAddress = a := (find?_address hq).trans hka
          exact ⟨q.1, by simp [hkeep q.1 hqa], hqa⟩
        · refine ⟨key, ?_, hka⟩
          rcases List.mem_append.mp hlater with hahead | hfound
          · exact List.mem_append_left _ hahead
          · refine List.mem_append_right _ ?_
            split
            · exact hfound
            · exact List.mem_append_left _ hfound
      next hnone =>
        rcases List.mem_cons.mp hkey with rfl | hlater
        · exact absurd (ha.trans hka.symm) (find?_eq_none_iff.mp hnone r hr)
        · exact ⟨hkeep, key, hlater, hka⟩
  | removing keys count =>
    obtain ⟨key, hkey, hka⟩ := h
    cases keys with
    | nil => simp at hkey
    | cons k keys =>
      simp only [Evicting.step] at hr ⊢
      split at hr
      next q hq =>
        rcases List.mem_cons.mp hkey with rfl | hlater
        · exact absurd (ha.trans hka.symm) (hp.address_ne_of_mem_evict hr)
        · exact ⟨key, hlater, hka⟩
      next hnone =>
        rcases List.mem_cons.mp hkey with rfl | hlater
        · exact absurd (ha.trans hka.symm) (find?_eq_none_iff.mp hnone r hr)
        · exact ⟨key, hlater, hka⟩
  | closing q keys count => exact h
  | done count => exact h.elim

theorem Evicting.Clears.reroute {p : ChannelPool} {a : Address} {keep : Endpoint → Bool}
    {old ahead found : List Endpoint} {r : Endpoint × Connection}
    (h : (visiting keep old found).Clears a)
    (hahead : ∀ k ∈ old, p.contains k = true → k ∈ ahead) (hr : r ∈ p.channels)
    (ha : r.1.toAddress = a) : (visiting keep ahead found).Clears a := by
  obtain ⟨hkeep, key, hkey, hka⟩ := h
  refine ⟨hkeep, key, ?_, hka⟩
  rcases List.mem_append.mp hkey with hold | hfound
  · obtain ⟨q, hq⟩ := find?_isSome_of_mem hr (ha.trans hka.symm)
    have hfiled : p.contains key = true := by simp [contains, hq]
    exact List.mem_append_left _ (hahead key hold hfiled)
  · exact List.mem_append_right _ hfound

private theorem Evicting.step_ne_shutting (p : ChannelPool) (o : Evicting) :
    (o.step p).2 ≠ .shutting := by
  cases o with
  | shutting =>
    simp only [step]
    split <;> simp
  | surveying keep => simp [step]
  | visiting keep ahead found =>
    cases ahead with
    | nil => simp [step]
    | cons key ahead =>
      simp only [step]
      split <;> simp
  | removing keys count =>
    cases keys with
    | nil => simp [step]
    | cons key keys =>
      simp only [step]
      split <;> simp
  | closing r keys count => simp [step]
  | done count => simp [step]

namespace ChannelPool

private theorem Call.step_ne_shutting {reach : Reach} {p : ChannelPool} (c : Call) (q : Request) :
    (c.step reach p).2 ≠ .evicting q .shutting := by
  cases c with
  | getting e g => simp [Call.step]
  | evicting r o =>
    intro h
    injection h with _ ho
    exact o.step_ne_shutting p ho

/-- The operation is bound to take out what is filed under an address, once the pool is shut
down. -/
def Call.Clears (a : Address) : Call → Prop
  | getting e g => e.toAddress = a ∧ g.IsWithdrawing
  | evicting .shutdown o => o.Clears a
  | evicting _ _ => False

variable {p : ChannelPool} {a : Address} {c : Call} {reach : Reach} {r : Endpoint × Connection}

theorem Call.Clears.step (hp : p.Distinct) (hflag : p.isShutdown = true) (h : c.Clears a)
    (hr : r ∈ (c.step reach p).1.channels) (ha : r.1.toAddress = a) :
    (c.step reach p).2.Clears a := by
  cases c with
  | getting e g =>
    obtain ⟨he, hg⟩ := h
    cases g with
    | checking d =>
      simp only [Call.step, Getting.step, hflag, if_true]
      exact ⟨he, trivial⟩
    | withdrawing =>
      simp only [Call.step, Getting.step] at hr
      split at hr
      next => exact absurd (ha.trans he.symm) (hp.address_ne_of_mem_evict hr)
      next hnone => exact absurd (ha.trans he.symm) (find?_eq_none_iff.mp hnone r hr)
    | _ => exact hg.elim
  | evicting q o =>
    cases q with
    | shutdown =>
      have hclears : o.Clears a := h
      exact hclears.step hp hr ha
    | _ => exact h.elim

theorem Effect.mem_of_mem {q : ChannelPool} {w : Power}
    {before after : Option (Endpoint × Connection)} (h : Effect p w before q after)
    (hw : w ≠ .file) (hr : r ∈ q.channels) : r ∈ p.channels := by
  cases h with
  | filing e _ => exact absurd rfl hw
  | taking e _ _ => exact mem_of_mem_evict hr
  | _ => exact hr

theorem Effect.isShutdown_eq {q : ChannelPool} {w : Power}
    {before after : Option (Endpoint × Connection)} (h : Effect p w before q after)
    (hw : w ≠ .flag) : q.isShutdown = p.isShutdown := by
  cases h with
  | flagging => exact absurd rfl hw
  | _ => rfl

private theorem Effect.isShutdown_mono {q : ChannelPool} {w : Power}
    {before after : Option (Endpoint × Connection)} (h : Effect p w before q after)
    (hp : p.isShutdown = true) : q.isShutdown = true := by
  cases h with
  | flagging => rfl
  | _ => exact hp

private theorem Call.eq_opening_of_power (h : c.power = .file) :
    ∃ e, c = .getting e .opening := by
  cases c with
  | getting e g =>
    cases g with
    | opening => exact ⟨e, rfl⟩
    | _ => cases h
  | evicting q o => cases o <;> cases h

private theorem Call.eq_shutting_of_power (h : c.power = .flag) :
    ∃ q, c = .evicting q .shutting := by
  cases c with
  | getting e g => cases g <;> cases h
  | evicting q o =>
    cases o with
    | shutting => exact ⟨q, rfl⟩
    | _ => cases h

/-- What a step files it is bound to take out again. -/
theorem Call.mem_or_clears_of_mem_step (hr : r ∈ (c.step reach p).1.channels) :
    r ∈ p.channels ∨ (c.step reach p).2.Clears r.1.toAddress := by
  by_cases hw : c.power = .file
  · obtain ⟨e, rfl⟩ := Call.eq_opening_of_power hw
    rcases openFor_cases p reach e with ⟨q, _, hopen⟩ | ⟨fault, hopen⟩ | ⟨_, hopen⟩
    · simp only [Call.step, Getting.step, hopen] at hr
      exact Or.inl hr
    · simp only [Call.step, Getting.step, hopen] at hr
      exact Or.inl hr
    · simp only [Call.step, Getting.step, hopen, file] at hr ⊢
      rcases List.mem_append.mp hr with hold | hnew
      · exact Or.inl hold
      · have hnew : r = (e, ⟨p.opened + 1, e⟩) := by simpa using hnew
        subst hnew
        exact Or.inr ⟨rfl, trivial⟩
  · exact Or.inl ((c.step_effect reach p).mem_of_mem hw hr)

theorem Call.flagged_of_step (hflag : (c.step reach p).1.isShutdown = true) :
    p.isShutdown = true ∨ ∃ q, c = .evicting q .shutting ∧
      (c.step reach p).2 = .evicting q (.surveying fun _ => false) := by
  by_cases hp : p.isShutdown = true
  · exact Or.inl hp
  by_cases hw : c.power = .flag
  · obtain ⟨q, rfl⟩ := Call.eq_shutting_of_power hw
    refine Or.inr ⟨q, rfl, ?_⟩
    simp only [Call.step, Evicting.step, if_neg hp]
  · rw [(c.step_effect reach p).isShutdown_eq hw] at hflag
    exact Or.inl hflag

private theorem Call.Drifts.clears {d : Call} (h : Drifts p c d) (hc : c.Clears a)
    (hr : r ∈ p.channels) (ha : r.1.toAddress = a) : d.Clears a := by
  cases h with
  | reroute q keep old ahead found hahead =>
    cases q with
    | shutdown =>
      have hclears : (Evicting.visiting keep old found).Clears a := hc
      exact hclears.reroute hahead hr ha
    | _ => exact hc.elim
  | rejudge k old keep ahead found => exact hc.elim

private theorem Call.not_clears_of_isOver (h : c.isOver = true) : ¬ c.Clears a := by
  intro hc
  rcases eq_done_of_isOver h with ⟨e, answer, rfl⟩ | ⟨q, count, rfl⟩
  · exact hc.2
  · cases q <;> exact hc

/-- What holds of a pool and the operations on it at every moment. -/
structure Traffic.Guarded (s : Traffic) : Prop extends s.Accounted where
  shutting : ∀ q, Call.evicting q .shutting ∈ s.calls → q = .shutdown
  stopped : s.stopper.isSome = s.pool.isShutdown
  /-- Once the pool is shut down, some operation is bound to take out each connection. -/
  covered : s.pool.isShutdown = true →
    ∀ r ∈ s.pool.channels, ∃ c ∈ s.calls, c.Clears r.1.toAddress

namespace Traffic

theorem guarded_empty : Guarded {} where
  toAccounted := accounted_empty
  shutting := by simp
  stopped := rfl
  covered := by simp

variable {s t : Traffic}

private theorem Guarded.begin (h : s.Guarded) (q : Request) :
    Guarded { s with calls := s.calls ++ [q.call] } where
  toAccounted := h.toAccounted.begin q
  shutting := by
    intro q' hq'
    rcases List.mem_append.mp hq' with hold | hnew
    · exact h.shutting q' hold
    · have hnew : Call.evicting q' .shutting = q.call := by simpa using hnew
      cases q with
      | shutdown =>
        injection hnew
      | _ => cases hnew
  stopped := h.stopped
  covered := by
    intro hflag r hr
    obtain ⟨c, hc, hclears⟩ := h.covered hflag r hr
    exact ⟨c, List.mem_append_left _ hc, hclears⟩

private theorem Guarded.drift (h : s.Guarded) {i : Nat} {c d : Call} (hc : s.calls[i]? = some c)
    (hd : Call.Drifts s.pool c d) : Guarded { s with calls := s.calls.set i d } where
  toAccounted := h.toAccounted.drift hc hd
  shutting := by
    intro q hq
    rcases List.mem_or_eq_of_mem_set hq with hold | hnew
    · exact h.shutting q hold
    · cases hd <;> cases hnew
  stopped := h.stopped
  covered := by
    intro hflag r hr
    have hi : i < s.calls.length := (List.getElem?_eq_some_iff.mp hc).1
    obtain ⟨b, hb, hclears⟩ := h.covered hflag r hr
    rcases mem_set_or_eq hc hb with hstays | rfl
    · exact ⟨b, hstays, hclears⟩
    · exact ⟨d, List.mem_set hi d, hd.clears hclears hr rfl⟩

theorem Guarded.covered_step (h : s.Guarded) {i : Nat} {c : Call} {reach : Reach}
    {r : Endpoint × Connection} (hc : s.calls[i]? = some c)
    (hflag : (c.step reach s.pool).1.isShutdown = true)
    (hr : r ∈ (c.step reach s.pool).1.channels) :
    ∃ d ∈ s.calls.set i (c.step reach s.pool).2, d.Clears r.1.toAddress := by
  have hi : i < s.calls.length := (List.getElem?_eq_some_iff.mp hc).1
  have hnext := List.mem_set hi (c.step reach s.pool).2
  rcases Call.flagged_of_step hflag with hbefore | ⟨q, rfl, hsweep⟩
  · rcases Call.mem_or_clears_of_mem_step hr with hold | hnew
    · obtain ⟨b, hb, hclears⟩ := h.covered hbefore r hold
      rcases mem_set_or_eq hc hb with hstays | rfl
      · exact ⟨b, hstays, hclears⟩
      · exact ⟨_, hnext, hclears.step h.distinct hbefore hr rfl⟩
    · exact ⟨_, hnext, hnew⟩
  · -- this very step sets the flag, and its sweep has everything ahead
    obtain rfl := h.shutting q (List.mem_of_getElem? hc)
    rw [hsweep] at hnext ⊢
    exact ⟨_, hnext, fun _ _ => rfl⟩

theorem Guarded.step (h : s.Guarded) {i : Nat} {c : Call} {reach : Reach}
    (hc : s.calls[i]? = some c) (hpool : t.pool = (c.step reach s.pool).1)
    (hcalls : t.calls = s.calls.set i (c.step reach s.pool).2)
    (hstopper : t.stopper =
      if (c.step reach s.pool).1.isShutdown && !s.pool.isShutdown then some i else s.stopper) :
    t.Guarded := by
  refine ⟨h.toAccounted.step hc hpool hcalls, ?_, ?_, ?_⟩
  · intro q hq
    rw [hcalls] at hq
    rcases List.mem_or_eq_of_mem_set hq with hold | hnew
    · exact h.shutting q hold
    · exact absurd hnew.symm (c.step_ne_shutting q)
  · rw [hstopper, hpool]
    cases hflag : s.pool.isShutdown with
    | true =>
      have hstays := (c.step_effect reach s.pool).isShutdown_mono hflag
      simp [hstays, h.stopped, hflag]
    | false =>
      have hstopped := h.stopped
      rw [hflag] at hstopped
      cases hset : (c.step reach s.pool).1.isShutdown <;> simp [hstopped]
  · intro hflag r hr
    rw [hpool] at hflag hr
    rw [hcalls]
    exact h.covered_step hc hflag hr

theorem Guarded.move {m : Move} (h : s.Guarded) (hm : s.move m = some t) : t.Guarded := by
  rcases move_cases hm with ⟨q, rfl⟩ | ⟨i, c, reach, hc, hpool, hcalls, hstopper⟩ |
    ⟨i, c, d, hc, hd, rfl⟩
  · exact h.begin q
  · exact h.step hc hpool hcalls hstopper
  · exact h.drift hc hd

theorem Guarded.run {ms : List Move} (h : s.Guarded) (hrun : s.run ms = some t) : t.Guarded :=
  foldlM_invariant Guarded (fun _ _ _ hs hm => hs.move hm) h hrun

/-- When the pool is shut down and all operations are over, nothing is filed. -/
theorem Guarded.channels_eq_nil (h : s.Guarded) (hflag : s.pool.isShutdown = true)
    (hover : ∀ c ∈ s.calls, c.isOver = true) : s.pool.channels = [] := by
  refine List.eq_nil_iff_forall_not_mem.mpr ?_
  intro r hr
  obtain ⟨c, hc, hclears⟩ := h.covered hflag r hr
  exact Call.not_clears_of_isOver (hover c hc) hclears

end Traffic

end ChannelPool

end ClusterTransport
