import ClusterTransport.Proofs.ChannelPool.Reading
import ClusterTransport.Proofs.ChannelPool.Sparing

/-!
# Sharing connections

A `get` answers a connection that was filed under its endpoint while the `get` was in progress.
Until that connection is taken out no other one is opened for the endpoint, and every `get` that
reads it answers it.
-/

namespace ClusterTransport

def ChannelEvent.opensAt (a : Address) : ChannelEvent → Bool
  | opened _ key => key.toAddress = a
  | closed .. => false

namespace ChannelPool

def timesOpenedAt (p : ChannelPool) (a : Address) : Nat :=
  p.journal.countP (ChannelEvent.opensAt a)

def Labelled (p : ChannelPool) : Prop :=
  ∀ r ∈ p.channels, r.2.target = r.1

variable {p q : ChannelPool} {e f : Endpoint} {r : Endpoint × Connection} {w : Power}
  {before after : Option (Endpoint × Connection)}

theorem contains_eq_true (h : p.find? e = some r) : p.contains e = true := by
  rw [contains, h]
  rfl

theorem contains_eq_false (h : p.find? e = none) : p.contains e = false := by
  rw [contains, h]
  rfl

private theorem contains_of_contains_evict (h : (p.evict f).contains e = true) :
    p.contains e = true := by
  obtain ⟨r, hr⟩ := Option.isSome_iff_exists.mp h
  obtain ⟨q, hq⟩ :=
    find?_isSome_of_mem (mem_of_mem_evict (List.mem_of_find?_eq_some hr)) (find?_address hr)
  exact contains_eq_true hq

private theorem contains_file (p : ChannelPool) (e f : Endpoint) :
    (p.file f).contains e = (p.contains e || decide (f.toAddress = e.toAddress)) := by
  rw [contains, find?_file, Option.isSome_or]
  by_cases h : f.toAddress = e.toAddress <;> simp [contains, h]

@[simp] theorem timesOpenedAt_file (p : ChannelPool) (e : Endpoint) (a : Address) :
    (p.file e).timesOpenedAt a = p.timesOpenedAt a + (decide (e.toAddress = a)).toNat := by
  simp only [timesOpenedAt, file, List.countP_cons, ChannelEvent.opensAt]
  by_cases h : e.toAddress = a <;> simp [h]

@[simp] theorem timesOpenedAt_evict (p : ChannelPool) (e : Endpoint) (a : Address) :
    (p.evict e).timesOpenedAt a = p.timesOpenedAt a := rfl

@[simp] theorem timesOpenedAt_close (p : ChannelPool) (r : Endpoint × Connection) (a : Address) :
    (p.close r).timesOpenedAt a = p.timesOpenedAt a := by
  simp [timesOpenedAt, close, ChannelEvent.opensAt]

private theorem Kept.timesClosed_le {listed : Endpoint → Bool} (h : Kept listed p q) (n : Nat) :
    p.timesClosed n ≤ q.timesClosed n := by
  obtain ⟨new, hnew, _⟩ := h.journal
  simp only [timesClosed, hnew, List.countP_append]
  omega

private theorem Effect.labelled (h : Effect p w before q after) (hp : p.Labelled) : q.Labelled := by
  cases h with
  | filing e _ =>
    intro r hr
    rcases List.mem_append.mp hr with hold | hnew
    · exact hp r hold
    · rw [List.mem_singleton.mp hnew]
  | taking e r _ => exact fun r hr => hp r (mem_of_mem_evict hr)
  | _ => exact hp

private theorem Effect.kept (h : Effect p w before q after) : Kept (fun _ => false) p q := by
  cases h with
  | nothing => exact .refl p
  | filing e _ => exact .file p e
  | taking e r hfind => exact (Shed.taking e r hfind rfl).kept fun _ _ _ => rfl
  | closing r => exact (Shed.closing r rfl).kept fun _ _ _ => rfl
  | flagging =>
    exact ⟨Nat.le_refl _, fun _ hr => Or.inl hr, fun _ hr _ => hr, [], rfl, by simp⟩

section Keeping

variable (hkeeps : p.contains e = true → q.contains e = true)
include hkeeps

/-- Unless it takes the connection of an endpoint out, a step leaves it where it is. -/
theorem Effect.find?_eq (h : Effect p w before q after) (hp : p.Distinct)
    (hfind : p.find? e = some r) : q.find? e = some r := by
  cases h with
  | filing f _ =>
    rw [find?_file, hfind]
    rfl
  | taking f taken _ =>
    obtain ⟨r', hr'⟩ := Option.isSome_iff_exists.mp (hkeeps (contains_eq_true hfind))
    obtain ⟨hmem, haddress⟩ := (hp.evict f).find?_eq_some_iff.mp hr'
    have hsame : p.find? e = some r' :=
      hp.find?_eq_some_iff.mpr ⟨mem_of_mem_evict hmem, haddress⟩
    rw [hr', ← hsame, hfind]
  | _ => exact hfind

/-- Unless it takes the connection of an endpoint out, a step opens one only where there is none. -/
theorem Effect.timesOpenedAt_add (h : Effect p w before q after) :
    q.timesOpenedAt e.toAddress + (p.contains e).toNat =
      p.timesOpenedAt e.toAddress + (q.contains e).toNat := by
  cases h with
  | nothing => rfl
  | flagging => rfl
  | filing f hnone =>
    rw [timesOpenedAt_file, contains_file]
    by_cases hsame : f.toAddress = e.toAddress
    · rw [find?_congr hsame] at hnone
      simp [contains_eq_false hnone, hsame]
    · simp [hsame]
  | taking f r _ =>
    have hsame : (p.evict f).contains e = p.contains e :=
      Bool.eq_iff_iff.mpr ⟨contains_of_contains_evict, hkeeps⟩
    rw [timesOpenedAt_evict, hsame]
  | closing r =>
    rw [timesOpenedAt_close]
    rfl

end Keeping

namespace Traffic

variable {s t u : Traffic} {m : Move} {ms : List Move}

theorem effect_of_move (h : s.move m = some t) :
    ∃ w before after, Effect s.pool w before t.pool after := by
  rcases move_cases h with ⟨r, rfl⟩ | ⟨i, c, reach, _, hpool, _, _⟩ | ⟨i, c, d, _, _, rfl⟩
  · exact ⟨.nothing, none, none, .nothing⟩
  · exact ⟨_, _, _, hpool ▸ c.step_effect reach s.pool⟩
  · exact ⟨.nothing, none, none, .nothing⟩

theorem labelled_of_run (hs : s.pool.Labelled) (hrun : s.run ms = some t) : t.pool.Labelled := by
  refine foldlM_invariant (fun u => u.pool.Labelled) ?_ hs hrun
  intro u m v hu hm
  obtain ⟨w, before, after, heffect⟩ := effect_of_move hm
  exact heffect.labelled hu

theorem kept_of_run (hrun : s.run ms = some t) : Kept (fun _ => false) s.pool t.pool := by
  refine foldlM_invariant (fun u => Kept (fun _ => false) s.pool u.pool) ?_ (.refl _) hrun
  intro u m v hu hm
  obtain ⟨w, before, after, heffect⟩ := effect_of_move hm
  exact hu.trans heffect.kept

private theorem Accounted.timesClosed_eq_zero (h : s.Accounted) {e : Endpoint}
    {r : Endpoint × Connection} (hfind : s.pool.find? e = some r) :
    s.pool.timesClosed r.2.serial = 0 := by
  have hfiled := timesFiled_pos (List.mem_of_find?_eq_some hfind)
  have honce := (h.numbered r.2.serial).1
  have hbalance := h.balance r.2.serial
  omega

def moveKeeping (e : Endpoint) (s : Traffic) (m : Move) : Option Traffic :=
  (s.move m).filter fun t => !s.pool.contains e || t.pool.contains e

def runKeeping (e : Endpoint) (s : Traffic) (ms : List Move) : Option Traffic :=
  ms.foldlM (moveKeeping e) s

private theorem move_of_moveKeeping {e : Endpoint} (h : moveKeeping e s m = some t) :
    s.move m = some t ∧ (s.pool.contains e = true → t.pool.contains e = true) := by
  obtain ⟨hm, hkeeps⟩ := Option.filter_eq_some_iff.mp h
  refine ⟨hm, fun hs => ?_⟩
  simpa [hs] using hkeeps

private theorem run_of_runKeeping {e : Endpoint} (hrun : s.runKeeping e ms = some t) :
    s.run ms = some t := by
  induction ms generalizing s with
  | nil => exact hrun
  | cons m ms ih =>
    obtain ⟨u, hu, hrest⟩ := exists_move_of_foldlM_cons hrun
    exact foldlM_cons_of_move (move_of_moveKeeping hu).1 (ih hrest)

/-- What becomes of an endpoint while its connection is not taken out. -/
structure Holding (e : Endpoint) (s t : Traffic) : Prop where
  accounted : t.Accounted
  find?_eq : ∀ r, s.pool.find? e = some r → t.pool.find? e = some r
  opened : t.pool.timesOpenedAt e.toAddress + (s.pool.contains e).toNat =
    s.pool.timesOpenedAt e.toAddress + (t.pool.contains e).toNat
  /-- What a `get` has read it had read before, or it is there now. -/
  read : ∀ (i : Nat) (f : Endpoint) (g : Getting) c, f.toAddress = e.toAddress →
    t.calls[i]? = some (.getting f g) → g.read? = some c →
    (∃ g : Getting, s.calls[i]? = some (.getting f g) ∧ g.read? = some c) ∨
      ∃ key, t.pool.find? e = some (key, c)

section Holding

variable {e : Endpoint}

private theorem Holding.refl (hs : s.Accounted) : Holding e s s :=
  ⟨hs, fun _ h => h, rfl, fun _ _ g _ _ hg hread => Or.inl ⟨g, hg, hread⟩⟩

private theorem Holding.moveKeeping (h : Holding e s t) (hm : t.moveKeeping e m = some u) :
    Holding e s u := by
  obtain ⟨hmove, hkeeps⟩ := move_of_moveKeeping hm
  obtain ⟨w, before, after, heffect⟩ := effect_of_move hmove
  have hfind : ∀ r, t.pool.find? e = some r → u.pool.find? e = some r := fun r =>
    heffect.find?_eq hkeeps h.accounted.distinct
  refine ⟨h.accounted.move hmove, fun r hr => hfind r (h.find?_eq r hr), ?_, ?_⟩
  · have hbefore := h.opened
    have hstep := heffect.timesOpenedAt_add hkeeps
    omega
  · intro i f g c hf hg hread
    rcases getting_of_move hmove hg with hsame | ⟨reach, a, rfl, ha, hpool, rfl⟩ | rfl
    · rcases h.read i f g c hf hsame hread with hearlier | ⟨key, hkey⟩
      · exact Or.inl hearlier
      · exact Or.inr ⟨key, hfind _ hkey⟩
    · by_cases hold : a.read? = some c
      · rcases h.read i f a c hf ha hold with hearlier | ⟨key, hkey⟩
        · exact Or.inl hearlier
        · exact Or.inr ⟨key, hfind _ hkey⟩
      · obtain ⟨key, hkey⟩ := Getting.find?_of_step hold hread
        rw [← hpool, find?_congr hf] at hkey
        exact Or.inr ⟨key, hkey⟩
    · cases hread

private theorem Holding.runKeeping (h : Holding e s t) (hrun : t.runKeeping e ms = some u) :
    Holding e s u :=
  foldlM_invariant (Holding e s) (fun _ _ _ ht hm => ht.moveKeeping hm) h hrun

end Holding

/-- A `get` that begins now answers a connection that is filed under its endpoint at one of its
steps, and fails only because of a shutdown, or of the factory at one of its steps. -/
def AnswersFiled (s : Traffic) (e : Endpoint) : Prop :=
  ∀ ms t answer, s.run (.begin (.get e) :: ms) = some t →
    t.calls[s.calls.length]? = some (.getting e (.done answer)) →
    match answer with
    | .ok c =>
      s.During (.begin (.get e) :: ms) s.calls.length
          (fun _ _ w => ∃ key, w.pool.find? e = some (key, c)) ∧
        c.target.toAddress = e.toAddress ∧ s.pool.timesClosed c.serial = 0 ∧
        ((∃ r ∈ s.pool.channels, r.2 = c) ∨ s.pool.timesOpened c.serial = 0)
    | .error fault =>
      fault = .shuttingDown ∨
        s.During (.begin (.get e) :: ms) s.calls.length fun u reach w =>
          u.pool.find? e = none ∧ reach e = some fault ∧ w.pool = u.pool

/-- Until the connection of an endpoint is taken out, at most one is opened, and a `get` that reads
a connection reads the one that is there and answers no other. -/
def SharesOne (s : Traffic) (e : Endpoint) : Prop :=
  ∀ ms ms' t u, s.runKeeping e ms = some t → t.runKeeping e ms' = some u →
    u.pool.timesOpenedAt e.toAddress ≤ s.pool.timesOpenedAt e.toAddress + 1 ∧
    ∀ (i : Nat) (f : Endpoint) (g : Getting) c, f.toAddress = e.toAddress →
      t.calls[i]? = some (.getting f g) → g.read? = some c →
      (∀ g : Getting, s.calls[i]? = some (.getting f g) → g.read? ≠ some c) →
      (∃ key, u.pool.find? e = some (key, c)) ∧
      ∀ later v d, t.run later = some v → v.calls[i]? = some (.getting f (.done (.ok d))) → d = c

/-- Where the factory fails, the `get` fails in the same way and the pool is as it was. -/
def FailsAlone (s : Traffic) (e : Endpoint) : Prop :=
  ∀ i reach fault, s.calls[i]? = some (.getting e .opening) → s.pool.find? e = none →
    reach e = some fault →
    ∃ t, s.move (.step i reach) = some t ∧ t.pool = s.pool ∧
      ∀ later u, t.run later = some u → u.calls[i]? = some (.getting e (.done (.error fault)))

private theorem answersFiled (hs : s.Accounted) (hlabelled : s.pool.Labelled) (e : Endpoint) :
    s.AnswersFiled e := by
  intro ms t answer hrun ht
  have hnew : ∀ g, s.calls[s.calls.length]? ≠ some (.getting e g) := by simp
  cases answer with
  | ok c =>
    have hread := during_of_run (Q := fun g => g.read? = some c) (by rintro ⟨⟩)
      (fun g hg => absurd hg (hnew g)) hrun ht rfl
    have hfiled := hread.mono (Q := fun _ _ w => ∃ key, w.pool.find? e = some (key, c)) (by
      rintro u reach w ⟨a, hbefore, hafter, hpool⟩
      rw [hpool]
      exact Getting.find?_of_step hbefore hafter)
    have ⟨before, reach, after, u, w, _, hu, hw, key, hkey⟩ := hfiled
    have hsw : s.run (before ++ [.step s.calls.length reach]) = some w :=
      foldlM_trans hu (foldlM_cons_of_move hw rfl)
    have hmem : (key, c) ∈ w.pool.channels := List.mem_of_find?_eq_some hkey
    have hkept := kept_of_run hsw
    have hclosed : w.pool.timesClosed c.serial = 0 := (hs.run hsw).timesClosed_eq_zero hkey
    have hgrows := hkept.timesClosed_le c.serial
    refine ⟨hfiled, ?_, by omega, ?_⟩
    · rw [labelled_of_run hlabelled hsw _ hmem]
      exact find?_address hkey
    · rcases hkept.mem_or_new _ hmem with hold | hlate
      · exact Or.inl ⟨_, hold, rfl⟩
      · exact Or.inr ((hs.numbered c.serial).2 hlate)
  | error fault =>
    by_cases hshut : fault = .shuttingDown
    · exact Or.inl hshut
    · refine Or.inr ?_
      have hfails := during_of_run (Q := fun g => g = .done (.error fault)) (by rintro ⟨⟩)
        (fun g hg => absurd hg (hnew g)) hrun ht rfl
      refine hfails.mono ?_
      rintro u reach w ⟨a, hbefore, hafter, hpool⟩
      rw [hpool]
      exact (Getting.fault_of_step hbefore hafter).resolve_left hshut

private theorem sharesOne (hs : s.Accounted) (e : Endpoint) : s.SharesOne e := by
  intro ms ms' t u hst htu
  have ht := (Holding.refl (e := e) hs).runKeeping hst
  have hu := ht.runKeeping htu
  refine ⟨?_, ?_⟩
  · have hcount := hu.opened
    have hone := (u.pool.contains e).toNat_le
    omega
  · intro i f g c hf hg hread hfirst
    have hfind : ∃ key, t.pool.find? e = some (key, c) := by
      rcases ht.read i f g c hf hg hread with ⟨a, ha, hearlier⟩ | hthere
      · exact absurd hearlier (hfirst a ha)
      · exact hthere
    obtain ⟨key, hkey⟩ := hfind
    refine ⟨⟨key, ((Holding.refl ht.accounted).runKeeping htu).find?_eq _ hkey⟩, ?_⟩
    intro later v d hv hd
    obtain ⟨a, ha, hkeeps⟩ := getting_of_run (K := Getting.KeepsTo c)
      (fun reach e p a ha => ha.step reach e p) ⟨g, hg, Getting.keepsTo_of_read? hread⟩ hv
    cases ha.symm.trans hd
    exact hkeeps

private theorem failsAlone (s : Traffic) (e : Endpoint) : s.FailsAlone e := by
  intro i reach fault hi hnone hreach
  have hstep : Getting.opening.step reach e s.pool = (s.pool, .done (.error fault)) := by
    simp only [Getting.step, openFor, hnone, hreach]
  refine ⟨_, Option.map_eq_some_iff.mpr ⟨_, hi, rfl⟩, ?_, ?_⟩
  · simp only [Call.step_getting, hstep]
  · intro later u hrun
    refine done_of_run ?_ hrun
    simp only [Call.step_getting, hstep]
    exact List.getElem?_set_self (List.getElem?_eq_some_iff.mp hi).1

/-- However operations are interleaved, the connections of an endpoint come one after another, and
each is shared by all who get it. -/
theorem gets_share_connection {ms : List Move} {s : Traffic} (hrun : run {} ms = some s)
    (e : Endpoint) : s.AnswersFiled e ∧ s.SharesOne e ∧ s.FailsAlone e := by
  have hs : s.Accounted := accounted_empty.run hrun
  have hlabelled : s.pool.Labelled := labelled_of_run (by simp [Labelled]) hrun
  exact ⟨answersFiled hs hlabelled e, sharesOne hs e, failsAlone s e⟩

/-- Two operations that both find no connection, and look for it by records that differ in their
nodes, come to share the one that is opened. -/
theorem gets_share_connection_race :
    let reach : Reach := fun _ => none
    let e := Endpoint.ofAddress ⟨"h", 1⟩
    let f := { e with nodeId := 7 }
    let c : Connection := ⟨1, e⟩
    let race := [.begin (.get f), .step 1 reach, .step 1 reach, .step 0 reach, .step 1 reach,
      .step 0 reach, .step 1 reach]
    ∃ s t u, run {} [.begin (.get e), .step 0 reach, .step 0 reach] = some s ∧
      s.run race = some t ∧ t.pool.timesOpenedAt e.toAddress ≤ 1 ∧
      s.During race 1 (fun _ _ w => ∃ key, w.pool.find? f = some (key, c)) ∧
      (∃ key, t.pool.find? f = some (key, c)) ∧
      s.move (.step 0 fun _ => some .noEndpoints) = some u ∧ u.pool = s.pool := by
  intro reach e f c race
  have hrace : ∃ s, run {} [.begin (.get e), .step 0 reach, .step 0 reach] = some s ∧
      s.calls[0]? = some (.getting e .opening) ∧ s.pool.find? e = none ∧
      s.calls[1]? = none ∧ s.calls.length = 1 ∧ s.pool.timesOpenedAt e.toAddress = 0 ∧
      ∃ t, s.runKeeping f race = some t ∧ t.calls[1]? = some (.getting f (.done (.ok c))) :=
    ⟨_, rfl, rfl, rfl, rfl, rfl, rfl, _, rfl, rfl⟩
  obtain ⟨s, hs, hopening, hnone, hnew, hlength, hzero, t, hkeeping, hdone⟩ := hrace
  have ht : s.run race = some t := run_of_runKeeping hkeeping
  obtain ⟨hanswers, hshares, _⟩ := gets_share_connection hs f
  obtain ⟨_, _, hfails⟩ := gets_share_connection hs e
  have hanswer := hanswers _ t (.ok c) ht (by rw [hlength]; exact hdone)
  rw [hlength] at hanswer
  obtain ⟨hcount, hread⟩ := hshares race [] t t hkeeping rfl
  have hthere := hread 1 f _ c rfl hdone rfl (by simp [hnew])
  obtain ⟨u, hu, hsame, _⟩ := hfails 0 (fun _ => some .noEndpoints) .noEndpoints hopening hnone rfl
  have hone : t.pool.timesOpenedAt e.toAddress ≤ s.pool.timesOpenedAt e.toAddress + 1 := hcount
  exact ⟨s, t, u, hs, ht, by omega, hanswer.1, hthere.1, hu, hsame⟩

end Traffic

end ChannelPool

end ClusterTransport
