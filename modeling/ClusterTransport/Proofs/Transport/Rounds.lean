import ClusterTransport.Proofs.Transport.Traffic

/-!
# What a round closes

A round first closes the connections of the endpoints that went with it, and then sweeps. Calls go
on meanwhile, and one that selected its endpoint before an earlier round may open a connection that
no list of gone endpoints names. The sweep finds it, in this round or in the next.
-/

namespace ClusterTransport

open ChannelPool (Kept Shed hasSerial)

def DiscoveryResult.lists (result : DiscoveryResult) (e : Endpoint) : Bool :=
  result.endpoints.any fun r => r.toAddress = e.toAddress

private theorem DiscoveryResult.lists_congr (result : DiscoveryResult) {e f : Endpoint}
    (h : e.toAddress = f.toAddress) : result.lists e = result.lists f := by
  simp only [lists, h]

private theorem EndpointSet.contains_ofRound_eq_lists (old : EndpointSet) (now : Instant)
    (ttl : Span)
    (result : DiscoveryResult) (e : Endpoint) :
    (old.ofRound now ttl result.selfLocation result.endpoints).contains e = result.lists e := by
  rw [Bool.eq_iff_iff, contains_ofRound]
  simp [DiscoveryResult.lists]

namespace Adopting

/-- The round has this result, and once it has replaced the endpoints they are those of the
result. -/
def IsOf (result : DiscoveryResult) (current : EndpointSet) : Adopting → Prop
  | begun r => r = result
  | replacing r => r = result
  | _ => ∀ e, current.contains e = result.lists e

def beginsSweep : Adopting → Bool
  | pruning (.surveying _) => true
  | _ => false

private theorem exists_keep_of_beginsSweep {o : Adopting} (h : o.beginsSweep = true) :
    ∃ keep, o = pruning (.surveying keep) := by
  unfold beginsSweep at h
  split at h
  next keep => exact ⟨keep, rfl⟩
  next => cases h

/-- The round is bound to take out what is filed under an address that its result does not list. -/
def Clears (a : Address) : Adopting → Prop
  | pruning o => o.Clears a
  | signalling => False
  | done => False
  | _ => True

variable {t : Transport} {o : Adopting} {result : DiscoveryResult}

private theorem IsOf.shed (h : o.IsOf result t.endpoints.current)
    (hspares : o.Spares t.endpoints.current.contains) (now : Instant) :
    Shed result.lists t.channels o.inHand (o.step now t).1.channels (o.step now t).2.inHand := by
  have hstep := (hspares.step now).1
  cases o with
  | begun r =>
    simp only [Adopting.step]
    split <;> exact .nothing
  | replacing r => exact .nothing
  | removing o => exact funext h ▸ hstep
  | pruning o => exact funext h ▸ hstep
  | signalling => exact .nothing
  | done => exact .nothing

section Step

variable (hresult : result.endpoints ≠ []) (hopen : t.channels.isShutdown = false)
include hresult hopen

private theorem step_begun (now : Instant) :
    (begun result).step now t = (t, replacing result) := by
  simp [step, hresult, hopen]

theorem IsOf.step (h : o.IsOf result t.endpoints.current) (now : Instant) :
    (o.step now t).2.IsOf result (o.step now t).1.endpoints.current := by
  cases o with
  | begun r =>
    have hr : r = result := h
    subst hr
    rw [step_begun hresult hopen]
    rfl
  | replacing r =>
    have hr : r = result := h
    subst hr
    intro e
    have hcurrent := EndpointPool.current_adopt t.endpoints now r.selfLocation hresult
    simp only [Adopting.step, hcurrent]
    exact EndpointSet.contains_ofRound_eq_lists ..
  | removing o =>
    rcases o.done_or_not with ⟨count, rfl⟩ | hbusy
    · exact h
    · rw [step_removing hbusy]
      exact h
  | pruning o =>
    rcases o.done_or_not with ⟨count, rfl⟩ | hbusy
    · exact h
    · rw [step_pruning hbusy]
      exact h
  | signalling => exact h
  | done => exact h

theorem Clears.step {r : Endpoint × Connection} (h : o.Clears r.1.toAddress)
    (hof : o.IsOf result t.endpoints.current) (hdistinct : t.channels.Distinct)
    (hr : result.lists r.1 = false) (now : Instant)
    (hfiled : r ∈ (o.step now t).1.channels.channels) :
    (o.step now t).2.Clears r.1.toAddress := by
  cases o with
  | begun q =>
    have hq : q = result := hof
    subst hq
    rw [step_begun hresult hopen]
    trivial
  | replacing q => trivial
  | removing o =>
    rcases o.done_or_not with ⟨count, rfl⟩ | hbusy
    · -- the sweep begins, and by now it goes by the endpoints of the result
      intro e he
      rw [hof e, result.lists_congr he, hr]
    · rw [step_removing hbusy]
      trivial
  | pruning o =>
    rcases o.done_or_not with ⟨count, rfl⟩ | hbusy
    · exact False.elim h
    · rw [step_pruning hbusy] at hfiled ⊢
      exact Evicting.Clears.step hdistinct h hfiled rfl
  | signalling => exact False.elim h
  | done => exact False.elim h

end Step

end Adopting

namespace Transport.Traffic

variable {s t u : Traffic} {result : DiscoveryResult} {r : Endpoint × Connection}

private theorem InOrder.serial_le (h : s.InOrder) (hr : r ∈ s.channels.channels) :
    r.2.serial ≤ s.channels.opened := by
  refine Nat.le_of_not_lt fun hlater => ?_
  have hzero := (h.numbered r.2.serial).2 hlater
  have hfiled := ChannelPool.timesFiled_pos hr
  have hbalance := h.balance r.2.serial
  omega

private theorem InOrder.eq_of_serial_eq (h : s.InOrder) {q : Endpoint × Connection}
    (hr : r ∈ s.channels.channels) (hq : q ∈ s.channels.channels)
    (hserial : q.2.serial = r.2.serial) : q = r := by
  have hle : s.channels.timesFiled r.2.serial ≤ 1 := by
    have hbalance := h.balance r.2.serial
    have hopened := (h.numbered r.2.serial).1
    omega
  exact eq_of_countP_le_one hle hq hr (by simp [hasSerial, hserial]) (by simp [hasSerial])

/-- A connection that is filed no more was closed once, unless the round still has it in hand. -/
theorem InOrder.timesClosed_eq_one {listed : Endpoint → Bool} (h : s.InOrder) (ht : t.InOrder)
    (hkept : Kept listed s.channels t.channels) (hdone : t.round = .done)
    (hr : r ∈ s.channels.channels) (hgone : r ∉ t.channels.channels) :
    t.channels.timesClosed r.2.serial = 1 := by
  have hopened : 1 ≤ s.channels.timesOpened r.2.serial := by
    have hfiled := ChannelPool.timesFiled_pos hr
    have hbalance := h.balance r.2.serial
    omega
  have hzero : t.channels.timesFiled r.2.serial = 0 := by
    refine List.countP_eq_zero.mpr fun q hq hserial => ?_
    have hserial : q.2.serial = r.2.serial := by simpa [hasSerial] using hserial
    rcases hkept.mem_or_new q hq with hold | hnew
    · exact hgone (h.eq_of_serial_eq hr hold hserial ▸ hq)
    · have hle := h.serial_le hr
      omega
  have hmore := hkept.timesOpened_le r.2.serial
  have hatmost := (ht.numbered r.2.serial).1
  have hbalance := ht.balance r.2.serial
  rw [hdone] at hbalance
  simp only [Adopting.inHand, Option.any_none, Bool.toNat_false] at hbalance
  omega

/-- What holds while a round is adopted, and from then until another one begins. -/
structure InRound (result : DiscoveryResult) (s : Traffic) : Prop extends s.InOrder where
  isOf : s.round.IsOf result s.endpoints

private theorem InRound.kept (h : s.InRound result) (hn : s.Next t) :
    Kept result.lists s.channels t.channels := by
  cases hn with
  | stepRound now => exact (h.isOf.shed h.spares now).kept fun _ _ => result.lists_congr
  | reroute keep old ahead found hround hall => exact .refl _
  | file u calls e hendpoints hnone hchannels hcalls =>
    simp only [channels, hchannels]
    exact .file _ e
  | use u calls hendpoints hchannels hcalls =>
    simp only [channels, hchannels]
    exact .refl _

theorem InRound.opened_of_move (h : s.InRound result) {m : Move} (hm : s.move m = some t)
    (hcall : m.isOfCall = false) : t.channels.opened = s.channels.opened := by
  cases m with
  | stepRound now =>
    cases hm
    exact (h.isOf.shed h.spares now).opened_eq
  | stepCall i v => cases hcall
  | report now e status =>
    cases hm
    simp only [channels, report]
    split <;> rfl
  | beginRound result =>
    simp only [move] at hm
    split at hm <;> cases hm
    rfl
  | reroute ahead =>
    simp only [move] at hm
    split at hm
    next =>
      split at hm <;> cases hm
      rfl
    next => cases hm
  | _ =>
    cases hm
    rfl

private theorem InRound.contains_of_done (h : s.InRound result) (hdone : s.round = .done)
    (e : Endpoint) : s.endpoints.contains e = result.lists e := by
  have hof := h.isOf
  rw [hdone] at hof
  exact hof e

/-- When its sweep begins the round is bound to take out whatever is filed and not listed. -/
theorem InRound.clears_of_beginsSweep (h : s.InRound result)
    (hsweep : s.round.beginsSweep = true) (hr : result.lists r.1 = false) :
    s.round.Clears r.1.toAddress := by
  obtain ⟨keep, hround⟩ := Adopting.exists_keep_of_beginsSweep hsweep
  have hspares := h.spares
  have hof := h.isOf
  rw [hround] at hspares hof ⊢
  intro e he
  rw [hspares e, hof e, result.lists_congr he, hr]

section Nonempty

variable (hresult : result.endpoints ≠ [])
include hresult

private theorem InRound.next (h : s.InRound result) (hn : s.Next t) : t.InRound result := by
  refine ⟨h.toInOrder.next hn, ?_⟩
  have hof := h.isOf
  cases hn with
  | stepRound now => exact hof.step hresult h.running now
  | reroute keep old ahead found hround hall =>
    rw [hround] at hof
    exact hof
  | file u calls e hendpoints hnone hchannels hcalls =>
    simp only [endpoints, hendpoints]
    exact hof
  | use u calls hendpoints hchannels hcalls =>
    have hsame : ∀ o : Adopting, o.IsOf result s.endpoints →
        o.IsOf result u.endpoints.current := by
      intro o ho
      cases o with
      | begun q => exact ho
      | replacing q => exact ho
      | _ => exact fun e => (hendpoints e).trans (ho e)
    exact hsame _ hof

private theorem InRound.clears_next (h : s.InRound result) (hn : s.Next t)
    (hclears : s.round.Clears r.1.toAddress) (hr : result.lists r.1 = false)
    (hbefore : r ∈ s.channels.channels) (hfiled : r ∈ t.channels.channels) :
    t.round.Clears r.1.toAddress := by
  cases hn with
  | stepRound now => exact hclears.step hresult h.running h.isOf h.distinct hr now hfiled
  | reroute keep old ahead found hround hall =>
    rw [hround] at hclears
    exact Evicting.Clears.reroute hclears hall hbefore rfl
  | file u calls e hendpoints hnone hchannels hcalls => exact hclears
  | use u calls hendpoints hchannels hcalls => exact hclears

variable {ms : List Move} (hone : ∀ m ∈ ms, m.beginsRound = false)
include hone

theorem InRound.run (h : s.InRound result) (hrun : s.run ms = some t) :
    t.InRound result ∧ Kept result.lists s.channels t.channels := by
  refine foldlM_invariant_of_forall (fun m => m.beginsRound = false)
    (fun u => u.InRound result ∧ Kept result.lists s.channels u.channels) ?_ hone
    ⟨h, .refl _⟩ hrun
  rintro u m w hm ⟨hu, hkept⟩ hmove
  have hn := hu.next_of_move hm hmove
  exact ⟨hu.next hresult hn, hkept.trans (hu.kept hn)⟩

private theorem InRound.not_mem_of_clears (h : s.InRound result) (hrun : s.run ms = some t)
    (hdone : t.round = .done) (hclears : s.round.Clears r.1.toAddress)
    (hr : result.lists r.1 = false) (hfiled : r ∈ s.channels.channels) :
    r ∉ t.channels.channels := by
  have hbound : t.InRound result ∧ r.2.serial ≤ t.channels.opened ∧
      (r ∈ t.channels.channels → t.round.Clears r.1.toAddress) := by
    refine foldlM_invariant_of_forall (fun m => m.beginsRound = false)
      (fun u => u.InRound result ∧ r.2.serial ≤ u.channels.opened ∧
        (r ∈ u.channels.channels → u.round.Clears r.1.toAddress)) ?_ hone
      ⟨h, h.serial_le hfiled, fun _ => hclears⟩ hrun
    rintro u m w hm ⟨hu, hserial, hbound⟩ hmove
    have hn := hu.next_of_move hm hmove
    have hkept := hu.kept hn
    refine ⟨hu.next hresult hn, Nat.le_trans hserial hkept.opened_le, fun hw => ?_⟩
    rcases hkept.mem_or_new r hw with hold | hnew
    · exact hu.clears_next hresult hn (hbound hold) hr hold hw
    · exact absurd hserial (Nat.not_le_of_lt hnew)
  intro hstill
  have hleft := hbound.2.2 hstill
  rw [hdone] at hleft
  exact hleft

private theorem InRound.closed_of_clears (h : s.InRound result) (hrun : s.run ms = some t)
    (hdone : t.round = .done) (hclears : s.round.Clears r.1.toAddress)
    (hr : result.lists r.1 = false) (hfiled : r ∈ s.channels.channels) :
    r ∉ t.channels.channels ∧ t.channels.timesClosed r.2.serial = 1 := by
  have hgone := h.not_mem_of_clears hresult hone hrun hdone hclears hr hfiled
  obtain ⟨ht, hkept⟩ := h.run hresult hone hrun
  exact ⟨hgone, h.timesClosed_eq_one ht.toInOrder hkept hdone hfiled hgone⟩

/-! While no call takes a step. -/

variable (hquiet : ∀ m ∈ ms, m.isOfCall = false)
include hquiet

theorem InRound.mem_of_mem_run (h : s.InRound result) (hrun : s.run ms = some t)
    (hr : r ∈ t.channels.channels) : r ∈ s.channels.channels := by
  have hopened : t.InRound result ∧ t.channels.opened = s.channels.opened := by
    refine foldlM_invariant_of_forall (fun m => m.beginsRound = false ∧ m.isOfCall = false)
      (fun u => u.InRound result ∧ u.channels.opened = s.channels.opened) ?_
      (fun m hm => ⟨hone m hm, hquiet m hm⟩) ⟨h, rfl⟩ hrun
    rintro u m w ⟨hbegins, hcall⟩ ⟨hu, hopened⟩ hmove
    exact ⟨hu.next hresult (hu.next_of_move hbegins hmove),
      (hu.opened_of_move hmove hcall).trans hopened⟩
  have hkept := (h.run hresult hone hrun).2
  rcases hkept.mem_or_new r hr with hold | hnew
  · exact hold
  · have hserial := hopened.1.serial_le hr
    omega

/-- A listed endpoint has the very connection that it had, or still none. -/
theorem InRound.find?_of_run (h : s.InRound result) (hrun : s.run ms = some t) {e : Endpoint}
    (he : result.lists e = true) : t.channels.find? e = s.channels.find? e := by
  obtain ⟨ht, hkept⟩ := h.run hresult hone hrun
  refine Option.ext fun r => ?_
  rw [ht.distinct.find?_eq_some_iff, h.distinct.find?_eq_some_iff]
  refine and_congr_left fun haddress => ⟨?_, ?_⟩
  · exact h.mem_of_mem_run hresult hone hquiet hrun
  · intro hr
    exact hkept.mem_of_listed r hr ((result.lists_congr haddress).trans he)

private theorem InRound.lists_of_mem_keys (h : s.InRound result) (hrun : s.run ms = some t)
    (hdone : t.round = .done) (hclears : ∀ a, s.round.Clears a) {key : Endpoint}
    (hkey : key ∈ t.channels.keys) : result.lists key = true := by
  obtain ⟨r, hr, rfl⟩ := List.mem_map.mp hkey
  have hfiled := h.mem_of_mem_run hresult hone hquiet hrun hr
  cases hlisted : result.lists r.1 with
  | true => rfl
  | false =>
    exact absurd hr (h.not_mem_of_clears hresult hone hrun hdone (hclears _) hlisted hfiled)

end Nonempty

private theorem InOrder.inRound_of_begin (h : s.InOrder)
    (hm : s.move (.beginRound result) = some t) :
    t.InRound result ∧ t.channels = s.channels ∧ t.round = .begun result := by
  obtain ⟨rfl, hnext⟩ := h.begin hm
  exact ⟨⟨hnext, rfl⟩, rfl, rfl⟩

/-- From the beginning of a round with endpoints until the next round begins, no connection of an
endpoint that the round lists is closed, and those that were filed stay. When the round is done its
endpoints are the known ones. Of the connections that were filed when its sweep began, those of
endpoints that it does not list are gone, each closed once. If no call takes a step meanwhile, the
connections that are left are all of known endpoints, and the listed ones have the connections that
they had. -/
theorem round_keeps_pools_in_step {c : Config} {hasExecutor : Bool} {transport : Transport}
    {before during : List Move} (hstart : Transport.start c hasExecutor = .ok transport)
    (hbefore : run { transport } before = some s) (hresult : result.endpoints ≠ [])
    (hone : ∀ m ∈ during, m.beginsRound = false)
    (hrun : s.run (.beginRound result :: during) = some t) :
    (∃ new, t.channels.journal = new ++ s.channels.journal ∧
      ∀ n key, .closed n key ∈ new → result.lists key = false) ∧
    (∀ r ∈ s.channels.channels, result.lists r.1 = true → r ∈ t.channels.channels) ∧
    (t.round = .done →
      (∀ e, t.endpoints.contains e = result.lists e) ∧
      (∀ first rest u, during = first ++ rest →
        s.run (.beginRound result :: first) = some u → u.round.beginsSweep = true →
        ∀ r ∈ u.channels.channels, result.lists r.1 = false →
          r ∉ t.channels.channels ∧ t.channels.timesClosed r.2.serial = 1) ∧
      ((∀ m ∈ during, m.isOfCall = false) →
        (∀ key ∈ t.channels.keys, t.endpoints.contains key = true) ∧
        ∀ e, result.lists e = true → t.channels.find? e = s.channels.find? e)) := by
  have hs : s.InOrder := (inOrder_of_start hstart).run hbefore
  obtain ⟨v, hbegin, hduring⟩ := exists_move_of_foldlM_cons hrun
  obtain ⟨hv, hchannels, hbegun⟩ := hs.inRound_of_begin hbegin
  obtain ⟨ht, hkept⟩ := hv.run hresult hone hduring
  rw [hchannels] at hkept
  refine ⟨hkept.journal, hkept.mem_of_listed, fun hdone => ?_⟩
  refine ⟨ht.contains_of_done hdone, ?_, ?_⟩
  · rintro first rest u rfl hfirst hsweep r hr hunlisted
    obtain ⟨v', hbegin', hbefore⟩ := exists_move_of_foldlM_cons hfirst
    obtain rfl := Option.some.inj (hbegin.symm.trans hbegin')
    obtain ⟨hfirsts, hrests⟩ := List.forall_mem_append.mp hone
    have hu := (hv.run hresult hfirsts hbefore).1
    have hafter : u.run rest = some t := foldlM_of_append hduring hbefore
    exact hu.closed_of_clears hresult hrests hafter hdone
      (hu.clears_of_beginsSweep hsweep hunlisted) hunlisted hr
  · intro hquiet
    have hclears : ∀ a, v.round.Clears a := by
      rw [hbegun]
      exact fun _ => trivial
    refine ⟨?_, ?_⟩
    · intro key hkey
      rw [ht.contains_of_done hdone]
      exact hv.lists_of_mem_keys hresult hone hquiet hduring hdone hclears hkey
    · intro e he
      rw [hv.find?_of_run hresult hone hquiet hduring he, hchannels]

/-- A call selects an endpoint that the next round drops, and opens its connection when the round
after that has closed the connections of what went with it and is to sweep. -/
theorem round_keeps_pools_in_step_late_call :
    let a := Endpoint.ofAddress ⟨"h", 1⟩
    let b := Endpoint.ofAddress ⟨"h", 2⟩
    let result : DiscoveryResult := { endpoints := [a] }
    let v : Preparing.View :=
      { settings := { preferred := some b }, reach := fun _ => none,
        words := { next := fun _ => 0 }, now := 0, markTime := 0 }
    let adoption : List Move := List.replicate 10 (.stepRound 0)
    let before := .beginRound { endpoints := [a, b] } :: adoption ++ [.target, .stepCall 0 v] ++
      .beginRound result :: adoption
    let first := List.replicate 4 (.stepRound 0) ++ List.replicate 4 (.stepCall 0 v)
    let rest := List.replicate 8 (.stepRound 0)
    ∃ transport s t, Transport.start {} true = .ok transport ∧ run { transport } before = some s ∧
      s.run (.beginRound result :: (first ++ rest)) = some t ∧ t.round = .done ∧
      t.endpoints.contains a = true ∧ t.endpoints.contains b = false ∧
      (b, ⟨1, b⟩) ∉ t.channels.channels ∧ t.channels.timesClosed 1 = 1 := by
  intro a b result v adoption before first rest
  obtain ⟨transport, hstart⟩ : ∃ transport, Transport.start {} true = .ok transport := ⟨_, rfl⟩
  have hruns : ((run { transport } before).bind fun s =>
      (s.run (.beginRound result :: first)).bind fun u => (u.run rest).map fun t =>
        (u.round.beginsSweep, u.channels.channels, t.round.isDone)) =
          some (true, [(b, ⟨1, b⟩)], true) := by
    cases hstart
    decide +kernel
  simp only [Option.bind_eq_some_iff, Option.map_eq_some_iff, Prod.mk.injEq] at hruns
  obtain ⟨s, hs, u, hu, t, ht, hsweep, hchannels, hdone⟩ := hruns
  have hwhole : s.run (.beginRound result :: (first ++ rest)) = some t := foldlM_trans hu ht
  have hround : t.round = .done := Adopting.eq_done_of_isDone hdone
  have hone : ∀ m ∈ first ++ rest, m.beginsRound = false := by
    simp [first, rest, Move.beginsRound]
  obtain ⟨_, _, hend⟩ := round_keeps_pools_in_step hstart hs (by simp [result]) hone hwhole
  obtain ⟨hknown, hswept, _⟩ := hend hround
  obtain ⟨hgone, hclosed⟩ := hswept first rest u rfl hu hsweep (b, ⟨1, b⟩) (by simp [hchannels])
    (by decide +kernel)
  exact ⟨transport, s, t, hstart, hs, hwhole, hround, (hknown a).trans (by decide +kernel),
    (hknown b).trans (by decide +kernel), hgone, hclosed⟩

end Transport.Traffic

end ClusterTransport
