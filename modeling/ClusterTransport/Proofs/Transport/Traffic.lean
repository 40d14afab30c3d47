import ClusterTransport.Proofs.ChannelPool.Sparing
import ClusterTransport.Proofs.EndpointPool.History
import ClusterTransport.Proofs.Transport.Activity
import ClusterTransport.Transport.Preparation

/-!
# Rounds among calls

A transport on which one round after another is adopted while any number of calls are prepared, each
of which selects an endpoint and then gets its connection, and while calls report how they ended.
The sweep of a round visits keys in any order, and perhaps some that come late.
-/

namespace ClusterTransport

open ChannelPool (Shed hasSerial)

theorem Evicting.done_or_not (o : Evicting) :
    (∃ count, o = done count) ∨ ∀ count, o ≠ done count := by
  cases o <;> simp

namespace Adopting

def inHand : Adopting → Option (Endpoint × Connection)
  | removing o => o.inHand
  | pruning o => o.inHand
  | _ => none

def Spares (listed : Endpoint → Bool) : Adopting → Prop
  | removing o => o.Spares listed
  | pruning o => o.Spares listed
  | _ => True

private theorem contains_of_mem_adopt {p : EndpointPool} {now : Instant} {selfLocation : String}
    {records : List Endpoint} {e : Endpoint} (h : e ∈ (p.adopt now selfLocation records).2) :
    (p.adopt now selfLocation records).1.current.contains e = false := by
  by_cases hrecords : records = []
  · rw [hrecords] at h
    cases h
  · rw [EndpointPool.current_adopt p now selfLocation hrecords]
    have hempty : records.isEmpty = false := by simpa using hrecords
    simp only [EndpointPool.adopt, hempty, Bool.false_eq_true, if_false,
      EndpointSet.missingFrom] at h
    have hnone := (List.mem_filter.mp h).2
    rw [← (EndpointSet.indexed_ofRound ..).isSome_place?]
    simpa using hnone

variable {t : Transport} {now : Instant}

theorem step_removing {o : Evicting} (h : ∀ count, o ≠ .done count) :
    (removing o).step now t =
      ({ t with channels := (o.step t.channels).1 }, removing (o.step t.channels).2) := by
  cases o with
  | done count => exact absurd rfl (h count)
  | _ => rfl

theorem step_pruning {o : Evicting} (h : ∀ count, o ≠ .done count) :
    (pruning o).step now t =
      ({ t with channels := (o.step t.channels).1 }, pruning (o.step t.channels).2) := by
  cases o with
  | done count => exact absurd rfl (h count)
  | _ => rfl

theorem Spares.step {o : Adopting} (h : o.Spares t.endpoints.current.contains) (now : Instant) :
    Shed t.endpoints.current.contains t.channels o.inHand (o.step now t).1.channels
        (o.step now t).2.inHand ∧
      (o.step now t).2.Spares (o.step now t).1.endpoints.current.contains := by
  have hlisted : ∀ e f : Endpoint, e.toAddress = f.toAddress →
      t.endpoints.current.contains e = t.endpoints.current.contains f :=
    fun _ _ => EndpointSet.contains_congr
  cases o with
  | begun result =>
    simp only [Adopting.step]
    split <;> exact ⟨.nothing, trivial⟩
  | replacing result => exact ⟨.nothing, fun _ => contains_of_mem_adopt⟩
  | removing o =>
    rcases o.done_or_not with ⟨count, rfl⟩ | hbusy
    · exact ⟨.nothing, fun _ => rfl⟩
    · rw [step_removing hbusy]
      exact Evicting.Spares.step hlisted h t.channels
  | pruning o =>
    rcases o.done_or_not with ⟨count, rfl⟩ | hbusy
    · exact ⟨.nothing, trivial⟩
    · rw [step_pruning hbusy]
      exact Evicting.Spares.step hlisted h t.channels
  | signalling => exact ⟨.nothing, trivial⟩
  | done => exact ⟨.nothing, trivial⟩

end Adopting

namespace Preparing

def isOrdinary : Preparing → Bool
  | connecting _ g => g.isOrdinary
  | _ => true

/-- While the channels are not shut down a call leaves the endpoints alone, and the channels too
unless it files a connection. -/
theorem step_ordinary {t u : Transport} {v : View} {c next : Preparing}
    (hopen : t.channels.isShutdown = false) (h : c.isOrdinary = true)
    (hstep : c.step t v = some (u, next)) :
    next.isOrdinary = true ∧ u.endpoints = t.endpoints ∧
      (u.channels = t.channels ∨
        ∃ e, t.channels.find? e = none ∧ u.channels = t.channels.file e) := by
  cases c with
  | begun =>
    simp only [step] at hstep
    split at hstep <;> cases hstep <;> exact ⟨rfl, rfl, Or.inl rfl⟩
  | entering =>
    cases hstep
    refine ⟨?_, rfl, Or.inl rfl⟩
    split <;> rfl
  | arriving =>
    cases hstep
    exact ⟨rfl, rfl, Or.inl rfl⟩
  | waiting w =>
    cases w with
    | «over» opened =>
      cases opened <;> cases hstep <;> exact ⟨rfl, rfl, Or.inl rfl⟩
    | «until» deadline =>
      simp only [step] at hstep
      split at hstep <;> cases hstep
      exact ⟨rfl, rfl, Or.inl rfl⟩
  | refused =>
    cases hstep
    exact ⟨rfl, rfl, Or.inl rfl⟩
  | timing =>
    cases hstep
    refine ⟨?_, rfl, Or.inl rfl⟩
    split <;> rfl
  | selecting =>
    simp only [step] at hstep
    split at hstep <;> cases hstep <;> exact ⟨rfl, rfl, Or.inl rfl⟩
  | connecting e g =>
    by_cases hdone : ∃ answer, g = .done answer
    · obtain ⟨answer, rfl⟩ := hdone
      cases hstep
      exact ⟨rfl, rfl, Or.inl rfl⟩
    · rw [step_connecting fun answer hg => hdone ⟨answer, hg⟩] at hstep
      cases hstep
      obtain ⟨hnext, hchannels⟩ := Getting.step_ordinary v.reach e hopen h
      exact ⟨hnext, rfl, hchannels.imp_right fun hfiles => ⟨e, hfiles⟩⟩
  | done result => cases hstep

end Preparing

namespace Transport

/-- A transport with the round that is being adopted and the calls that are being prepared. -/
structure Traffic where
  transport : Transport
  round : Adopting := .done
  calls : List Preparing := []

namespace Traffic

inductive Move where
  /-- The handler begins with a result; it is done with the one before. -/
  | beginRound (result : DiscoveryResult)
  | stepRound (now : Instant)
  | reroute (ahead : List Endpoint)
  | prepare
  /-- A call begins with the selection of its endpoint. -/
  | target
  | stepCall (i : Nat) (v : Preparing.View)
  | report (now : Instant) (e : Endpoint) (status : Status)

def Move.beginsRound : Move → Bool
  | beginRound _ => true
  | _ => false

def Move.isOfCall : Move → Bool
  | stepCall _ _ => true
  | _ => false

/-- Makes one move; `none` if it cannot be made. A sweep may be rerouted past a key only while
nothing is filed under it. -/
def move (s : Traffic) : Move → Option Traffic
  | .beginRound result =>
    if s.round.isDone then some { s with round := .begun result } else none
  | .stepRound now =>
    let r := s.round.step now s.transport
    some { s with transport := r.1, round := r.2 }
  | .reroute ahead =>
    match s.round with
    | .pruning (.visiting keep old found) =>
      if ∀ k ∈ old, s.transport.channels.contains k = true → k ∈ ahead then
        some { s with round := .pruning (.visiting keep ahead found) }
      else none
    | _ => none
  | .prepare => some { s with calls := s.calls ++ [.begun] }
  | .target => some { s with calls := s.calls ++ [.selecting] }
  | .stepCall i v =>
    s.calls[i]?.bind fun c =>
      (c.step s.transport v).map fun r => { s with transport := r.1, calls := s.calls.set i r.2 }
  | .report now e status => some { s with transport := s.transport.report now e status }

def run (s : Traffic) (ms : List Move) : Option Traffic :=
  ms.foldlM move s

def channels (s : Traffic) : ChannelPool :=
  s.transport.channels

def endpoints (s : Traffic) : EndpointSet :=
  s.transport.endpoints.current

structure InOrder (s : Traffic) : Prop where
  running : s.channels.isShutdown = false
  distinct : s.channels.Distinct
  numbered : s.channels.Numbered
  /-- Every connection that was opened is filed, or closed, or the round has it in hand. -/
  balance : ∀ n, s.channels.timesOpened n = s.channels.timesFiled n + s.channels.timesClosed n +
    (s.round.inHand.any (hasSerial n)).toNat
  spares : s.round.Spares s.endpoints.contains
  ordinary : ∀ c ∈ s.calls, c.isOrdinary = true

/-- A move that begins no round lets one take a step or changes its sweep, or files a connection
for a call, or leaves the channels as they are. -/
inductive Next (s : Traffic) : Traffic → Prop where
  | stepRound (now : Instant) :
      Next s { s with
        transport := (s.round.step now s.transport).1
        round := (s.round.step now s.transport).2 }
  | reroute (keep : Endpoint → Bool) (old ahead found : List Endpoint)
      (hround : s.round = .pruning (.visiting keep old found))
      (h : ∀ k ∈ old, s.channels.contains k = true → k ∈ ahead) :
      Next s { s with round := .pruning (.visiting keep ahead found) }
  | file (u : Transport) (calls : List Preparing) (e : Endpoint)
      (hendpoints : u.endpoints = s.transport.endpoints) (hnone : s.channels.find? e = none)
      (hchannels : u.channels = s.channels.file e)
      (hcalls : ∀ c ∈ calls, c.isOrdinary = true) : Next s { s with transport := u, calls }
  | use (u : Transport) (calls : List Preparing)
      (hendpoints : ∀ e, u.endpoints.current.contains e = s.endpoints.contains e)
      (hchannels : u.channels = s.channels)
      (hcalls : ∀ c ∈ calls, c.isOrdinary = true) : Next s { s with transport := u, calls }

variable {s t : Traffic}

theorem InOrder.next_of_move (h : s.InOrder) {m : Move} (hbegins : m.beginsRound = false)
    (hm : s.move m = some t) : s.Next t := by
  cases m with
  | beginRound result => cases hbegins
  | stepRound now =>
    cases hm
    exact .stepRound now
  | reroute ahead =>
    simp only [move] at hm
    split at hm
    next keep old found hround =>
      split at hm
      next hall =>
        cases hm
        exact .reroute keep old ahead found hround hall
      next => cases hm
    next => cases hm
  | prepare =>
    cases hm
    exact .use _ _ (fun _ => rfl) rfl
      (List.forall_mem_append.mpr ⟨h.ordinary, List.forall_mem_singleton.mpr rfl⟩)
  | target =>
    cases hm
    exact .use _ _ (fun _ => rfl) rfl
      (List.forall_mem_append.mpr ⟨h.ordinary, List.forall_mem_singleton.mpr rfl⟩)
  | stepCall i v =>
    obtain ⟨c, hc, hmap⟩ := Option.bind_eq_some_iff.mp hm
    obtain ⟨⟨u, next⟩, hstep, heq⟩ := Option.map_eq_some_iff.mp hmap
    cases heq
    obtain ⟨hnext, hendpoints, hchannels⟩ :=
      Preparing.step_ordinary h.running (h.ordinary c (List.mem_of_getElem? hc)) hstep
    have hcalls := forall_mem_set (i := i) h.ordinary hnext
    rcases hchannels with hsame | ⟨e, hnone, hfiles⟩
    · exact .use u _ (fun e => by rw [hendpoints]; rfl) hsame hcalls
    · exact .file u _ e hendpoints hnone hfiles hcalls
  | report now e status =>
    cases hm
    refine .use _ s.calls ?_ ?_ h.ordinary
    · intro f
      simp only [report]
      split
      next => rfl
      next => exact EndpointSet.contains_pessimize _ now e f
    · simp only [report]
      split <;> rfl

theorem inOrder_of_start {c : Config} {hasExecutor : Bool} {transport : Transport}
    (h : Transport.start c hasExecutor = .ok transport) : InOrder { transport } := by
  have hchannels : transport.channels = {} := by
    unfold Transport.start at h
    split at h
    next => cases h
    next =>
      cases h
      rfl
  have hnew := ChannelPool.Traffic.accounted_empty
  refine ⟨?_, ?_, ?_, ?_, trivial, by simp⟩
  all_goals simp only [channels, hchannels]
  · exact hnew.distinct
  · exact hnew.numbered
  · exact hnew.balance

private theorem InOrder.stepRound (h : s.InOrder) (now : Instant) :
    InOrder { s with
      transport := (s.round.step now s.transport).1
      round := (s.round.step now s.transport).2 } := by
  obtain ⟨hshed, hspares⟩ := h.spares.step now
  have heffect := hshed.effect
  refine ⟨?_, heffect.distinct h.distinct, heffect.numbered h.numbered, ?_, hspares, h.ordinary⟩
  · exact (heffect.isShutdown_eq (by simp)).trans h.running
  · intro n
    have hstep := heffect.balance n
    have hbefore := h.balance n
    simp only [channels] at hbefore ⊢
    omega

theorem InOrder.begin (h : s.InOrder) {result : DiscoveryResult}
    (hm : s.move (.beginRound result) = some t) :
    t = { s with round := .begun result } ∧ t.InOrder := by
  simp only [Traffic.move] at hm
  split at hm
  next hdone =>
    cases hm
    have hround := Adopting.eq_done_of_isDone hdone
    refine ⟨rfl, h.running, h.distinct, h.numbered, ?_, trivial, h.ordinary⟩
    intro n
    have hbefore := h.balance n
    rw [hround] at hbefore
    exact hbefore
  next => cases hm

theorem InOrder.next (h : s.InOrder) (hn : s.Next t) : t.InOrder := by
  cases hn with
  | stepRound now => exact h.stepRound now
  | reroute keep old ahead found hround hall =>
    have hspares := h.spares
    have hbalance := h.balance
    rw [hround] at hspares hbalance
    exact ⟨h.running, h.distinct, h.numbered, hbalance, hspares, h.ordinary⟩
  | file u calls e hendpoints hnone hchannels hcalls =>
    refine ⟨?_, ?_, ?_, ?_, ?_, hcalls⟩
    all_goals simp only [channels, endpoints, hchannels, hendpoints]
    · exact h.running
    · exact h.distinct.file hnone
    · exact h.numbered.file e
    · intro n
      have hbefore := h.balance n
      simp only [channels] at hbefore
      simp only [ChannelPool.timesOpened_file, ChannelPool.timesFiled_file,
        ChannelPool.timesClosed_file]
      omega
    · exact h.spares
  | use u calls hendpoints hchannels hcalls =>
    have hsame : u.endpoints.current.contains = s.endpoints.contains := funext hendpoints
    refine ⟨?_, ?_, ?_, ?_, ?_, hcalls⟩
    all_goals simp only [channels, endpoints, hchannels, hsame]
    · exact h.running
    · exact h.distinct
    · exact h.numbered
    · exact h.balance
    · exact h.spares

theorem InOrder.move {m : Move} (h : s.InOrder) (hm : s.move m = some t) : t.InOrder := by
  cases hbegins : m.beginsRound with
  | true =>
    cases m with
    | beginRound result => exact (h.begin hm).2
    | _ => cases hbegins
  | false => exact h.next (h.next_of_move hbegins hm)

theorem InOrder.run {ms : List Move} (h : s.InOrder) (hrun : s.run ms = some t) : t.InOrder :=
  foldlM_invariant InOrder (fun _ _ _ hs hm => hs.move hm) h hrun

end Traffic

end Transport

end ClusterTransport
