import ClusterTransport.Proofs.EndpointPool.LiveMarks
import ClusterTransport.Proofs.EndpointPool.Reports

/-!
# Reports that have returned

In any set a mark stays as it is once it is set, whatever reports and rounds go on. When a report
returns its endpoint is marked, or was not listed, and rounds renew the mark while it is fresh.
-/

namespace ClusterTransport

namespace EndpointSet

/-- The same round with more marks. -/
structure Later (s t : EndpointSet) : Prop where
  sameRound : t.SameRound s
  marked : ∀ (i : Nat) (x : PoolEntry), s.entries[i]? = some x → x.isPessimized = true →
    t.entries[i]? = some x

def Avoids (s : EndpointSet) (e : Endpoint) : Prop :=
  ∀ x, s.entry? e = some x → x.isPessimized = true

variable {s t u : EndpointSet} {e : Endpoint}

theorem Later.refl (s : EndpointSet) : s.Later s :=
  ⟨.refl s, fun _ _ hx _ => hx⟩

theorem Later.trans (h : s.Later t) (h' : t.Later u) : s.Later u where
  sameRound := h'.sameRound.trans h.sameRound
  marked i x hx hmarked := h'.marked i x (h.marked i x hx hmarked) hmarked

private theorem later_markAt (s : EndpointSet) (now : Instant) (i : Nat) :
    s.Later (s.markAt now i).1 where
  sameRound := s.sameRound_markAt now i
  marked j x hx hmarked := by
    rw [getElem?_entries_markAt, hx]
    split
    next => rw [Option.map_some, x.reported_of_isPessimized hmarked]
    next => rfl

private theorem Later.place?_eq (h : s.Later t) (e : Endpoint) : t.place? e = s.place? e :=
  congrArg (List.lookup e.toAddress) h.sameRound.byAddress

theorem Later.size_eq (h : s.Later t) : t.size = s.size := by
  rw [← length_records, h.sameRound.records, length_records]

private theorem Later.entry?_of_isPessimized (h : s.Later t) {x : PoolEntry}
    (hx : s.entry? e = some x)
    (hmarked : x.isPessimized = true) : t.entry? e = some x := by
  rw [entry?_eq_bind, Option.bind_eq_some_iff] at hx
  obtain ⟨i, hplace, hx⟩ := hx
  rw [entry?_eq_bind, h.place?_eq, hplace]
  exact h.marked i x hx hmarked

theorem Later.unmarked (h : s.Later t) {i : Nat} {y : PoolEntry} (hy : t.entries[i]? = some y)
    (hunmarked : y.isPessimized = false) :
    ∃ x, s.entries[i]? = some x ∧ x.record = y.record ∧ x.isPessimized = false := by
  have hrecord : s.records[i]? = some y.record := by
    rw [← h.sameRound.records, records, List.getElem?_map, hy]
    rfl
  obtain ⟨x, hx, hsame⟩ := Option.map_eq_some_iff.mp (List.getElem?_map.symm.trans hrecord)
  refine ⟨x, hx, hsame, ?_⟩
  cases hmark : x.isPessimized with
  | false => rfl
  | true =>
    obtain rfl := Option.some.inj ((h.marked i x hx hmark).symm.trans hy)
    exact hmark.symm.trans hunmarked

private theorem Later.avoids (h : s.Later t) (he : s.Avoids e) : t.Avoids e := by
  intro y hy
  cases hmark : y.isPessimized with
  | true => rfl
  | false =>
    rw [entry?_eq_bind, Option.bind_eq_some_iff] at hy
    obtain ⟨i, hplace, hy⟩ := hy
    obtain ⟨x, hx, _, hunmarked⟩ := h.unmarked hy hmark
    have hentry : s.entry? e = some x := by
      rw [entry?_eq_bind, ← h.place?_eq, hplace]
      exact hx
    exact hunmarked.symm.trans (he x hentry)

end EndpointSet

theorem EndpointPool.avoids_iff {p : EndpointPool} {e : Endpoint} :
    p.current.Avoids e ↔ p.health e ≠ some none := by
  constructor
  · intro h hhealth
    obtain ⟨x, hx, hmark⟩ := Option.map_eq_some_iff.mp hhealth
    have hset := h x hx
    rw [PoolEntry.isPessimized, hmark] at hset
    cases hset
  · intro h x hx
    cases hmark : x.pessimizedAt with
    | none => exact absurd (Option.map_eq_some_iff.mpr ⟨x, hx, hmark⟩) h
    | some at_ => rw [PoolEntry.isPessimized, hmark]; rfl

namespace Reporting

variable {s t : EndpointSet} {e : Endpoint} {r : Reporting}

theorem later_step (now : Instant) (s : EndpointSet) (r : Reporting) :
    s.Later (r.step now s).1 := by
  cases r with
  | begun e =>
    simp only [step]
    split <;> exact .refl s
  | found place => exact s.later_markAt now place
  | counting => exact ⟨⟨rfl, rfl, rfl, rfl⟩, fun _ _ hx _ => hx⟩
  | done => exact .refl s

/-- The report is of an endpoint: what it has found is the place of the endpoint, and it counts a
mark only when the endpoint has one. -/
def IsOf (s : EndpointSet) (e : Endpoint) : Reporting → Prop
  | begun f => f = e
  | found place => s.place? e = some place
  | counting => s.Avoids e
  | done => True

private theorem IsOf.later (hlater : s.Later t) (h : r.IsOf s e) : r.IsOf t e := by
  cases r with
  | begun f => exact h
  | found place => exact (hlater.place?_eq e).trans h
  | counting => exact hlater.avoids h
  | done => trivial

private theorem avoids_markAt {place : Nat} (hplace : s.place? e = some place) (now : Instant) :
    (s.markAt now place).1.Avoids e := by
  intro x hx
  rw [EndpointSet.entry?_eq_bind, (s.later_markAt now place).place?_eq, hplace, Option.bind_some,
    EndpointSet.getElem?_entries_markAt, if_pos rfl] at hx
  obtain ⟨y, _, rfl⟩ := Option.map_eq_some_iff.mp hx
  cases hmark : y.pessimizedAt <;> simp [PoolEntry.reported, PoolEntry.isPessimized, hmark]

theorem IsOf.step (h : r.IsOf s e) (now : Instant) :
    (r.step now s).2.IsOf (r.step now s).1 e := by
  cases r with
  | begun f =>
    obtain rfl : f = e := h
    simp only [Reporting.step]
    split
    next => trivial
    next place hplace => exact hplace
  | found place =>
    simp only [Reporting.step]
    split
    next => exact avoids_markAt h now
    next => trivial
  | counting => trivial
  | done => trivial

private theorem IsOf.avoids (h : r.IsOf s e) {now : Instant} (hbusy : r ≠ done)
    (hdone : (r.step now s).2 = done) : (r.step now s).1.Avoids e := by
  cases r with
  | begun f =>
    obtain rfl : f = e := h
    simp only [Reporting.step] at hdone ⊢
    split at hdone
    next hplace =>
      intro x hx
      rw [EndpointSet.entry?_eq_bind, hplace] at hx
      cases hx
    next => cases hdone
  | found place => exact avoids_markAt h now
  | counting => exact h
  | done => exact absurd rfl hbusy

end Reporting

namespace Reports

def reported (ms : List Move) : List Endpoint :=
  ms.filterMap fun
    | .report e => some e
    | _ => none

def rounds (ms : List Move) : List PoolEvent :=
  ms.filterMap fun
    | .round now selfLocation records => some (.round now selfLocation records)
    | _ => none

/-- With the last move of a run from a new pool a report of the endpoint returns. -/
def Returns (pool : EndpointPool) (ms : List Move) (e : Endpoint) (s : Reports) : Prop :=
  ∃ before i now t, ms = before ++ [.stepReport i now] ∧ run { pool } before = some t ∧
    (reported before)[i]? = some e ∧ (∃ r, t.reports[i]? = some r ∧ r ≠ .done) ∧
    t.move (.stepReport i now) = some s ∧ s.reports[i]? = some .done

variable {s t : Reports} {m : Move} {e : Endpoint}

private theorem move_round_cases {now : Instant} {selfLocation : String} {records : List Endpoint}
    (h : s.move (.round now selfLocation records) = some t) :
    (records = [] ∧ t = s) ∨
      records ≠ [] ∧ s.reports.any Reporting.holdsLock = false ∧
        t = { s with
          pool := (s.pool.adopt now selfLocation records).1
          replaced := s.replaced ++ [s.pool.current] } := by
  simp only [Reports.move] at h
  split at h
  next hrecords => exact Or.inl ⟨by simpa using hrecords, (Option.some.inj h).symm⟩
  next hrecords =>
    split at h
    next => cases h
    next hlock =>
      exact Or.inr ⟨by simpa using hrecords, by simpa using hlock, (Option.some.inj h).symm⟩

theorem exists_later_of_move (h : s.move m = some t) {generation : Nat} {set : EndpointSet}
    (hset : s.sets[generation]? = some set) :
    ∃ later, t.sets[generation]? = some later ∧ set.Later later := by
  cases m with
  | round now selfLocation records =>
    obtain ⟨_, rfl⟩ | ⟨_, _, rfl⟩ := move_round_cases h
    · exact ⟨set, hset, .refl set⟩
    · refine ⟨set, ?_, .refl set⟩
      exact List.getElem?_append_left (List.getElem?_eq_some_iff.mp hset).1 ▸ hset
  | report e =>
    cases h
    exact ⟨set, hset, .refl set⟩
  | stepReport i now =>
    obtain ⟨r, hr, rfl⟩ := Option.map_eq_some_iff.mp h
    rcases getElem?_concat_eq_some_iff.mp hset with hold | ⟨hplace, rfl⟩
    · exact ⟨set, getElem?_concat_eq_some_iff.mpr (Or.inl hold), .refl set⟩
    · exact ⟨_, getElem?_concat_eq_some_iff.mpr (Or.inr ⟨hplace, rfl⟩), r.later_step now _⟩
  | read =>
    cases h
    exact ⟨set, hset, .refl set⟩
  | stepRead i =>
    obtain ⟨r, hr, rfl⟩ := Option.map_eq_some_iff.mp h
    exact ⟨set, hset, .refl set⟩

/-- Every report is of the endpoint that it was begun with. -/
structure Reported (es : List Endpoint) (s : Reports) : Prop where
  indexed : s.pool.current.Indexed
  length : s.reports.length = es.length
  isOf : ∀ (i : Nat) (r : Reporting) (e : Endpoint), s.reports[i]? = some r → es[i]? = some e →
    r.IsOf s.pool.current e

private theorem reported_new {pool : EndpointPool} (h : pool.current.Indexed) :
    Reported [] { pool } where
  indexed := h
  length := rfl
  isOf := by simp

private theorem Reported.round {es : List Endpoint} (h : Reported es s) {now : Instant}
    {selfLocation : String} {records : List Endpoint} (hrecords : records ≠ [])
    (hlock : s.reports.any Reporting.holdsLock = false) :
    Reported es { s with
      pool := (s.pool.adopt now selfLocation records).1
      replaced := s.replaced ++ [s.pool.current] } where
  indexed := by
    rw [EndpointPool.current_adopt s.pool now selfLocation hrecords]
    exact EndpointSet.indexed_ofRound ..
  length := h.length
  isOf i r e hr he := by
    have hfree := List.any_eq_false.mp hlock r (List.mem_of_getElem? hr)
    cases r with
    | begun f => exact h.isOf i _ e hr he
    | found place => exact absurd rfl hfree
    | counting => exact absurd rfl hfree
    | done => trivial

private theorem Reported.report {es : List Endpoint} (h : Reported es s) (e : Endpoint) :
    Reported (es ++ [e]) { s with reports := s.reports ++ [.begun e] } where
  indexed := h.indexed
  length := by simp [h.length]
  isOf i r f hr hf := by
    rcases getElem?_concat_eq_some_iff.mp hr with hr | ⟨hi, rfl⟩
    · have hlt := (List.getElem?_eq_some_iff.mp hr).1
      rw [List.getElem?_append_left (h.length ▸ hlt)] at hf
      exact h.isOf i r f hr hf
    · rw [hi, h.length, List.getElem?_concat_length] at hf
      exact Option.some.inj hf

private theorem Reported.stepReport {es : List Endpoint} (h : Reported es s) {i : Nat}
    {r : Reporting}
    (now : Instant) (hr : s.reports[i]? = some r) :
    Reported es { s with
      pool := { s.pool with current := (r.step now s.pool.current).1 }
      reports := s.reports.set i (r.step now s.pool.current).2 } where
  indexed := (r.later_step now s.pool.current).sameRound.indexed h.indexed
  length := by simp [h.length]
  isOf j q e hq he := by
    by_cases hij : i = j
    · subst hij
      rw [List.getElem?_set_self (List.getElem?_eq_some_iff.mp hr).1] at hq
      cases hq
      exact (h.isOf i r e hr he).step now
    · rw [List.getElem?_set_ne hij] at hq
      exact (h.isOf j q e hq he).later (r.later_step now s.pool.current)

theorem Reported.move {ms : List Move} (h : Reported (reported ms) s) (hm : s.move m = some t) :
    Reported (reported (ms ++ [m])) t := by
  rw [reported, List.filterMap_append, ← reported]
  cases m with
  | report e =>
    cases hm
    exact h.report e
  | round now selfLocation records =>
    simp only [List.filterMap_cons, List.filterMap_nil, List.append_nil]
    obtain ⟨_, rfl⟩ | ⟨hrecords, hlock, rfl⟩ := move_round_cases hm
    · exact h
    · exact h.round hrecords hlock
  | stepReport i now =>
    simp only [List.filterMap_cons, List.filterMap_nil, List.append_nil]
    obtain ⟨r, hr, rfl⟩ := Option.map_eq_some_iff.mp hm
    exact h.stepReport now hr
  | read =>
    simp only [List.filterMap_cons, List.filterMap_nil, List.append_nil]
    cases hm
    exact ⟨h.indexed, h.length, h.isOf⟩
  | stepRead i =>
    simp only [List.filterMap_cons, List.filterMap_nil, List.append_nil]
    obtain ⟨r, hr, rfl⟩ := Option.map_eq_some_iff.mp hm
    exact ⟨h.indexed, h.length, h.isOf⟩

theorem reported_run {pool : EndpointPool} (h : pool.current.Indexed) {ms : List Move}
    (hrun : run { pool } ms = some s) : Reported (reported ms) s :=
  foldlM_induction (fun ms s => Reported (reported ms) s) (reported_new h)
    (fun _ _ _ _ _ hkept hm => hkept.move hm) hrun

theorem Returns.run_eq {pool : EndpointPool} {ms : List Move} (h : Returns pool ms e s) :
    run { pool } ms = some s := by
  obtain ⟨before, i, now, t, rfl, hrun, _, _, hmove, _⟩ := h
  exact foldlM_trans hrun (foldlM_cons_of_move hmove rfl)

/-- When a report returns, its endpoint is marked, or was not listed. -/
theorem Returns.avoids {pool : EndpointPool} (h : pool.current.Indexed) {ms : List Move}
    (hreturns : Returns pool ms e s) : s.pool.current.Avoids e := by
  obtain ⟨before, i, now, t, rfl, hrun, he, ⟨r, hr, hbusy⟩, hmove, hdone⟩ := hreturns
  obtain ⟨q, hq, rfl⟩ := Option.map_eq_some_iff.mp hmove
  obtain rfl := Option.some.inj (hq.symm.trans hr)
  rw [List.getElem?_set_self (List.getElem?_eq_some_iff.mp hr).1] at hdone
  exact ((reported_run h hrun).isOf i q e hr he).avoids hbusy (Option.some.inj hdone)

private theorem health_later {p : EndpointPool} {later : EndpointSet} {at_ : Instant}
    (h : p.current.Later later) (hhealth : p.health e = some (some at_)) :
    EndpointPool.health { p with current := later } e = some (some at_) := by
  obtain ⟨x, hx, hmark⟩ := Option.map_eq_some_iff.mp hhealth
  have hmarked : x.isPessimized = true := by rw [PoolEntry.isPessimized, hmark]; rfl
  exact Option.map_eq_some_iff.mpr ⟨x, h.entry?_of_isPessimized hx hmarked, hmark⟩

/-- A move keeps a mark, unless it is a round that does not renew it. -/
theorem health_of_move {at_ : Instant} (hhealth : s.pool.health e = some (some at_))
    (hrenews : EndpointPool.Renews (Span.seconds s.pool.pessimization.ttl.toNat) e at_ (rounds [m]))
    (hm : s.move m = some t) : t.pool.health e = some (some at_) := by
  cases m with
  | round now selfLocation records =>
    obtain ⟨_, rfl⟩ | ⟨hrecords, _, rfl⟩ := move_round_cases hm
    · exact hhealth
    · obtain ⟨hlists, hfresh⟩ := (EndpointPool.renews_round hrecords).mp hrenews
      dsimp only
      rw [EndpointPool.health_adopt s.pool now selfLocation hrecords, if_pos hlists,
        EndpointPool.markOf_eq_some_iff.mpr hhealth]
      simpa using hfresh
  | report f =>
    cases hm
    exact hhealth
  | stepReport i now =>
    obtain ⟨r, hr, rfl⟩ := Option.map_eq_some_iff.mp hm
    exact health_later (r.later_step now s.pool.current) hhealth
  | read =>
    cases hm
    exact hhealth
  | stepRead i =>
    obtain ⟨r, hr, rfl⟩ := Option.map_eq_some_iff.mp hm
    exact hhealth

theorem pessimization_of_move (hm : s.move m = some t) :
    t.pool.pessimization = s.pool.pessimization := by
  cases m with
  | round now selfLocation records =>
    obtain ⟨_, rfl⟩ | ⟨_, _, rfl⟩ := move_round_cases hm
    · rfl
    · exact (EndpointPool.settings_after s.pool [.round now selfLocation records]).2
  | report f =>
    cases hm
    rfl
  | stepReport i now =>
    obtain ⟨r, hr, rfl⟩ := Option.map_eq_some_iff.mp hm
    rfl
  | read =>
    cases hm
    rfl
  | stepRead i =>
    obtain ⟨r, hr, rfl⟩ := Option.map_eq_some_iff.mp hm
    rfl

theorem pessimization_of_run {ms : List Move} (hrun : s.run ms = some t) :
    t.pool.pessimization = s.pool.pessimization :=
  foldlM_invariant (fun u : Reports => u.pool.pessimization = s.pool.pessimization)
    (fun _ _ _ hu hm => (pessimization_of_move hm).trans hu) rfl hrun

private theorem mem_rounds {event : PoolEvent} {ms : List Move} :
    event ∈ rounds ms ↔ ∃ m ∈ ms, event ∈ rounds [m] := by
  simp only [rounds, List.mem_filterMap, List.mem_singleton, exists_eq_left]

theorem health_of_run {at_ : Instant} {ms : List Move} (hhealth : s.pool.health e = some (some at_))
    (hrenews : EndpointPool.Renews (Span.seconds s.pool.pessimization.ttl.toNat) e at_ (rounds ms))
    (hrun : s.run ms = some t) : t.pool.health e = some (some at_) := by
  have hkept := foldlM_invariant_of_forall
    (fun m => EndpointPool.Renews (Span.seconds s.pool.pessimization.ttl.toNat) e at_ (rounds [m]))
    (fun u : Reports => u.pool.health e = some (some at_) ∧
      u.pool.pessimization = s.pool.pessimization)
    (fun u m v hallowed hu hm => ⟨health_of_move hu.1 (hu.2 ▸ hallowed) hm,
      (pessimization_of_move hm).trans hu.2⟩)
    (fun m hm now selfLocation records hround =>
      hrenews now selfLocation records (mem_rounds.mpr ⟨m, hm, hround⟩))
    ⟨hhealth, rfl⟩ hrun
  exact hkept.1

end Reports

end ClusterTransport
