import ClusterTransport.EndpointPool.Pool
import ClusterTransport.Proofs.EndpointPool.Index

/-!
# What a pool finds

The entry of an endpoint after a round is the first record with its address, with the mark that it
had if that is fresh. A report marks the entries of its address and no others.
-/

namespace ClusterTransport

/-- The entry after a report of its endpoint: a mark stays as it is. -/
def PoolEntry.reported (now : Instant) (x : PoolEntry) : PoolEntry :=
  { x with pessimizedAt := x.pessimizedAt.or (some now) }

theorem PoolEntry.reported_of_isPessimized {now : Instant} {x : PoolEntry}
    (h : x.isPessimized = true) : x.reported now = x := by
  obtain ⟨r, mark⟩ := x
  cases mark with
  | none => cases h
  | some at_ => rfl

namespace EndpointSet

variable {s t : EndpointSet}

private theorem Indexed.place?_eq_some_iff (h : s.Indexed) {e : Endpoint} {i : Nat} :
    s.place? e = some i ↔ s.addresses[i]? = some e.toAddress :=
  h.address e.toAddress i

private theorem getElem?_addresses {i : Nat} {a : Address} :
    s.addresses[i]? = some a ↔ ∃ x, s.entries[i]? = some x ∧ x.record.toAddress = a := by
  simp [addresses, records]

theorem entry?_eq_bind (s : EndpointSet) (e : Endpoint) :
    s.entry? e = (s.place? e).bind fun i => s.entries[i]? := rfl

theorem Indexed.entry?_eq_some_iff (h : s.Indexed) {e : Endpoint} {x : PoolEntry} :
    s.entry? e = some x ↔ x ∈ s.entries ∧ x.record.toAddress = e.toAddress := by
  rw [entry?_eq_bind, Option.bind_eq_some_iff]
  constructor
  · rintro ⟨i, hplace, hx⟩
    obtain ⟨y, hy, haddress⟩ := getElem?_addresses.mp (h.place?_eq_some_iff.mp hplace)
    obtain rfl := Option.some.inj (hy.symm.trans hx)
    exact ⟨List.mem_of_getElem? hx, haddress⟩
  · rintro ⟨hx, haddress⟩
    obtain ⟨i, hi⟩ := List.mem_iff_getElem?.mp hx
    exact ⟨i, h.place?_eq_some_iff.mpr (getElem?_addresses.mpr ⟨x, hi, haddress⟩), hi⟩

theorem Indexed.entry?_record (h : s.Indexed) {x : PoolEntry} (hx : x ∈ s.entries) :
    s.entry? x.record = some x :=
  h.entry?_eq_some_iff.mpr ⟨hx, rfl⟩

private theorem entry?_congr {e f : Endpoint} (h : e.toAddress = f.toAddress) :
    s.entry? e = s.entry? f := by
  simp [entry?_eq_bind, place?, h]

theorem contains_congr {e f : Endpoint} (h : e.toAddress = f.toAddress) :
    s.contains e = s.contains f := by
  rw [contains, entry?_congr h, contains]

private theorem SameRound.contains_eq (h : s.SameRound t) (e : Endpoint) :
    s.contains e = t.contains e := by
  have hfound : ∀ u : EndpointSet,
      u.contains e = ((u.place? e).bind fun i => u.records[i]?).isSome := by
    intro u
    rw [contains, entry?_eq_bind]
    cases u.place? e <;> simp [EndpointSet.records]
  rw [hfound, hfound, place?, h.byAddress, h.records, place?]

theorem Indexed.isSome_place? (h : s.Indexed) (e : Endpoint) :
    (s.place? e).isSome = s.contains e := by
  cases hplace : s.place? e with
  | none => simp [contains, entry?_eq_bind, hplace]
  | some i =>
    obtain ⟨x, hx, _⟩ := getElem?_addresses.mp (h.place?_eq_some_iff.mp hplace)
    simp [contains, entry?_eq_bind, hplace, hx]

theorem mem_records {r : Endpoint} : r ∈ s.records ↔ ∃ x ∈ s.entries, x.record = r :=
  List.mem_map

theorem Indexed.contains_iff (h : s.Indexed) {e : Endpoint} :
    s.contains e = true ↔ ∃ r ∈ s.records, r.toAddress = e.toAddress := by
  rw [contains, Option.isSome_iff_exists]
  constructor
  · rintro ⟨x, hx⟩
    obtain ⟨hmem, haddress⟩ := h.entry?_eq_some_iff.mp hx
    exact ⟨x.record, mem_records.mpr ⟨x, hmem, rfl⟩, haddress⟩
  · rintro ⟨r, hr, haddress⟩
    obtain ⟨x, hx, rfl⟩ := mem_records.mp hr
    exact ⟨x, h.entry?_eq_some_iff.mpr ⟨hx, haddress⟩⟩

theorem Indexed.nodup_addresses (h : s.Indexed) : s.addresses.Nodup := by
  refine List.pairwise_iff_getElem.mpr ?_
  intro i j hi hj hij hsame
  have hfirst := (h.address s.addresses[j] i).mpr (hsame ▸ List.getElem?_eq_getElem hi)
  have hsecond := (h.address s.addresses[j] j).mpr (List.getElem?_eq_getElem hj)
  have hplace : i = j := Option.some.inj (hfirst.symm.trans hsecond)
  omega

section Rounds

variable (mark : Endpoint → Option Instant)

theorem Indexed.entry?_add (h : s.Indexed) (e f : Endpoint) (m : Option Instant) :
    entry? (s.add e m) f =
      (s.entry? f).or (if e.toAddress = f.toAddress then some ⟨e, m⟩ else none) := by
  cases hplace : s.place? e with
  | some i =>
    have hlisted : (s.place? e).isSome = true := by rw [hplace]; rfl
    rw [add_of_place? m hlisted]
    by_cases hsame : e.toAddress = f.toAddress
    · obtain ⟨x, hx⟩ := Option.isSome_iff_exists.mp ((h.isSome_place? e).symm.trans hlisted)
      rw [← entry?_congr hsame, hx, Option.some_or]
    · rw [if_neg hsame, Option.or_none]
  | none =>
    have hadded := h.add e m
    rcases hfound : s.entry? f with _ | x
    · rw [Option.none_or]
      split
      next hsame =>
        refine hadded.entry?_eq_some_iff.mpr ⟨?_, hsame⟩
        simp [entries_add m hplace]
      next hother =>
        refine Option.eq_none_iff_forall_ne_some.mpr ?_
        intro y hy
        obtain ⟨hmem, haddress⟩ := hadded.entry?_eq_some_iff.mp hy
        rw [entries_add m hplace] at hmem
        rcases List.mem_append.mp hmem with hold | hnew
        · cases hfound.symm.trans (h.entry?_eq_some_iff.mpr ⟨hold, haddress⟩)
        · obtain rfl := List.mem_singleton.mp hnew
          exact hother haddress
    · obtain ⟨hmem, haddress⟩ := h.entry?_eq_some_iff.mp hfound
      rw [Option.some_or]
      refine hadded.entry?_eq_some_iff.mpr ⟨?_, haddress⟩
      rw [entries_add m hplace]
      exact List.mem_append_left _ hmem

private theorem Indexed.foldl_add (h : s.Indexed) (records : List Endpoint) :
    (records.foldl (fun s e => s.add e (mark e)) s).Indexed := by
  induction records generalizing s with
  | nil => exact h
  | cons e records ih => exact ih (h.add e (mark e))

/-- Of the records with one address the first counts, and none if the address is listed. -/
theorem Indexed.entry?_foldl_add (h : s.Indexed) (records : List Endpoint) (f : Endpoint) :
    entry? (records.foldl (fun s e => s.add e (mark e)) s) f =
      (s.entry? f).or
        ((records.find? fun e => e.toAddress = f.toAddress).map fun e => ⟨e, mark e⟩) := by
  induction records generalizing s with
  | nil => simp
  | cons e records ih =>
    rw [List.foldl_cons, ih (h.add e (mark e)), h.entry?_add, Option.or_assoc]
    by_cases hsame : e.toAddress = f.toAddress <;> simp [hsame]

private theorem pessimized_foldl_add (records : List Endpoint) (h : s.pessimized = s.marked) :
    (records.foldl (fun s e => s.add e (mark e)) s).pessimized =
      (records.foldl (fun s e => s.add e (mark e)) s).marked := by
  induction records generalizing s with
  | nil => exact h
  | cons e records ih =>
    have hadded : (s.add e (mark e)).pessimized = (s.add e (mark e)).marked := by
      cases hplace : s.place? e with
      | some i =>
        rw [add_of_place? (mark e) (by rw [hplace]; rfl)]
        exact h
      | none => rw [pessimized_add (mark e) hplace, marked_add (mark e) hplace, h]
    exact ih hadded

end Rounds

variable (old : EndpointSet) (now : Instant) (ttl : Span) (selfLocation : String)
  (records : List Endpoint)

theorem indexed_ofRound : (old.ofRound now ttl selfLocation records).Indexed :=
  (indexed_empty selfLocation).foldl_add (old.freshMark now ttl) records

theorem pessimized_ofRound :
    (old.ofRound now ttl selfLocation records).pessimized =
      (old.ofRound now ttl selfLocation records).marked :=
  pessimized_foldl_add (old.freshMark now ttl) records rfl

private theorem entry?_ofRound (f : Endpoint) :
    entry? (old.ofRound now ttl selfLocation records) f =
      (records.find? fun e => e.toAddress = f.toAddress).map
        fun e => ⟨e, old.freshMark now ttl e⟩ := by
  rw [ofRound, Indexed.entry?_foldl_add _ (indexed_empty selfLocation)]
  rfl

theorem contains_ofRound (f : Endpoint) :
    (old.ofRound now ttl selfLocation records).contains f = true ↔
      ∃ e ∈ records, e.toAddress = f.toAddress := by
  rw [contains, entry?_ofRound]
  simp

variable {now} {i : Nat} {e f : Endpoint}

private theorem markAt_cases (s : EndpointSet) (now : Instant) (i : Nat) :
    ((∀ x, s.entries[i]? = some x → x.isPessimized = true) ∧ s.markAt now i = (s, false)) ∨
    ∃ x, s.entries[i]? = some x ∧ x.isPessimized = false ∧
      s.markAt now i = ({ s with entries := s.entries.set i (x.reported now) }, true) := by
  unfold markAt
  cases hx : s.entries[i]? with
  | none => simp
  | some x =>
    cases hmark : x.pessimizedAt <;> simp [PoolEntry.isPessimized, PoolEntry.reported, hmark]

theorem marked_markAt (s : EndpointSet) (now : Instant) (i : Nat) :
    (s.markAt now i).1.marked = s.marked + (s.markAt now i).2.toNat := by
  rcases s.markAt_cases now i with ⟨_, hsame⟩ | ⟨x, hx, hunmarked, hmarks⟩
  · rw [hsame]
    rfl
  · have hcount := countP_set_add PoolEntry.isPessimized (x.reported now) hx
    have hreported : (x.reported now).isPessimized = true := by
      simp [PoolEntry.reported, PoolEntry.isPessimized]
    rw [hunmarked, hreported] at hcount
    rw [hmarks]
    exact hcount

theorem pessimized_markAt (s : EndpointSet) (now : Instant) (i : Nat) :
    (s.markAt now i).1.pessimized = s.pessimized := by
  rcases s.markAt_cases now i with ⟨_, hsame⟩ | ⟨x, _, _, hmarks⟩
  · rw [hsame]
  · rw [hmarks]

theorem getElem?_entries_markAt (s : EndpointSet) (now : Instant) (i j : Nat) :
    (s.markAt now i).1.entries[j]? =
      if i = j then s.entries[j]?.map (PoolEntry.reported now) else s.entries[j]? := by
  rcases s.markAt_cases now i with ⟨hmarked, hsame⟩ | ⟨x, hx, _, hmarks⟩
  · rw [hsame]
    split
    next hij =>
      subst hij
      cases hx : s.entries[i]? with
      | none => rfl
      | some x => rw [Option.map_some, x.reported_of_isPessimized (hmarked x hx)]
    next => rfl
  · rw [hmarks]
    split
    next hij =>
      subst hij
      obtain ⟨hi, _⟩ := List.getElem?_eq_some_iff.mp hx
      rw [hx, List.getElem?_set_self hi]
      rfl
    next hij => exact List.getElem?_set_ne hij

private theorem Indexed.entry?_markAt (h : s.Indexed) (hplace : s.place? e = some i) (now : Instant)
    (f : Endpoint) :
    entry? (s.markAt now i).1 f =
      if e.toAddress = f.toAddress then (s.entry? f).map (PoolEntry.reported now)
      else s.entry? f := by
  have hplaces : (s.markAt now i).1.place? f = s.place? f :=
    congrArg (List.lookup f.toAddress) (s.sameRound_markAt now i).byAddress
  rw [entry?_eq_bind, hplaces, entry?_eq_bind]
  simp only [getElem?_entries_markAt]
  cases hf : s.place? f with
  | none => simp
  | some j =>
    have hij : i = j ↔ e.toAddress = f.toAddress := by
      have hi := h.place?_eq_some_iff.mp hplace
      have hj := h.place?_eq_some_iff.mp hf
      constructor
      · rintro rfl
        exact Option.some.inj (hi.symm.trans hj)
      · intro hsame
        rw [hsame, ← h.address, h.address] at hi
        exact Option.some.inj ((h.place?_eq_some_iff.mpr hi).symm.trans hf)
    simp [hij]

theorem mark_of_place? (now : Instant) (h : s.place? e = some i) :
    s.mark now e = s.markAt now i := by
  rw [mark, h]

theorem mark_of_place?_eq_none (now : Instant) (h : s.place? e = none) :
    s.mark now e = (s, false) := by
  rw [mark, h]

private theorem Indexed.entry?_pessimize (h : s.Indexed) (now : Instant) (e f : Endpoint) :
    entry? (s.pessimize now e) f =
      if e.toAddress = f.toAddress then (s.entry? f).map (PoolEntry.reported now)
      else s.entry? f := by
  have hmark : entry? (s.pessimize now e) f = entry? (s.mark now e).1 f := by
    simp only [pessimize]
    split <;> rfl
  rw [hmark]
  cases hplace : s.place? e with
  | some i =>
    rw [mark_of_place? now hplace]
    exact h.entry?_markAt hplace now f
  | none =>
    have hnone : s.entry? e = none := by simp [entry?_eq_bind, hplace]
    rw [mark_of_place?_eq_none now hplace]
    split
    next hsame =>
      rw [← entry?_congr hsame, hnone]
      rfl
    next => rfl

theorem Indexed.pessimize (h : s.Indexed) (now : Instant) (e : Endpoint) :
    (s.pessimize now e).Indexed :=
  (s.sameRound_pessimize now e).indexed h

theorem pessimized_pessimize (h : s.pessimized = s.marked) (now : Instant) (e : Endpoint) :
    (s.pessimize now e).pessimized = (s.pessimize now e).marked := by
  simp only [EndpointSet.pessimize]
  cases hplace : s.place? e with
  | none =>
    rw [mark_of_place?_eq_none now hplace]
    exact h
  | some i =>
    have hcount := s.marked_markAt now i
    have hbefore := s.pessimized_markAt now i
    rw [mark_of_place? now hplace]
    cases hflag : (s.markAt now i).2 with
    | true =>
      rw [hflag] at hcount
      have hcounted : (s.markAt now i).1.countMark.pessimized = s.pessimized + 1 :=
        congrArg (· + 1) hbefore
      rw [if_pos rfl, hcounted, h]
      exact hcount.symm
    | false =>
      rw [hflag] at hcount
      rw [if_neg Bool.false_ne_true, hbefore, hcount, h]
      rfl

theorem contains_pessimize (s : EndpointSet) (now : Instant) (e f : Endpoint) :
    (s.pessimize now e).contains f = s.contains f :=
  (s.sameRound_pessimize now e).contains_eq f

end EndpointSet

namespace EndpointPool

variable {p : EndpointPool}

def markOf (p : EndpointPool) (e : Endpoint) : Option Instant :=
  (p.health e).join

theorem health_isSome (p : EndpointPool) (e : Endpoint) :
    (p.health e).isSome = p.current.contains e := by
  simp [health, EndpointSet.contains]

/-- After a round the endpoints that it lists are known, with the marks that are fresh. -/
theorem health_adopt (p : EndpointPool) (now : Instant) (selfLocation : String)
    {records : List Endpoint} (hrecords : records ≠ []) (e : Endpoint) :
    (p.adopt now selfLocation records).1.health e =
      if ∃ r ∈ records, r.toAddress = e.toAddress then
        some ((p.markOf e).filter fun at_ => now - at_ < Span.seconds p.pessimization.ttl.toNat)
      else none := by
  have hempty : records.isEmpty = false := by simpa using hrecords
  have hnext : (p.adopt now selfLocation records).1.health e =
      (EndpointSet.entry? (p.current.ofRound now (Span.seconds p.pessimization.ttl.toNat)
        selfLocation records) e).map PoolEntry.pessimizedAt := by
    simp [adopt, hempty, health]
  rw [hnext, EndpointSet.entry?_ofRound]
  cases hfind : records.find? fun r => r.toAddress = e.toAddress with
  | none =>
    have hall : ∀ r ∈ records, ¬ r.toAddress = e.toAddress := by simpa using hfind
    rw [if_neg (by simpa using hall)]
    rfl
  | some r =>
    have hsame : r.toAddress = e.toAddress := by simpa using List.find?_some hfind
    rw [if_pos ⟨r, List.mem_of_find?_eq_some hfind, hsame⟩]
    have hmark : (p.current.entry? r).bind PoolEntry.pessimizedAt = p.markOf e := by
      rw [EndpointSet.entry?_congr hsame, markOf, health]
      cases p.current.entry? e <;> rfl
    simp [EndpointSet.freshMark, hmark]

theorem health_pessimize (h : p.current.Indexed) (now : Instant) (e f : Endpoint) :
    (p.pessimize now e).health f =
      if e.toAddress = f.toAddress then (p.health f).map fun mark => mark.or (some now)
      else p.health f := by
  rw [health, pessimize, h.entry?_pessimize, health]
  split
  next =>
    rw [Option.map_map, Option.map_map]
    rfl
  next => rfl

end EndpointPool

end ClusterTransport
