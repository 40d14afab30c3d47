import ClusterTransport.Proofs.EndpointPool.History

/-!
# Departures

What a round makes of the records of a pool and what it answers as gone. Over a history an endpoint
is answered as gone once for each time that it entered, unless it is still there.
-/

namespace ClusterTransport

namespace EndpointSet

variable {s : EndpointSet}

private theorem Indexed.contains_add (h : s.Indexed) (e : Endpoint) (mark : Option Instant)
    (f : Endpoint) : (s.add e mark).contains f = (e.same f || s.contains f) := by
  rw [contains, h.entry?_add, contains, Bool.eq_iff_iff, Bool.or_eq_true, Endpoint.same_iff]
  cases s.entry? f <;> simp

private theorem Indexed.records_foldl_add (h : s.Indexed) (mark : Endpoint → Option Instant)
    (records : List Endpoint) :
    (records.foldl (fun s e => s.add e (mark e)) s).records =
      s.records ++ (records.filter fun e => !s.contains e).eraseDupsBy Endpoint.same := by
  induction records generalizing s with
  | nil => simp
  | cons e records ih =>
    rw [List.foldl_cons, ih (h.add e (mark e))]
    cases hlisted : s.contains e with
    | true =>
      have hplace : (s.place? e).isSome = true := (h.isSome_place? e).trans hlisted
      rw [add_of_place? (mark e) hplace, List.filter_cons_of_neg (by simp [hlisted])]
    | false =>
      have hplace : s.place? e = none := by
        simpa [hlisted] using h.isSome_place? e
      have hrest : records.filter (fun f => !(s.add e (mark e)).contains f) =
          (records.filter fun f => !s.contains f).filter fun f => f.same e = false := by
        rw [List.filter_filter]
        refine List.filter_congr fun f _ => ?_
        rw [h.contains_add, Endpoint.same_comm e f]
        cases f.same e <;> simp
      rw [records_add (mark e) hplace, List.filter_cons_of_pos (by simp [hlisted]),
        List.eraseDupsBy_cons, hrest, List.append_assoc, List.singleton_append]

private theorem records_ofRound (old : EndpointSet) (now : Instant) (ttl : Span)
    (selfLocation : String)
    (records : List Endpoint) :
    (old.ofRound now ttl selfLocation records).records = records.eraseDupsBy Endpoint.same := by
  have hnew : records.filter (fun e => !({ selfLocation } : EndpointSet).contains e) = records :=
    List.filter_eq_self.mpr fun _ _ => rfl
  have hadded := (indexed_empty selfLocation).records_foldl_add (old.freshMark now ttl) records
  rw [hnew] at hadded
  exact hadded

/-- Of an old set exactly the records whose address the round does not list are missing. -/
theorem missingFrom_ofRound (old : EndpointSet) (now : Instant) (ttl : Span) (selfLocation : String)
    (records : List Endpoint) :
    old.missingFrom (old.ofRound now ttl selfLocation records) =
      old.records.filter fun e => !records.any e.same := by
  refine List.filter_congr fun e _ => ?_
  have hlisted : (old.ofRound now ttl selfLocation records).contains e = records.any e.same := by
    rw [Bool.eq_iff_iff, contains_ofRound, List.any_eq_true]
    simp only [Endpoint.same_comm e, Endpoint.same_iff]
  rw [← hlisted, ← (indexed_ofRound ..).isSome_place? e]
  cases (old.ofRound now ttl selfLocation records).place? e <;> rfl

private theorem Indexed.countP_same_records (h : s.Indexed) (e : Endpoint) :
    s.records.countP e.same = (s.contains e).toNat := by
  have hcount : s.records.countP e.same = s.addresses.count e.toAddress := by
    rw [addresses, List.count, List.countP_map]
    refine List.countP_congr fun r _ => ?_
    rw [Endpoint.same_comm, Endpoint.same_iff, Function.comp_apply, beq_iff_eq]
  have hlisted : e.toAddress ∈ s.addresses ↔ s.contains e = true := by
    rw [h.contains_iff, addresses, List.mem_map]
  rw [hcount, h.nodup_addresses.count]
  cases hcontains : s.contains e <;> simp [hlisted, hcontains]

private theorem Indexed.countP_same_missingFrom (h : s.Indexed) {next : EndpointSet}
    (hnext : next.Indexed) (e : Endpoint) :
    (s.missingFrom next).countP e.same = (s.contains e && !next.contains e).toNat := by
  have hgone : (s.missingFrom next).countP e.same =
      s.records.countP fun r => e.same r && !next.contains e := by
    rw [missingFrom, List.countP_filter]
    refine List.countP_congr fun r _ => ?_
    cases hsame : e.same r with
    | false => simp
    | true =>
      rw [contains_congr (Endpoint.same_iff.mp hsame), ← hnext.isSome_place?]
      cases next.place? r <;> rfl
  rw [hgone]
  cases next.contains e with
  | true => simp
  | false => simp [h.countP_same_records]

end EndpointSet

namespace EndpointPool

variable {p : EndpointPool}

def departures (p : EndpointPool) : PoolEvent → List Endpoint
  | .round now selfLocation records => (p.adopt now selfLocation records).2
  | .failure _ _ => []

/-- The events of a history, each with the pool that it finds. -/
def steps (p : EndpointPool) : List PoolEvent → List (EndpointPool × PoolEvent)
  | [] => []
  | event :: events => (p, event) :: (p.happen event).steps events

/-- The number of events by which an endpoint enters the pool. -/
def timesEntered (p : EndpointPool) (events : List PoolEvent) (e : Endpoint) : Nat :=
  (p.steps events).countP fun s =>
    !s.1.current.contains e && (s.1.happen s.2).current.contains e

def timesRemoved (p : EndpointPool) (events : List PoolEvent) (e : Endpoint) : Nat :=
  ((p.steps events).flatMap fun s => s.1.departures s.2).countP e.same

private theorem removed_adopt (p : EndpointPool) (now : Instant) (selfLocation : String)
    {records : List Endpoint} (h : records ≠ []) :
    (p.adopt now selfLocation records).2 =
      p.current.missingFrom (p.adopt now selfLocation records).1.current := by
  have hempty : records.isEmpty = false := by simpa using h
  simp [adopt, hempty]

/-- An event answers an endpoint as gone once if it was there and is not any more. -/
theorem countP_same_departures (h : p.current.Sound) (event : PoolEvent) (e : Endpoint) :
    (p.departures event).countP e.same =
      (p.current.contains e && !(p.happen event).current.contains e).toNat := by
  cases event with
  | failure now f =>
    have hsame : (p.happen (.failure now f)).current.contains e = p.current.contains e :=
      p.current.contains_pessimize now f e
    rw [hsame, departures, Bool.and_not_self]
    rfl
  | round now selfLocation records =>
    by_cases hrecords : records = []
    · rw [hrecords, departures, happen, adopt_nil, Bool.and_not_self]
      rfl
    · have hnext := (sound_adopt h now selfLocation records).indexed
      rw [departures, happen, removed_adopt p now selfLocation hrecords,
        h.indexed.countP_same_missingFrom hnext]

private theorem timesEntered_cons (p : EndpointPool) (event : PoolEvent) (events : List PoolEvent)
    (e : Endpoint) :
    p.timesEntered (event :: events) e = (p.happen event).timesEntered events e +
      (!p.current.contains e && (p.happen event).current.contains e).toNat := by
  rw [timesEntered, steps, List.countP_cons]
  cases !p.current.contains e && (p.happen event).current.contains e <;> rfl

private theorem timesRemoved_cons (p : EndpointPool) (event : PoolEvent) (events : List PoolEvent)
    (e : Endpoint) :
    p.timesRemoved (event :: events) e = (p.departures event).countP e.same +
      (p.happen event).timesRemoved events e := by
  rw [timesRemoved, steps, List.flatMap_cons, List.countP_append]
  rfl

/-- What was there and what entered is what was answered as gone and what is there. -/
theorem timesEntered_add (h : p.current.Sound) (events : List PoolEvent) (e : Endpoint) :
    p.timesEntered events e + (p.current.contains e).toNat =
      p.timesRemoved events e + ((p.after events).current.contains e).toNat := by
  induction events generalizing p with
  | nil => rfl
  | cons event events ih =>
    have hrest := ih (sound_happen h event)
    have hgone := countP_same_departures h event e
    have hafter : p.after (event :: events) = (p.happen event).after events := rfl
    rw [timesEntered_cons, timesRemoved_cons, hgone, hafter]
    cases hbefore : p.current.contains e <;> cases hnow : (p.happen event).current.contains e <;>
      simp [hnow] at hrest ⊢ <;> omega

private theorem timesEntered_eq (balancing : BalancingSettings)
    (pessimization : PessimizationSettings)
    (events : List PoolEvent) (e : Endpoint) :
    let new : EndpointPool := { balancing, pessimization }
    new.timesEntered events e = new.timesRemoved events e +
      if (new.after events).current.contains e then 1 else 0 := by
  intro new
  have hempty : new.current.contains e = false := rfl
  have hbalance := timesEntered_add (p := new) .empty events e
  rw [hempty, Bool.toNat_false, Nat.add_zero] at hbalance
  rw [hbalance]
  cases (new.after events).current.contains e <;> rfl

/-- A round leaves the first record with each address that it lists, and answers the records that
were there and whose address it does not list, in their order; one without records changes nothing.
Over a history an endpoint enters once more than it is answered as gone if it is there at the end,
and as often if it is not. -/
theorem adopt_reports_departures (balancing : BalancingSettings)
    (pessimization : PessimizationSettings) (events : List PoolEvent) :
    let new : EndpointPool := { balancing, pessimization }
    let p := new.after events
    (∀ now selfLocation records, records ≠ [] →
      (p.adopt now selfLocation records).1.current.records = records.eraseDupsBy Endpoint.same ∧
      (p.adopt now selfLocation records).2 =
        p.current.records.filter fun e => !records.any e.same) ∧
    (∀ now selfLocation, p.adopt now selfLocation [] = (p, [])) ∧
    ∀ e, new.timesEntered events e =
      new.timesRemoved events e + if p.current.contains e then 1 else 0 := by
  intro new p
  refine ⟨?_, fun now selfLocation => p.adopt_nil now selfLocation,
    timesEntered_eq balancing pessimization events⟩
  intro now selfLocation records hrecords
  have hcurrent := p.current_adopt now selfLocation hrecords
  refine ⟨?_, ?_⟩
  · rw [hcurrent, EndpointSet.records_ofRound]
  · rw [p.removed_adopt now selfLocation hrecords, hcurrent, EndpointSet.missingFrom_ofRound]

/-- One endpoint is listed twice in a round, moves to another node, goes and comes back. -/
theorem adopt_reports_departures_of_return :
    let a : Endpoint := { host := "a", port := 1, nodeId := 1 }
    let moved : Endpoint := { host := "a", port := 1, nodeId := 2, location := "sas" }
    let b : Endpoint := { host := "b", port := 1 }
    let new : EndpointPool := {}
    let events : List PoolEvent := [.round 0 "" [a, b, moved], .failure 1 moved,
      .round 2 "" [moved, b], .round 3 "" [b], .round 4 "" [b, a]]
    let p := new.after events
    [moved] ≠ [] ∧ p.current.records = [b, a] ∧
      (p.adopt 5 "" [moved]).1.current.records = [moved] ∧ (p.adopt 5 "" [moved]).2 = [b] ∧
      new.timesRemoved events moved = 1 ∧ new.timesEntered events moved = 2 := by
  intro a moved b new events p
  have hrecords : p.current.records = [b, a] := by decide +kernel
  have hremoved : new.timesRemoved events moved = 1 := by decide +kernel
  have hthere : p.current.contains moved = true := by decide +kernel
  obtain ⟨hround, -, hentered⟩ := adopt_reports_departures {} {} events
  obtain ⟨hnext, hgone⟩ := hround 5 "" [moved] (by decide)
  refine ⟨by decide, hrecords, hnext, ?_, hremoved, ?_⟩
  · exact hgone.trans (by rw [hrecords]; decide)
  · exact (hentered moved).trans (by rw [if_pos hthere]; exact congrArg (· + 1) hremoved)

end EndpointPool

end ClusterTransport
