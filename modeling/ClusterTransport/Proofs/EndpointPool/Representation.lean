import ClusterTransport.Proofs.EndpointPool.Reports

/-!
# What an endpoint pool represents

All that can be looked up in a pool is read off its records: which endpoints are known, which one
has a node, and how many are marked.
-/

namespace ClusterTransport

private theorem find?_reverse_eq_some_iff {α : Type} {l : List α} {p : α → Bool} {a : α} :
    l.reverse.find? p = some a ↔
      p a = true ∧ ∃ i : Nat, l[i]? = some a ∧
        ∀ j, i < j → ∀ b, l[j]? = some b → p b = false := by
  rw [List.find?_eq_some_iff_append]
  refine and_congr_right fun _ => ?_
  constructor
  · rintro ⟨behind, front, hl, hbehind⟩
    have hl : l = front.reverse ++ a :: behind.reverse := by
      rw [← l.reverse_reverse, hl]
      simp
    refine ⟨front.reverse.length, by simp [hl], ?_⟩
    intro j hj b hb
    rw [hl, List.getElem?_append_right (Nat.le_of_lt hj), List.getElem?_cons,
      if_neg (by omega)] at hb
    have hmem := hbehind b (List.mem_reverse.mp (List.mem_of_getElem? hb))
    simpa using hmem
  · rintro ⟨i, hi, hlast⟩
    obtain ⟨hlt, rfl⟩ := List.getElem?_eq_some_iff.mp hi
    refine ⟨(l.drop (i + 1)).reverse, (l.take i).reverse, ?_, ?_⟩
    · have hsplit : l.take i ++ l[i] :: l.drop (i + 1) = l := by simp
      rw [← congrArg List.reverse hsplit]
      simp
    · intro b hb
      obtain ⟨j, hj⟩ := List.mem_iff_getElem?.mp (List.mem_reverse.mp hb)
      rw [List.getElem?_drop] at hj
      simpa using hlast (i + 1 + j) (by omega) b hj

namespace EndpointSet

variable {s : EndpointSet}

private theorem ofNode?_eq_some_iff {n : UInt32} {r : Endpoint} :
    s.ofNode? n = some r ↔ ∃ i, s.byNode.lookup n = some i ∧ s.records[i]? = some r := by
  simp only [ofNode?, records, List.getElem?_map]
  cases s.byNode.lookup n <;> simp

private theorem Indexed.ofNode?_eq (h : s.Indexed) (n : UInt32) :
    s.ofNode? n = if n = 0 then none else s.records.reverse.find? fun r => r.nodeId = n := by
  refine Option.ext fun r => ?_
  rw [ofNode?_eq_some_iff]
  by_cases hzero : n = 0
  · simp [h.node, hzero]
  · simp only [h.node, if_neg hzero, find?_reverse_eq_some_iff, nodes, List.getElem?_map]
    constructor
    · rintro ⟨i, ⟨_, hnode, hlast⟩, hr⟩
      refine ⟨by simpa [hr] using hnode, i, hr, ?_⟩
      intro j hj b hb
      simpa [hb] using hlast j hj
    · rintro ⟨hnode, i, hr, hlast⟩
      refine ⟨i, ⟨hzero, by simpa [hr] using hnode, ?_⟩, hr⟩
      intro j hj hsame
      obtain ⟨b, hb, hbn⟩ := Option.map_eq_some_iff.mp hsame
      simpa [hbn] using hlast j hj b hb

private theorem Indexed.isSome_byNode (h : s.Indexed) (n : UInt32) :
    (s.byNode.lookup n).isSome = (s.ofNode? n).isSome := by
  cases hplace : s.byNode.lookup n with
  | none => simp [ofNode?, hplace]
  | some i =>
    have hnode := ((h.node n i).mp hplace).2.1
    obtain ⟨r, hr, _⟩ := Option.map_eq_some_iff.mp (List.getElem?_map.symm.trans hnode)
    rw [ofNode?_eq_some_iff.mpr ⟨i, hplace, hr⟩]
    rfl

end EndpointSet

namespace EndpointPool

def isMarked (p : EndpointPool) (e : Endpoint) : Bool :=
  (p.markOf e).isSome

/-- What a pool tells agrees with its records. -/
structure Consistent (p : EndpointPool) : Prop where
  distinct : (p.current.records.map Endpoint.toAddress).Nodup
  contains : ∀ e, p.current.contains e = true ↔
    ∃ r ∈ p.current.records, r.toAddress = e.toAddress
  health : ∀ e, (p.health e).isSome = p.current.contains e
  /-- No place that is kept for an address is one of no entry. -/
  place : ∀ e, (p.current.place? e).isSome = p.current.contains e
  /-- Node 0 is no node; of several records with a node the last one counts. -/
  node : ∀ n, p.current.ofNode? n =
    if n = 0 then none else p.current.records.reverse.find? fun r => r.nodeId = n
  /-- No place that is kept for a node is one of no entry. -/
  nodePlace : ∀ n, (p.current.byNode.lookup n).isSome = (p.current.ofNode? n).isSome
  pessimized : p.current.pessimized = p.current.records.countP p.isMarked
  healthy : p.current.pessimized + p.current.healthy = p.current.size

variable {p : EndpointPool}

private theorem isMarked_record (h : p.current.Indexed) {x : PoolEntry}
    (hx : x ∈ p.current.entries) :
    p.isMarked x.record = x.isPessimized := by
  rw [isMarked, markOf, EndpointPool.health, h.entry?_record hx]
  rfl

private theorem consistent_of_sound (h : p.current.Sound) : p.Consistent where
  distinct := h.indexed.nodup_addresses
  contains := fun _ => h.indexed.contains_iff
  health := p.health_isSome
  place := h.indexed.isSome_place?
  node := h.indexed.ofNode?_eq
  nodePlace := h.indexed.isSome_byNode
  pessimized := by
    rw [h.counted, EndpointSet.marked, EndpointSet.records, List.countP_map]
    refine List.countP_congr fun x hx => ?_
    rw [Function.comp_apply, isMarked_record h.indexed hx]
  healthy := by
    have hle := p.current.marked_le_size
    have hcounted := h.counted
    rw [EndpointSet.healthy]
    omega

/-- After any rounds and reports, in any order and at any times, a pool is consistent. While
reports and reads take their steps among others, no set counts more marks than it has, so no read
of the number of unmarked endpoints underflows. -/
theorem consistent_after (balancing : BalancingSettings) (pessimization : PessimizationSettings) :
    (∀ events, (after { balancing, pessimization } events).Consistent) ∧
      ∀ (ms : List Reports.Move) (s : Reports),
        Reports.run { pool := { balancing, pessimization } } ms = some s →
        (∀ set ∈ s.sets, set.pessimized ≤ set.marked) ∧ .done none ∉ s.reads := by
  refine ⟨?_, ?_⟩
  · intro events
    exact consistent_of_sound (sound_after .empty events)
  · intro ms s hrun
    have hbalanced := (Reports.balanced_new { balancing, pessimization } .empty).run hrun
    exact ⟨fun set hset => hbalanced.pessimized_le hset, hbalanced.reads⟩

/-- Two reports of one endpoint and one of another overlap. While a mark is set and not counted a
read subtracts, and another subtracts from the set when a round has replaced it. -/
theorem consistent_after_overlapping_reports :
    let a := Endpoint.ofAddress ⟨"h", 1⟩
    let b := Endpoint.ofAddress ⟨"h", 2⟩
    let ms := [.round 0 "" [a, b, a], .report a, .report a, .report b, .read, .read,
      .stepReport 0 1, .stepReport 1 1, .stepReport 0 2, .stepRead 0, .stepRead 1, .stepRead 0,
      .stepReport 1 3, .stepReport 0 3, .stepReport 2 3, .stepReport 2 4, .stepReport 2 4,
      .round 5 "" [b], .stepRead 1]
    ∃ s, Reports.run { pool := {} } ms = some s ∧
      s.reads = [.done (some 2), .done (some 0)] ∧ s.pool.current.records = [b] ∧
      ∀ set ∈ s.sets, set.pessimized ≤ set.marked := by
  intro a b ms
  have hends : (Reports.run { pool := {} } ms).map (fun s => (s.reads, s.pool.current.records)) =
      some ([.done (some 2), .done (some 0)], [b]) := by decide +kernel
  obtain ⟨s, hrun, hs⟩ := Option.map_eq_some_iff.mp hends
  obtain ⟨hreads, hrecords⟩ := Prod.mk.inj hs
  exact ⟨s, hrun, hreads, hrecords, ((consistent_after {} {}).2 ms s hrun).1⟩

end EndpointPool

end ClusterTransport
