import ClusterTransport.EndpointPool.Basic

/-!
# Marks

Marking an endpoint changes its mark and the number of marks, and nothing that the round told.
-/

namespace ClusterTransport.EndpointSet

/-- What a round told is the same in both sets. -/
structure SameRound (s t : EndpointSet) : Prop where
  selfLocation : s.selfLocation = t.selfLocation
  records : s.records = t.records
  byAddress : s.byAddress = t.byAddress
  byNode : s.byNode = t.byNode

variable {s t u : EndpointSet}

theorem SameRound.refl (s : EndpointSet) : s.SameRound s :=
  ⟨rfl, rfl, rfl, rfl⟩

theorem SameRound.trans (h : s.SameRound t) (h' : t.SameRound u) : s.SameRound u where
  selfLocation := h.selfLocation.trans h'.selfLocation
  records := h.records.trans h'.records
  byAddress := h.byAddress.trans h'.byAddress
  byNode := h.byNode.trans h'.byNode

theorem sameRound_markAt (s : EndpointSet) (now : Instant) (i : Nat) :
    (s.markAt now i).1.SameRound s := by
  unfold markAt
  split
  next => exact .refl s
  next entry hentry =>
    split
    next => exact .refl s
    next =>
      refine ⟨rfl, ?_, rfl, rfl⟩
      have hsame : (s.entries.map PoolEntry.record)[i]? = some entry.record := by
        rw [List.getElem?_map, hentry]
        rfl
      obtain ⟨hi, hget⟩ := List.getElem?_eq_some_iff.mp hsame
      simp only [records, List.map_set]
      rw [← hget, List.set_getElem_self]

theorem sameRound_pessimize (s : EndpointSet) (now : Instant) (e : Endpoint) :
    (s.pessimize now e).SameRound s := by
  have hmark : (s.mark now e).1.SameRound s := by
    unfold mark
    split
    next => exact .refl s
    next i _ => exact s.sameRound_markAt now i
  simp only [pessimize]
  split
  next => exact ⟨hmark.selfLocation, hmark.records, hmark.byAddress, hmark.byNode⟩
  next => exact hmark

end ClusterTransport.EndpointSet
