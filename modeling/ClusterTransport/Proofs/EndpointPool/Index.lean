import ClusterTransport.Proofs.EndpointPool.Marks
import ClusterTransport.Proofs.Runs

/-!
# The indices of an endpoint set

The places that a set keeps are those of its entries: under an address the only entry with it, and
under a node the last entry with it. What a look-up finds is thus read off the entries.
-/

namespace ClusterTransport

theorem getElem?_concat_eq_some_iff {α : Type} {l : List α} {x a : α} {i : Nat} :
    (l ++ [x])[i]? = some a ↔ l[i]? = some a ∨ (i = l.length ∧ x = a) := by
  grind

private theorem lookup_cons_eq_ite {α β : Type} [DecidableEq α] (l : List (α × β)) (k a : α)
    (b : β) :
    ((k, b) :: l).lookup a = if a = k then some b else l.lookup a := by
  grind

namespace EndpointSet

variable {s t : EndpointSet}

def addresses (s : EndpointSet) : List Address :=
  s.records.map Endpoint.toAddress

def nodes (s : EndpointSet) : List UInt32 :=
  s.records.map Endpoint.nodeId

/-- The number of marked entries, counted anew. -/
def marked (s : EndpointSet) : Nat :=
  s.entries.countP PoolEntry.isPessimized

@[simp] theorem length_records (s : EndpointSet) : s.records.length = s.size := by
  simp [records, size]

@[simp] theorem length_addresses (s : EndpointSet) : s.addresses.length = s.size := by
  simp [addresses]

@[simp] theorem length_nodes (s : EndpointSet) : s.nodes.length = s.size := by
  simp [nodes]

/-- The places are those of the entries. Two entries with one address would have to have the same
place, so there are none. -/
structure Indexed (s : EndpointSet) : Prop where
  address : ∀ a i, s.byAddress.lookup a = some i ↔ s.addresses[i]? = some a
  node : ∀ n i, s.byNode.lookup n = some i ↔
    n ≠ 0 ∧ s.nodes[i]? = some n ∧ ∀ j, i < j → s.nodes[j]? ≠ some n

theorem indexed_empty (selfLocation : String) : Indexed { selfLocation } where
  address := by simp [addresses, records]
  node := by simp [nodes, records]

theorem SameRound.indexed (h : s.SameRound t) (ht : t.Indexed) : s.Indexed where
  address := by
    intro a i
    rw [addresses, h.records, h.byAddress]
    exact ht.address a i
  node := by
    intro n i
    rw [nodes, h.records, h.byNode]
    exact ht.node n i

theorem add_of_place? {e : Endpoint} (mark : Option Instant) (h : (s.place? e).isSome = true) :
    s.add e mark = s := by
  rw [add, if_pos h]

section Added

variable {e : Endpoint} (mark : Option Instant)

theorem entries_add (h : s.place? e = none) :
    (s.add e mark).entries = s.entries ++ [⟨e, mark⟩] := by
  simp [add, h]

theorem records_add (h : s.place? e = none) : (s.add e mark).records = s.records ++ [e] := by
  simp [records, entries_add mark h]

private theorem addresses_add (h : s.place? e = none) :
    (s.add e mark).addresses = s.addresses ++ [e.toAddress] := by
  simp [addresses, records_add mark h]

private theorem nodes_add (h : s.place? e = none) :
    (s.add e mark).nodes = s.nodes ++ [e.nodeId] := by
  simp [nodes, records_add mark h]

private theorem lookup_byAddress_add (h : s.place? e = none) (a : Address) :
    (s.add e mark).byAddress.lookup a =
      if a = e.toAddress then some s.size else s.byAddress.lookup a := by
  simp only [add, h, Option.isSome_none, Bool.false_eq_true, if_false, lookup_cons_eq_ite]

private theorem lookup_byNode_add (h : s.place? e = none) (n : UInt32) :
    (s.add e mark).byNode.lookup n =
      if n ≠ 0 ∧ n = e.nodeId then some s.size else s.byNode.lookup n := by
  simp only [add, h, Option.isSome_none, Bool.false_eq_true, if_false]
  by_cases he : e.nodeId = 0
  · have hn : ¬ (n ≠ 0 ∧ n = e.nodeId) := fun hn => hn.1 (hn.2.trans he)
    rw [if_pos he, if_neg hn]
  · rw [if_neg he, lookup_cons_eq_ite]
    by_cases hn : n = e.nodeId
    · simp [hn, he]
    · simp [hn]

theorem marked_add (h : s.place? e = none) :
    (s.add e mark).marked = s.marked + mark.isSome.toNat := by
  simp only [marked, entries_add mark h, List.countP_append, List.countP_singleton,
    PoolEntry.isPessimized]
  cases mark <;> rfl

theorem pessimized_add (h : s.place? e = none) :
    (s.add e mark).pessimized = s.pessimized + mark.isSome.toNat := by
  cases mark <;> simp [add, h]

end Added

private theorem Indexed.address_add (h : s.Indexed) {e : Endpoint} (mark : Option Instant)
    (hnone : s.place? e = none) (a : Address) (i : Nat) :
    (s.add e mark).byAddress.lookup a = some i ↔ (s.add e mark).addresses[i]? = some a := by
  rw [lookup_byAddress_add mark hnone, addresses_add mark hnone, getElem?_concat_eq_some_iff,
    length_addresses]
  by_cases ha : a = e.toAddress
  · subst ha
    have hfree : s.addresses[i]? ≠ some e.toAddress := by
      intro hi
      have hplace : s.place? e = some i := (h.address _ i).mpr hi
      cases hnone.symm.trans hplace
    rw [if_pos rfl, Option.some.injEq]
    constructor
    · intro hi
      exact Or.inr ⟨hi.symm, rfl⟩
    · rintro (hi | ⟨hi, _⟩)
      · exact absurd hi hfree
      · exact hi.symm
  · rw [if_neg ha, h.address a i]
    constructor
    · exact Or.inl
    · rintro (hi | ⟨_, hi⟩)
      · exact hi
      · exact absurd hi.symm ha

private theorem Indexed.node_add (h : s.Indexed) {e : Endpoint} (mark : Option Instant)
    (hnone : s.place? e = none) (n : UInt32) (i : Nat) :
    (s.add e mark).byNode.lookup n = some i ↔
      n ≠ 0 ∧ (s.add e mark).nodes[i]? = some n ∧
        ∀ j, i < j → (s.add e mark).nodes[j]? ≠ some n := by
  have hbound : ∀ j m, s.nodes[j]? = some m → j < s.size := by
    intro j m hj
    have hlt := (List.getElem?_eq_some_iff.mp hj).1
    rwa [length_nodes] at hlt
  rw [lookup_byNode_add mark hnone, nodes_add mark hnone]
  simp only [ne_eq, getElem?_concat_eq_some_iff, length_nodes]
  by_cases hn : n ≠ 0 ∧ n = e.nodeId
  · -- the new entry is the last one with its node
    obtain ⟨hzero, rfl⟩ := hn
    rw [if_pos ⟨hzero, rfl⟩, Option.some.injEq]
    constructor
    · rintro rfl
      refine ⟨hzero, Or.inr ⟨rfl, rfl⟩, ?_⟩
      rintro j hj (hold | ⟨hnew, _⟩)
      · have := hbound j _ hold
        omega
      · omega
    · rintro ⟨_, hold | ⟨hnew, _⟩, hlast⟩
      · exact absurd (Or.inr ⟨rfl, rfl⟩) (hlast s.size (hbound i _ hold))
      · exact hnew.symm
  · rw [if_neg hn, h.node n i]
    have hother : n ≠ 0 → e.nodeId ≠ n := fun hzero he => hn ⟨hzero, he.symm⟩
    constructor
    · rintro ⟨hzero, hi, hlast⟩
      refine ⟨hzero, Or.inl hi, ?_⟩
      rintro j hj (hold | ⟨_, he⟩)
      · exact hlast j hj hold
      · exact hother hzero he
    · rintro ⟨hzero, hi | ⟨_, he⟩, hlast⟩
      · exact ⟨hzero, hi, fun j hj hold => hlast j hj (Or.inl hold)⟩
      · exact absurd he (hother hzero)

theorem Indexed.add (h : s.Indexed) (e : Endpoint) (mark : Option Instant) :
    (s.add e mark).Indexed := by
  cases hplace : s.place? e with
  | some i =>
    rw [add_of_place? mark (by rw [hplace]; rfl)]
    exact h
  | none => exact ⟨h.address_add mark hplace, h.node_add mark hplace⟩

end EndpointSet

end ClusterTransport
