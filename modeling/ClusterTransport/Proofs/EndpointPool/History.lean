import ClusterTransport.Proofs.EndpointPool.Lookup

/-!
# Histories of an endpoint pool

A pool after any rounds and reports of failing endpoints, and what holds of it at every moment.
-/

namespace ClusterTransport

inductive PoolEvent where
  /-- A round is taken over. -/
  | round (now : Instant) (selfLocation : String) (records : List Endpoint)
  /-- An endpoint is reported as failing. -/
  | failure (now : Instant) (e : Endpoint)

def PoolEvent.isAdopted : PoolEvent → Bool
  | round _ _ records => !records.isEmpty
  | failure _ _ => false

/-- The places and the number of marks of a set are right. -/
structure EndpointSet.Sound (s : EndpointSet) : Prop where
  indexed : s.Indexed
  counted : s.pessimized = s.marked

namespace EndpointSet.Sound

variable {s : EndpointSet}

theorem empty : ({} : EndpointSet).Sound where
  indexed := indexed_empty ""
  counted := rfl

theorem ofRound (old : EndpointSet) (now : Instant) (ttl : Span) (selfLocation : String)
    (records : List Endpoint) : (old.ofRound now ttl selfLocation records).Sound where
  indexed := indexed_ofRound old now ttl selfLocation records
  counted := pessimized_ofRound old now ttl selfLocation records

private theorem pessimize (h : s.Sound) (now : Instant) (e : Endpoint) :
    (s.pessimize now e).Sound where
  indexed := h.indexed.pessimize now e
  counted := pessimized_pessimize h.counted now e

end EndpointSet.Sound

namespace EndpointPool

def happen (p : EndpointPool) : PoolEvent → EndpointPool
  | .round now selfLocation records => (p.adopt now selfLocation records).1
  | .failure now e => p.pessimize now e

def after (p : EndpointPool) (events : List PoolEvent) : EndpointPool :=
  events.foldl happen p

variable {p : EndpointPool}

theorem after_concat (p : EndpointPool) (events : List PoolEvent) (event : PoolEvent) :
    p.after (events ++ [event]) = (p.after events).happen event := by
  simp [after]

theorem after_append (p : EndpointPool) (events later : List PoolEvent) :
    p.after (events ++ later) = (p.after events).after later :=
  List.foldl_append

theorem settings_after (p : EndpointPool) (events : List PoolEvent) :
    (p.after events).balancing = p.balancing ∧
      (p.after events).pessimization = p.pessimization := by
  induction events generalizing p with
  | nil => exact ⟨rfl, rfl⟩
  | cons event events ih =>
    have hsame : (p.happen event).balancing = p.balancing ∧
        (p.happen event).pessimization = p.pessimization := by
      cases event with
      | round now selfLocation records =>
        simp only [happen, adopt]
        split <;> exact ⟨rfl, rfl⟩
      | failure now e => exact ⟨rfl, rfl⟩
    obtain ⟨hbalancing, hpessimization⟩ := ih (p.happen event)
    exact ⟨hbalancing.trans hsame.1, hpessimization.trans hsame.2⟩

theorem adopt_nil (p : EndpointPool) (now : Instant) (selfLocation : String) :
    p.adopt now selfLocation [] = (p, []) := rfl

theorem current_adopt (p : EndpointPool) (now : Instant) (selfLocation : String)
    {records : List Endpoint} (h : records ≠ []) :
    (p.adopt now selfLocation records).1.current =
      p.current.ofRound now (Span.seconds p.pessimization.ttl.toNat) selfLocation records := by
  have hempty : records.isEmpty = false := by simpa using h
  simp [adopt, hempty]

theorem sound_adopt (h : p.current.Sound) (now : Instant) (selfLocation : String)
    (records : List Endpoint) : (p.adopt now selfLocation records).1.current.Sound := by
  by_cases hrecords : records = []
  · rw [hrecords, adopt_nil]
    exact h
  · rw [current_adopt p now selfLocation hrecords]
    exact .ofRound ..

theorem sound_happen (h : p.current.Sound) (event : PoolEvent) :
    (p.happen event).current.Sound := by
  cases event with
  | round now selfLocation records => exact sound_adopt h now selfLocation records
  | failure now e => exact h.pessimize now e

theorem sound_after (h : p.current.Sound) (events : List PoolEvent) :
    (p.after events).current.Sound := by
  induction events generalizing p with
  | nil => exact h
  | cons event events ih => exact ih (sound_happen h event)

end EndpointPool

end ClusterTransport
