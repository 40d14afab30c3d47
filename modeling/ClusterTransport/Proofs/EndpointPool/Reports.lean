import ClusterTransport.Proofs.EndpointPool.History

/-!
# Reports and reads at the same time

Any number of reports of failing endpoints and of reads of the number of unmarked endpoints, each of
which takes its steps while others take theirs. A report holds a lock from when it has found its
entry until it has counted the mark, and a round is taken over only while no report holds it. A
read keeps the set that it began with, also when a round has replaced it.
-/

namespace ClusterTransport

inductive Reporting where
  /-- The lock is to be taken and the entry to be found. -/
  | begun (e : Endpoint)
  /-- The entry is to be marked, unless another report has by now. -/
  | found (place : Nat)
  /-- The mark is set and is to be counted. -/
  | counting
  | done
deriving DecidableEq

namespace Reporting

def step (now : Instant) (s : EndpointSet) : Reporting → EndpointSet × Reporting
  | begun e =>
    match s.place? e with
    | none => (s, done)
    | some place => (s, found place)
  | found place =>
    let r := s.markAt now place
    (r.1, if r.2 then counting else done)
  | counting => (s.countMark, done)
  | done => (s, done)

def holdsLock : Reporting → Bool
  | found _ => true
  | counting => true
  | _ => false

def isCounting : Reporting → Bool
  | counting => true
  | _ => false

private theorem holdsLock_of_isCounting {r : Reporting} (h : r.isCounting = true) :
    r.holdsLock = true := by
  cases r with
  | counting => rfl
  | _ => cases h

/-- A report whose steps nothing interrupts marks its endpoint as the pool does at once. -/
theorem steps_eq_pessimize (now : Instant) (s : EndpointSet) (e : Endpoint) :
    let found := (begun e).step now s
    let marked := found.2.step now found.1
    (marked.2.step now marked.1).1 = s.pessimize now e := by
  intro found marked
  cases hplace : s.place? e with
  | none => simp [marked, found, step, EndpointSet.pessimize, EndpointSet.mark, hplace]
  | some place =>
    cases hflag : (s.markAt now place).2 <;>
      simp [marked, found, step, EndpointSet.pessimize, EndpointSet.mark, hplace, hflag]

/-- A step counts a mark or gives it up to be counted. -/
theorem step_balance (now : Instant) (s : EndpointSet) (r : Reporting) :
    (r.step now s).1.pessimized + (r.step now s).2.isCounting.toNat + s.marked =
      s.pessimized + r.isCounting.toNat + (r.step now s).1.marked := by
  cases r with
  | begun e =>
    simp only [step]
    split <;> rfl
  | found place =>
    have hmarked := s.marked_markAt now place
    have hcount := s.pessimized_markAt now place
    have hnext : ((found place).step now s).2.isCounting = (s.markAt now place).2 := by
      simp only [step]
      cases (s.markAt now place).2 <;> rfl
    rw [hnext]
    simp only [step, isCounting, Bool.toNat_false]
    omega
  | counting =>
    simp only [step, isCounting, EndpointSet.countMark, EndpointSet.marked, Bool.toNat_false,
      Bool.toNat_true]
  | done => rfl

end Reporting

namespace EndpointSet

/-- The number of unmarked endpoints as two numbers that are subtracted; `none` if the second one
is greater. -/
def unmarked? (s : EndpointSet) : Option Nat :=
  if s.pessimized ≤ s.size then some (s.size - s.pessimized) else none

theorem marked_le_size (s : EndpointSet) : s.marked ≤ s.size :=
  List.countP_le_length

end EndpointSet

inductive Reading where
  | begun
  /-- It holds the set of a round and is to subtract. -/
  | holding (generation : Nat)
  /-- `none` if the subtraction underflowed. -/
  | done (unmarked : Option Nat)
deriving DecidableEq

/-- A pool with the reports and reads in progress. -/
structure Reports where
  pool : EndpointPool
  replaced : List EndpointSet := []
  reports : List Reporting := []
  reads : List Reading := []

namespace Reports

/-- The sets that reads can hold, by generation. -/
def sets (s : Reports) : List EndpointSet :=
  s.replaced ++ [s.pool.current]

inductive Move where
  | round (now : Instant) (selfLocation : String) (records : List Endpoint)
  | report (e : Endpoint)
  | stepReport (i : Nat) (now : Instant)
  | read
  | stepRead (i : Nat)

def readStep (s : Reports) : Reading → Reading
  | .begun => .holding s.replaced.length
  | .holding generation => .done (s.sets[generation]?.bind EndpointSet.unmarked?)
  | .done unmarked => .done unmarked

def move (s : Reports) : Move → Option Reports
  | .round now selfLocation records =>
    if records.isEmpty then some s
    else if s.reports.any Reporting.holdsLock then none
    else
      some { s with
        pool := (s.pool.adopt now selfLocation records).1
        replaced := s.replaced ++ [s.pool.current] }
  | .report e => some { s with reports := s.reports ++ [.begun e] }
  | .stepReport i now =>
    s.reports[i]?.map fun r =>
      { s with
        pool := { s.pool with current := (r.step now s.pool.current).1 }
        reports := s.reports.set i (r.step now s.pool.current).2 }
  | .read => some { s with reads := s.reads ++ [.begun] }
  | .stepRead i => s.reads[i]?.map fun r => { s with reads := s.reads.set i (s.readStep r) }

def run (s : Reports) (ms : List Move) : Option Reports :=
  ms.foldlM move s

structure Balanced (s : Reports) : Prop where
  current : s.pool.current.pessimized + s.reports.countP Reporting.isCounting =
    s.pool.current.marked
  replaced : ∀ set ∈ s.replaced, set.pessimized = set.marked
  holding : ∀ generation, .holding generation ∈ s.reads → generation ≤ s.replaced.length
  reads : .done none ∉ s.reads

variable {s t : Reports}

theorem balanced_new (pool : EndpointPool) (h : pool.current.Sound) : Balanced { pool } where
  current := h.counted
  replaced := by simp
  holding := by simp
  reads := by simp

/-- In no set is the count ahead of the marks. -/
theorem Balanced.pessimized_le (h : s.Balanced) {set : EndpointSet} (hset : set ∈ s.sets) :
    set.pessimized ≤ set.marked := by
  rcases List.mem_append.mp hset with hreplaced | hcurrent
  · exact Nat.le_of_eq (h.replaced set hreplaced)
  · obtain rfl := List.mem_singleton.mp hcurrent
    have hbalance := h.current
    omega

private theorem Balanced.round (h : s.Balanced) {now : Instant} {selfLocation : String}
    {records : List Endpoint} (hrecords : records ≠ [])
    (hlock : s.reports.any Reporting.holdsLock = false) :
    Balanced { s with
      pool := (s.pool.adopt now selfLocation records).1
      replaced := s.replaced ++ [s.pool.current] } := by
  have hnone : s.reports.countP Reporting.isCounting = 0 := by
    refine List.countP_eq_zero.mpr ?_
    intro r hr hcounting
    have hfree := List.any_eq_false.mp hlock r hr
    exact hfree (Reporting.holdsLock_of_isCounting hcounting)
  have hbefore := h.current
  refine ⟨?_, ?_, ?_, h.reads⟩
  · rw [hnone, EndpointPool.current_adopt s.pool now selfLocation hrecords]
    exact (EndpointSet.Sound.ofRound ..).counted
  · intro set hset
    rcases List.mem_append.mp hset with hold | hnew
    · exact h.replaced set hold
    · obtain rfl := List.mem_singleton.mp hnew
      omega
  · intro generation hholding
    have hle := h.holding generation hholding
    simp only [List.length_append, List.length_singleton]
    omega

private theorem Balanced.stepReport (h : s.Balanced) {i : Nat} {r : Reporting} (now : Instant)
    (hr : s.reports[i]? = some r) :
    Balanced { s with
      pool := { s.pool with current := (r.step now s.pool.current).1 }
      reports := s.reports.set i (r.step now s.pool.current).2 } where
  current := by
    have hstep := r.step_balance now s.pool.current
    have hcount := countP_set_add Reporting.isCounting (r.step now s.pool.current).2 hr
    have hbefore := h.current
    dsimp only
    omega
  replaced := h.replaced
  holding := h.holding
  reads := h.reads

private theorem Balanced.stepRead (h : s.Balanced) {i : Nat} {r : Reading}
    (hr : s.reads[i]? = some r) :
    Balanced { s with reads := s.reads.set i (s.readStep r) } where
  current := h.current
  replaced := h.replaced
  holding := by
    intro generation hholding
    rcases List.mem_or_eq_of_mem_set hholding with hold | hnew
    · exact h.holding generation hold
    · cases r with
      | begun =>
        injection hnew with hgeneration
        exact Nat.le_of_eq hgeneration
      | holding _ => cases hnew
      | done _ => cases hnew
  reads := by
    intro hdone
    rcases List.mem_or_eq_of_mem_set hdone with hold | hnew
    · exact h.reads hold
    · cases r with
      | begun => cases hnew
      | done unmarked =>
        injection hnew with hunmarked
        exact h.reads (hunmarked ▸ List.mem_of_getElem? hr)
      | holding generation =>
        -- the set is there, and its count is at most its size
        have hle := h.holding generation (List.mem_of_getElem? hr)
        have hlt : generation < s.sets.length := by
          simp only [sets, List.length_append, List.length_singleton]
          omega
        have hcount := h.pessimized_le (List.getElem_mem hlt)
        have hsize := s.sets[generation].marked_le_size
        simp only [readStep, List.getElem?_eq_getElem hlt, Option.bind_some,
          EndpointSet.unmarked?, if_pos (Nat.le_trans hcount hsize)] at hnew
        cases hnew

theorem Balanced.move {m : Move} (h : s.Balanced) (hm : s.move m = some t) : t.Balanced := by
  cases m with
  | round now selfLocation records =>
    simp only [Reports.move] at hm
    split at hm
    next => exact Option.some.inj hm ▸ h
    next hrecords =>
      split at hm
      next => cases hm
      next hlock =>
        cases hm
        exact h.round (by simpa using hrecords) (by simpa using hlock)
  | report e =>
    cases hm
    refine ⟨?_, h.replaced, h.holding, h.reads⟩
    rw [List.countP_append]
    exact h.current
  | stepReport i now =>
    obtain ⟨r, hr, rfl⟩ := Option.map_eq_some_iff.mp hm
    exact h.stepReport now hr
  | read =>
    cases hm
    refine ⟨h.current, h.replaced, ?_, ?_⟩
    · intro generation hholding
      exact h.holding generation (by simpa using hholding)
    · simpa using h.reads
  | stepRead i =>
    obtain ⟨r, hr, rfl⟩ := Option.map_eq_some_iff.mp hm
    exact h.stepRead hr

theorem Balanced.run {ms : List Move} (h : s.Balanced) (hrun : s.run ms = some t) : t.Balanced :=
  foldlM_invariant Balanced (fun _ _ _ hs hm => hs.move hm) h hrun

end Reports

end ClusterTransport
