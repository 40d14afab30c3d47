import ClusterTransport.Clock
import ClusterTransport.Config.Basic

/-!
# Endpoint sets

The endpoints of the last discovery round, found by address and by node, each with the time of its
mark if calls to it have failed.
-/

namespace ClusterTransport

/-- An endpoint, and since when it is marked as failing. -/
structure PoolEntry where
  record : Endpoint
  pessimizedAt : Option Instant := none
deriving DecidableEq, Repr

def PoolEntry.isPessimized (e : PoolEntry) : Bool :=
  e.pessimizedAt.isSome

structure EndpointSet where
  /-- Where the discovery server is. -/
  selfLocation : String := ""
  entries : List PoolEntry := []
  /-- The places of the entries by their addresses. -/
  byAddress : List (Address × Nat) := []
  /-- The places of the entries by their nodes, the latest first. -/
  byNode : List (UInt32 × Nat) := []
  pessimized : Nat := 0
deriving Repr

namespace EndpointSet

def size (s : EndpointSet) : Nat :=
  s.entries.length

def records (s : EndpointSet) : List Endpoint :=
  s.entries.map PoolEntry.record

def place? (s : EndpointSet) (e : Endpoint) : Option Nat :=
  s.byAddress.lookup e.toAddress

def entry? (s : EndpointSet) (e : Endpoint) : Option PoolEntry :=
  (s.place? e).bind fun i => s.entries[i]?

def contains (s : EndpointSet) (e : Endpoint) : Bool :=
  (s.entry? e).isSome

def ofNode? (s : EndpointSet) (nodeId : UInt32) : Option Endpoint :=
  ((s.byNode.lookup nodeId).bind fun i => s.entries[i]?).map PoolEntry.record

/-- Adds an endpoint with its mark, unless its address is listed already. A node that is listed
twice is found at the later place; node 0 is none. -/
def add (s : EndpointSet) (e : Endpoint) (mark : Option Instant) : EndpointSet :=
  if (s.place? e).isSome then s
  else
    { s with
      entries := s.entries ++ [⟨e, mark⟩]
      byAddress := (e.toAddress, s.size) :: s.byAddress
      byNode := if e.nodeId = 0 then s.byNode else (e.nodeId, s.size) :: s.byNode
      pessimized := if mark.isSome then s.pessimized + 1 else s.pessimized }

/-- The mark of an endpoint that is younger than `ttl`. -/
def freshMark (s : EndpointSet) (now : Instant) (ttl : Span) (e : Endpoint) : Option Instant :=
  ((s.entry? e).bind PoolEntry.pessimizedAt).filter fun at_ => now - at_ < ttl

/-- The set of a new round; marks of the old set that are fresh stay. -/
def ofRound (old : EndpointSet) (now : Instant) (ttl : Span) (selfLocation : String)
    (records : List Endpoint) : EndpointSet :=
  records.foldl (fun s e => s.add e (old.freshMark now ttl e)) { selfLocation }

def missingFrom (s next : EndpointSet) : List Endpoint :=
  s.records.filter fun e => (next.place? e).isNone

/-- Marks the endpoint at a place, and says whether it was unmarked. The count is left alone. -/
def markAt (s : EndpointSet) (now : Instant) (i : Nat) : EndpointSet × Bool :=
  match s.entries[i]? with
  | none => (s, false)
  | some entry =>
    if entry.isPessimized then (s, false)
    else ({ s with entries := s.entries.set i { entry with pessimizedAt := some now } }, true)

/-- Marks an endpoint if it is listed, and says whether it was unmarked. The count is left
alone. -/
def mark (s : EndpointSet) (now : Instant) (e : Endpoint) : EndpointSet × Bool :=
  match s.place? e with
  | none => (s, false)
  | some i => s.markAt now i

def countMark (s : EndpointSet) : EndpointSet :=
  { s with pessimized := s.pessimized + 1 }

/-- Marks an endpoint as failing and counts it, unless it is marked already or not listed. -/
def pessimize (s : EndpointSet) (now : Instant) (e : Endpoint) : EndpointSet :=
  let r := s.mark now e
  if r.2 then r.1.countMark else r.1

def healthy (s : EndpointSet) : Nat :=
  s.size - s.pessimized

/-- The records seen without a mark, or all if none was. -/
def candidates (records : List Endpoint) (marked : List Bool) : List Endpoint :=
  let unmarked := ((records.zip marked).filter fun r => !r.2).map Prod.fst
  if unmarked.isEmpty then records else unmarked

/-- The record of the preferred endpoint, if it is listed and not marked. -/
def preferredPick (s : EndpointSet) (preferred : Option Endpoint) : Option Endpoint :=
  match preferred.bind s.entry? with
  | none => none
  | some entry => if entry.isPessimized then none else some entry.record

end EndpointSet

end ClusterTransport
