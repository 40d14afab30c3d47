import ClusterTransport.Discovery.Task

/-!
# Running discovery

The loops of a task against a script of answers: at one instant every loop goes on until it has to
wait, and the next instant is the first at which one need wait no longer.
-/

namespace ClusterTransport

structure DiscoveryReply where
  /-- When the answer comes after the call; never if unset. -/
  delay : Option Span := some 0
  answer : Except Error DiscoveryResult := .ok {}

structure DiscoveryHandler (σ : Type) where
  isUrgent : σ → Bool
  adopt : DiscoveryResult → σ → σ

/-- The behaviour on a call by its number; the last one of the script goes on for ever. -/
def DiscoveryReply.ofCall (script : List DiscoveryReply) (call : Nat) : DiscoveryReply :=
  (script[call]?).getD (script.getLast?.getD {})

def DiscoveryReply.arrival? (script : List DiscoveryReply) (call : Nat) (since : Instant) :
    Option Instant :=
  (ofCall script call).delay.map fun delay => since + delay

namespace DiscoveryTask

def answerAt (script : List DiscoveryReply) (now : Instant) :
    Round → Option (Except Error DiscoveryResult)
  | .awaiting call since =>
    match DiscoveryReply.arrival? script call since with
    | some arrival =>
      if arrival ≤ now then some (DiscoveryReply.ofCall script call).answer else none
    | none => none
  | _ => none

def dueOf (t : DiscoveryTask) (script : List DiscoveryReply) : Round → Option Instant
  | .awaiting call since =>
    let expiry := since + t.timeout
    some ((DiscoveryReply.arrival? script call since).elim expiry (min expiry))
  | .sleeping wake => some wake
  | _ => none

def dues (t : DiscoveryTask) (script : List DiscoveryReply) : List Instant :=
  t.loops.filterMap (t.dueOf script)

structure Running (σ : Type) where
  task : DiscoveryTask
  state : σ
  /-- What the loops did, the latest first. -/
  actions : List (Instant × RoundAction) := []

def Running.runLoop {σ : Type} (h : DiscoveryHandler σ) (script : List DiscoveryReply)
    (now : Instant) (i : Nat) : Nat → Running σ → Running σ
  | 0, r => r
  | fuel + 1, r =>
    let view : RoundView :=
      { now
        answer := (r.task.loops[i]?).bind (answerAt script now)
        handled := true
        urgent := h.isUrgent r.state
        stopFirst := true }
    match r.task.stepLoop view i with
    | none => r
    | some (task, none) => runLoop h script now i fuel { r with task }
    | some (task, some action) =>
      let state :=
        match action with
        | .handOver result => h.adopt result r.state
        | .call _ => r.state
      runLoop h script now i fuel { task, state, actions := (now, action) :: r.actions }

/-- The greatest number of steps of one loop at one instant: the seven of a round and as many
again, since a pause takes time. -/
def instantBound : Nat := 16

def Running.runAt {σ : Type} (h : DiscoveryHandler σ) (script : List DiscoveryReply)
    (now : Instant) (r : Running σ) : Running σ :=
  (List.range r.task.loops.length).foldl (fun r i => r.runLoop h script now i instantBound) r

end DiscoveryTask

end ClusterTransport
