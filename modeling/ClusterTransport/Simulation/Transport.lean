import ClusterTransport.EndpointPool.Picks
import ClusterTransport.Simulation.Channels
import ClusterTransport.Simulation.Discovery
import ClusterTransport.Simulation.Method
import ClusterTransport.Simulation.Timeline
import ClusterTransport.Transport.Adoption
import ClusterTransport.Transport.Shutdown

/-!
# Scripted transports

A transport on a simulated clock: discovery against a script of answers, calls of scripted methods,
and whatever else is asked of it between.
-/

namespace ClusterTransport.Simulation

inductive Observer where
  | full
  /-- It is not told of a successful end. -/
  | quiet
  /-- It takes messages and failures from a queue, after each command. -/
  | queued
deriving DecidableEq, Repr

inductive Happening where
  | discoveryCall (number : Nat)
  | answered (id : String) (r : Except Error String)
  | control (id : String) (isNoop : Bool)
  | next (id : String) (text : String)
  | failed (id : String) (e : Error)
  | completed (id : String)
  | taken (id : String) (r : Except Error String)

namespace Happening

/-- Among happenings at one time, discovery calls come first, and controls before all else. -/
def rank : Happening → Nat
  | discoveryCall _ => 0
  | control .. => 1
  | _ => 2

def id : Happening → String
  | discoveryCall _ => ""
  | answered id _ => id
  | control id _ => id
  | next id _ => id
  | failed id _ => id
  | completed id => id
  | taken id _ => id

def inOrder (a b : Instant × Happening) : Bool :=
  if a.1 = b.1 then
    if a.2.rank = b.2.rank then a.2.id ≤ b.2.id else a.2.rank < b.2.rank
  else a.1 < b.1

end Happening

inductive CallProgress where
  | unary (m : Method String) (c : UnaryCall String)
  | stream (m : Method (ResponseStream String)) (observer : Observer) (isCancelled : Bool)
      (c : StreamCall String)

structure RunningCall where
  id : String
  settings : CallSettings
  progress : CallProgress
  /-- The greatest number of steps that it takes at one instant. -/
  budget : Nat

namespace RunningCall

def holdsTransport (c : RunningCall) : Bool :=
  match c.progress with
  | .unary _ (.done _) => false
  | .unary .. => true
  | .stream _ _ _ s => s.isOpening

def hasControl (c : RunningCall) : Bool :=
  match c.progress with
  | .unary .. => false
  | .stream _ _ _ s => !s.isOpening

def cancel (c : RunningCall) : RunningCall :=
  match c.progress with
  | .unary .. => c
  | .stream m observer _ s => { c with progress := .stream m observer true s }

/-- When the call can go on at the latest, if it waits. -/
def due? (c : RunningCall) : Option Instant :=
  match c.progress with
  | .unary m u => u.due? m
  | .stream m _ _ s => s.due? m

def seen (id : String) (observer : Observer) : StreamEvent String → Option Happening
  | .next m => some (if observer = .queued then .taken id (.ok m) else .next id m)
  | .error e => some (if observer = .queued then .taken id (.error e) else .failed id e)
  | .completed => if observer = .full then some (.completed id) else none
  | .control isNoop => some (.control id isNoop)

def step (t : Transport) (v : Preparing.View) (c : RunningCall) :
    Option (Transport × RunningCall × Option Happening) :=
  match c.progress with
  | .unary m u =>
    (u.step t v m).map fun r =>
      (r.1, { c with progress := .unary m r.2 },
        match r.2 with
        | .done result => some (.answered c.id result)
        | _ => none)
  | .stream m observer isCancelled s =>
    (s.step t v m isCancelled).map fun r =>
      (r.1, { c with progress := .stream m observer isCancelled r.2.1 },
        r.2.2.bind (seen c.id observer))

end RunningCall

structure CallRequest where
  id : String
  timeout : Option Span := none
  preferred : Option Endpoint := none
  traceId : Option String := none

def CallRequest.settings (r : CallRequest) (now : Instant) : CallSettings :=
  { deadline := r.timeout.map fun d => now + d, preferred := r.preferred, traceId := r.traceId }

inductive TransportCommand where
  | unary (r : CallRequest) (s : MethodScript)
  | stream (r : CallRequest) (s : MethodScript) (script : StreamScript) (observer : Observer)
  | cancel (id : String)
  /-- A target is taken for a call, and the call's status reported if it is given. -/
  | target (preferred : Option Endpoint) (status : Option Status)
  | select (preferred : Option Endpoint)
  | pessimize (e : Endpoint)
  | snapshot
  | channel (e : Endpoint)
  | hasChannel (e : Endpoint)
  | node (nodeId : UInt32)
  | database
  /-- From now on connections to these hosts fail. -/
  | fail (hosts : List String)
  | shutdown
  | advance (d : Span)

inductive TransportAnswer where
  | nothing
  | flag (b : Bool)
  | text (s : String)
  | record (r : Option Endpoint)
  | records (r : Except Error (List Endpoint))
  | connection (r : Except Error Connection)
  | target (r : Except Error CallTarget)

structure TransportRun where
  now : Instant := 0
  transport : Transport
  script : List DiscoveryReply := []
  failing : List String := []
  calls : List RunningCall := []
  /-- What happened, the latest first. -/
  happenings : List (Instant × Happening) := []

structure TransportReport where
  answer : TransportAnswer
  now : Instant
  happenings : List (Instant × Happening)
  channelEvents : List ChannelEvent
  transport : Transport

namespace TransportRun

/-- The time of marks: their clock stands still. -/
def markTime : Instant := 0

def words : Balancing.Words := { next := fun _ => 0 }

def handler : DiscoveryHandler Transport where
  isUrgent t := t.endpoints.needsUrgentDiscovery
  adopt result t := t.adopt markTime result

def runDiscovery (now : Instant) (r : TransportRun) : TransportRun :=
  let running : DiscoveryTask.Running Transport :=
    { task := r.transport.discovery, state := r.transport }
  let after := running.runAt handler r.script now
  let calls := after.actions.filterMap fun a => match a.2 with
    | .call number => some (a.1, Happening.discoveryCall number)
    | .handOver _ => none
  { r with
    transport := { after.state with discovery := after.task }
    happenings := calls ++ r.happenings }

def view (r : TransportRun) (now : Instant) (settings : CallSettings) : Preparing.View :=
  { settings, reach := Reach.except r.failing, words, now, timers, markTime }

/-- Lets one call go on until it has to wait. -/
def runCall (now : Instant) (c : RunningCall) : Nat → TransportRun → TransportRun × RunningCall
  | 0, r => (r, c)
  | fuel + 1, r =>
    match c.step r.transport (r.view now c.settings) with
    | none => (r, c)
    | some (transport, c', happening) =>
      runCall now c' fuel
        { r with
          transport
          happenings := (happening.map fun h => (now, h)).toList ++ r.happenings }

def runCalls (now : Instant) (r : TransportRun) : TransportRun :=
  let after := r.calls.foldl
    (fun (x : TransportRun × List RunningCall) c =>
      let y := runCall now c c.budget x.1
      (y.1, x.2 ++ [y.2]))
    (r, [])
  { after.1 with calls := after.2 }

/-- Lets everything go on: discovery first, then the calls. -/
def runAt (now : Instant) (r : TransportRun) : TransportRun :=
  (r.runDiscovery now).runCalls now

def dues (r : TransportRun) : List Instant :=
  r.transport.discovery.dues r.script ++ r.calls.filterMap RunningCall.due?

/-- The steps of a call that does nothing but prepare and open. -/
def openingBudget : Nat := 32

def begin (r : TransportRun) (request : CallRequest) (progress : CallProgress) (budget : Nat) :
    TransportRun :=
  { r with
    calls := r.calls ++ [⟨request.id, request.settings r.now, progress, budget⟩] }

/-- Carries out a command. What it starts in the background does not go on yet. -/
def perform (r : TransportRun) (c : TransportCommand) : TransportRun × TransportAnswer :=
  let reach := Reach.except r.failing
  match c with
  | .unary request s =>
    (r.begin request (.unary s.unary (.preparing .begun)) openingBudget, .nothing)
  | .stream request s script observer =>
    (r.begin request (.stream (s.streaming script) observer false (.preparing .begun))
      (openingBudget + 4 * (script.items.length + 1)), .nothing)
  | .cancel id =>
    let isIt := fun (call : RunningCall) => call.id == id && call.hasControl
    ({ r with calls := r.calls.map fun call => if isIt call then call.cancel else call },
      .flag (r.calls.any isIt))
  | .target preferred status =>
    let x := r.transport.callTarget reach words preferred
    let transport := match x.2, status with
      | .ok target, some s => x.1.report markTime target.endpoint s
      | _, _ => x.1
    ({ r with transport }, .target x.2)
  | .select preferred => (r, .records (r.transport.endpoints.picks preferred))
  | .pessimize e =>
    ({ r with transport :=
      { r.transport with endpoints := r.transport.endpoints.pessimize markTime e } }, .nothing)
  | .snapshot => (r, .records (.ok r.transport.endpoints.current.records))
  | .channel e =>
    let x := r.transport.connect reach e
    ({ r with transport := x.1 }, .connection x.2)
  | .hasChannel e => (r, .flag (r.transport.channels.contains e))
  | .node nodeId => (r, .record (r.transport.endpoints.current.ofNode? nodeId))
  | .database => (r, .text r.transport.database)
  | .fail hosts => ({ r with failing := hosts }, .nothing)
  | .shutdown => ({ r with transport := r.transport.shutdown }, .nothing)
  | .advance d =>
    let x := pass dues runAt r.now d r
    ({ x.2 with now := x.1 }, .nothing)

/-- What happened, in the order in which it is listed. Queued observers take what they were sent at
the end. -/
def listed (r : TransportRun) : List (Instant × Happening) :=
  (r.happenings.reverse.map fun h => match h.2 with
    | .taken .. => (r.now, h.2)
    | _ => h).mergeSort Happening.inOrder

def channelEventsSince (t before : Transport) : List ChannelEvent :=
  (t.channels.eventsSince before.channels).mergeSort ChannelEvent.inOrder

/-- Carries out commands in a row. After each of them everything goes on. -/
def performAll (r : TransportRun) : List TransportCommand → TransportRun × List TransportReport
  | [] => (r, [])
  | c :: commands =>
    let x := r.perform c
    let r' := x.1.runAt x.1.now
    let report : TransportReport :=
      { answer := x.2
        now := r'.now
        happenings := r'.listed
        channelEvents := channelEventsSince r'.transport r.transport
        transport := r'.transport }
    let y := performAll { r' with happenings := [] } commands
    (y.1, report :: y.2)

structure Ending where
  /-- Whether the transport could be given up. -/
  isDropped : Bool
  happenings : List (Instant × Happening)
  channelEvents : List ChannelEvent

/-- Gives the transport up, unless a call holds on to it. -/
def finish (r : TransportRun) : Ending :=
  if r.calls.any RunningCall.holdsTransport then ⟨false, r.listed, []⟩
  else
    let r' := ({ r with transport := r.transport.shutdown } : TransportRun).runAt r.now
    ⟨true, r'.listed, channelEventsSince r'.transport r.transport⟩

/-- Starts a transport. Unless `immediate`, everything goes on once before the first command. -/
def start (c : Config) (hasExecutor immediate : Bool) (script : List DiscoveryReply)
    (failing : List String) : Except Error TransportRun :=
  (Transport.start c hasExecutor).map fun t =>
    let transport := { t with discovery := { t.discovery with timers } }
    let r : TransportRun := { transport, script := script.map onTimers, failing }
    if immediate then r else r.runAt 0

end TransportRun

end ClusterTransport.Simulation
