import ClusterTransport.Transport.UnaryCall

/-!
# Streaming calls

One request and a stream of messages. An observer is told of each message and of the end. Once the
stream is open, a pump of its own passes the messages on until the stream ends or the caller
cancels it.
-/

namespace ClusterTransport

inductive StreamItem (ρ : Type) where
  | message (m : ρ)
  | failure (s : Status)
  | finish

/-- The steps of a response stream to come, with the time that each takes; after the last nothing
ever comes. -/
abbrev ResponseStream (ρ : Type) := List (Span × StreamItem ρ)

inductive StreamEvent (ρ : Type) where
  | next (m : ρ)
  | error (e : Error)
  | completed
  /-- The caller is given the control of the stream, which controls nothing if the stream never
  opened. -/
  | control (isNoop : Bool)

/-- How far the pump of a stream is. -/
inductive Pump (ρ : Type) where
  /-- It is to be seen whether the stream is cancelled. -/
  | checking
  /-- The next step of the stream is to be taken if it has come. -/
  | pulling
  /-- It has not come; the pump sleeps until it comes or the stream is cancelled. -/
  | waiting
  /-- The status is to be reported. -/
  | reporting (s : Status)
  /-- The observer is to be told. -/
  | delivering (item : StreamItem ρ)

/-- How far a streaming call is. -/
inductive StreamCall (ρ : Type) where
  | preparing (p : Preparing)
  | opening (target : CallTarget) (since : Instant)
  /-- The status with which the stream did not open is to be reported. -/
  | rejected (target : CallTarget) (s : Status)
  /-- The observer is to be told why the stream did not open. -/
  | failing (e : Error)
  /-- The caller is to be given a control of nothing. -/
  | returning
  /-- The stream is open, and the caller is to be given its control. -/
  | opened (target : CallTarget) (stream : ResponseStream ρ)
  | pumping (target : CallTarget) (stream : ResponseStream ρ) (since : Instant) (p : Pump ρ)
  | ended

namespace StreamCall

variable {ρ : Type}

def hasCome (stream : ResponseStream ρ) (since now : Instant) : Bool :=
  match stream with
  | (delay, _) :: _ => since + delay ≤ now
  | [] => false

def stepPump (t : Transport) (v : Preparing.View) (isCancelled : Bool) (target : CallTarget)
    (stream : ResponseStream ρ) (since : Instant) :
    Pump ρ → Option (Transport × StreamCall ρ × Option (StreamEvent ρ))
  | .checking =>
    some (t, if isCancelled then ended else pumping target stream since .pulling, none)
  | .pulling =>
    match stream with
    | (delay, item) :: rest =>
      if since + delay ≤ v.now then
        match item with
        | .failure s => some (t, pumping target rest v.now (.reporting s), none)
        | item => some (t, pumping target rest v.now (.delivering item), none)
      else some (t, pumping target stream since .waiting, none)
    | [] => some (t, pumping target stream since .waiting, none)
  | .waiting =>
    if isCancelled || hasCome stream since v.now then
      some (t, pumping target stream since .checking, none)
    else none
  | .reporting s =>
    some (t.report v.markTime target.endpoint s,
      pumping target stream since (.delivering (.failure s)), none)
  | .delivering (.message m) => some (t, pumping target stream since .checking, some (.next m))
  | .delivering (.failure s) => some (t, ended, some (.error (.rpc s)))
  | .delivering .finish => some (t, ended, some .completed)

def step (t : Transport) (v : Preparing.View) (m : Method (ResponseStream ρ))
    (isCancelled : Bool) :
    StreamCall ρ → Option (Transport × StreamCall ρ × Option (StreamEvent ρ))
  | preparing (.done (.error e)) => some (t, failing e, none)
  | preparing (.done (.ok target)) => some (t, opening target v.now, none)
  | preparing p => (p.step t v).map fun r => (r.1, preparing r.2, none)
  | opening target since =>
    (m.result? target since v.now).map fun answer =>
      match answer with
      | .ok stream => (t, opened target stream, none)
      | .error s => (t, rejected target s, none)
  | rejected target s => some (t.report v.markTime target.endpoint s, failing (.rpc s), none)
  | failing e => some (t, returning, some (.error e))
  | returning => some (t, ended, some (.control true))
  | opened target stream =>
    some (t, pumping target stream v.now .checking, some (.control false))
  | pumping target stream since p => stepPump t v isCancelled target stream since p
  | ended => none

def isOpening : StreamCall ρ → Bool
  | pumping .. => false
  | ended => false
  | _ => true

def due? (m : Method (ResponseStream ρ)) : StreamCall ρ → Option Instant
  | preparing p => p.due?
  | opening target since => m.end? target since
  | pumping _ ((delay, _) :: _) since .waiting => some (since + delay)
  | _ => none

end StreamCall

end ClusterTransport
