import ClusterTransport.Call.Answer
import ClusterTransport.Call.Request
import ClusterTransport.Channel.Factory

/-!
# Calls

One call of a method over a channel: the request is built and sent, and the answer awaited until
the time that was sent with it is over.
-/

namespace ClusterTransport

structure SentRequest where
  path : String
  headers : Headers
  body : List UInt8
deriving DecidableEq, Repr

structure Server where
  /-- Why no connection to it can be opened, if so. -/
  refusal : Option String := none
  /-- Its answers in order with the time that each takes; the last one goes on for ever. -/
  replies : List (Span × ServerReply) := []
  /-- The timers by which answers come and calls expire. -/
  timers : Timers := {}

def Server.replyTo (s : Server) (n : Nat) : Span × ServerReply :=
  (s.replies[n]?).getD (s.replies.getLast?.getD (0, {}))

structure CallOutcome (α : Type) where
  result : Except Status α
  sent : Option SentRequest
  finished : Instant

namespace Call

/-- The path of a method as a server sees it: ASCII without a fragment, from a slash or a query
on, or a star alone. -/
def targetPath? (path : String) : Option String :=
  let isPlain := fun (c : Char) => decide (c.toNat < 0x80) && c != '#'
  let read := fun (s : List Char) =>
    if s.all isPlain then
      (Uri.readPath s).map fun p => if p.isEmpty then "/" else String.ofList p
    else none
  match path.toList with
  | [] => some "/"
  | ['*'] => some "*"
  | '/' :: s => read ('/' :: s)
  | '?' :: s => read ('?' :: s)
  | _ => none

/-- The status of a call whose time ran out before the answer began. -/
def expired : Status :=
  ⟨.cancelled, "Timeout expired", some .timeoutExpired⟩

/-- Calls a method. `number` is that of the request among those that the server is sent; `read`
takes the answer apart. There is no outcome if the time left cannot be written, or the path is
none. -/
def run {α : Type} (channel : Channel) (server : Server) (settings : CallSettings) (path : String)
    (message : List UInt8) (read : Nat → ServerReply → Except Status α) (now : Instant)
    (number : Nat) : Option (CallOutcome α) :=
  match RequestHead.build channel.headers settings now with
  | .error .timeoutTooLong => none
  | .error (.status s) => some ⟨.error s, none, now⟩
  | .ok head =>
    match targetPath? path, server.refusal with
    | none, _ => none
    | some _, some reason =>
      some ⟨.error ⟨.unavailable, reason, some (.connect reason)⟩, none, now⟩
    | some path, none =>
      let sent : SentRequest :=
        { path
          headers := head.headers.set "content-type" "application/grpc"
          body := frame message }
      let (delay, reply) := server.replyTo number
      let delay := server.timers.run delay
      match head.timeout with
      | some t =>
        let patience := server.timers.run t.span
        if patience ≤ delay then some ⟨.error expired, some sent, now + patience⟩
        else some ⟨read channel.maxInboundSize reply, some sent, now + delay⟩
      | none => some ⟨read channel.maxInboundSize reply, some sent, now + delay⟩

def repeated {α : Type} (channel : Channel) (server : Server) (settings : CallSettings)
    (path : String) (message : List UInt8) (read : Nat → ServerReply → Except Status α) :
    Nat → Instant → Nat → Option (List (CallOutcome α))
  | 0, _, _ => some []
  | times + 1, now, number =>
    match run channel server settings path message read now number with
    | none => none
    | some o =>
      let next := if o.sent.isSome then number + 1 else number
      (repeated channel server settings path message read times o.finished next).map (o :: ·)

end Call

end ClusterTransport
