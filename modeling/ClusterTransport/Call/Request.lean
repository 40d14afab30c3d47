import ClusterTransport.Call.Settings
import ClusterTransport.Call.Timeout

/-!
# Requests

The headers of a request, built when the call is sent, and the frame of its message.
-/

namespace ClusterTransport

inductive RequestFault where
  /-- The call is over with this status before it is sent. -/
  | status (s : Status)
  /-- The time left is too long to be written. -/
  | timeoutTooLong
deriving DecidableEq, Repr

structure RequestHead where
  headers : Headers
  timeout : Option WireTimeout
deriving DecidableEq, Repr

namespace RequestHead

def withTraceId (traceId : Option String) (h : Headers) : Except RequestFault Headers :=
  match traceId with
  | none => .ok h
  | some id =>
    if Headers.isValue id then .ok (h.set Headers.traceIdName id)
    else .error (.status ⟨.invalidArgument, "trace id is not a valid header value", none⟩)

def withTimeout (remaining : Option Span) (h : Headers) : Except RequestFault RequestHead :=
  match remaining with
  | none => .ok ⟨h, none⟩
  | some d =>
    if d = 0 then
      .error (.status ⟨.deadlineExceeded, "deadline expired before the call was sent", none⟩)
    else
      match WireTimeout.ofSpan? d with
      | none => .error .timeoutTooLong
      | some t => .ok ⟨h.set Headers.timeoutName t.render, some t⟩

def build (channel : ChannelHeaders) (settings : CallSettings) (now : Instant) :
    Except RequestFault RequestHead := do
  withTimeout (settings.remaining now) (← withTraceId settings.traceId (channel.apply []))

end RequestHead

/-- The frame of an uncompressed message: a zero, its length in four bytes, and its bytes. -/
def frame (message : List UInt8) : List UInt8 :=
  let n := message.length
  0 :: UInt8.ofNat (n / 0x1000000) :: UInt8.ofNat (n / 0x10000) :: UInt8.ofNat (n / 0x100) ::
    UInt8.ofNat n :: message

end ClusterTransport
