import ClusterTransport.Call.Header
import ClusterTransport.Clock
import ClusterTransport.Endpoint

/-!
# Call settings

What a caller asks of one call: when it must be over, which endpoint it should go to, and how it
is traced.
-/

namespace ClusterTransport

structure CallSettings where
  deadline : Option Instant := none
  /-- The endpoint to call if it is listed and not marked. -/
  preferred : Option Endpoint := none
  traceId : Option String := none
deriving DecidableEq, Repr

namespace CallSettings

/-- The settings with the deadline a span from now, unless time ends before. -/
def withTimeout? (s : CallSettings) (now : Instant) (timeout : Span) : Option CallSettings :=
  (Instant.after? now timeout).map fun deadline => { s with deadline := some deadline }

/-- Checks what is sent as a header. -/
def validate (s : CallSettings) : Except Error Unit :=
  match s.traceId with
  | some id => if Headers.isValue id then .ok () else .error (.configuration (.traceId id))
  | none => .ok ()

def remaining (s : CallSettings) (now : Instant) : Option Span :=
  s.deadline.map fun deadline => deadline - now

/-- Whether there is a deadline and it has passed. -/
def isExpired (s : CallSettings) (now : Instant) : Bool :=
  s.remaining now = some 0

end CallSettings

end ClusterTransport
