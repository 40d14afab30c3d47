import ClusterTransport.DiscoveryService.Message
import ClusterTransport.Status
import ClusterTransport.Text.Utf8
import ClusterTransport.Url.Percent

/-!
# Answers to requests

What a server sends in answer to one request, and what a caller makes of it: one message, or a
stream of messages that ends or fails.
-/

namespace ClusterTransport

open Text

structure ServerReply where
  messages : List (List UInt8) := []
  /-- The number and the text of the final status; none if the answer breaks off without one. -/
  trailer : Option (Int × String) := some (0, "")
deriving Repr

def Status.ofTrailer (code : Int) (text : String) : Status :=
  let bytes := Url.Percent.decode (Utf8.encode text)
  match Utf8.decode? bytes with
  | some message => ⟨Code.ofInt code, message, none⟩
  | none =>
    let fault := (Utf8.firstFault 0 bytes).elim "" Utf8.Fault.message
    ⟨.unknown, "Error deserializing status message header: " ++ fault, none⟩

namespace ServerReply

def brokenOff : Status :=
  ⟨.unknown, "protocol error: missing grpc-status trailer, stream was terminated without a " ++
    "final status (possible truncation by a proxy or load balancer)", none⟩

def status (r : ServerReply) : Status :=
  match r.trailer with
  | some (code, text) => Status.ofTrailer code text
  | none => brokenOff

/-- Reads one message of at most `limit` bytes. -/
def readMessage {α : Type} (decode : List UInt8 → Except Wire.Fault α) (limit : Nat)
    (bytes : List UInt8) : Except Status α :=
  if limit < bytes.length then
    .error ⟨.outOfRange, "Error, decoded message length too large: found " ++
      toString bytes.length ++ " bytes, the limit is: " ++ toString limit ++ " bytes", none⟩
  else
    match decode bytes with
    | .ok m => .ok m
    | .error fault => .error ⟨.internal, fault.message, none⟩

/-- The messages up to the first that cannot be read, and the failure at the end if there is
one. -/
def readAll {α : Type} (decode : List UInt8 → Except Wire.Fault α) (limit : Nat) (final : Status) :
    List (List UInt8) → List α × Option Status
  | [] => ([], if final.isOk then none else some final)
  | bytes :: rest =>
    match readMessage decode limit bytes with
    | .error s => ([], some s)
    | .ok m => let r := readAll decode limit final rest; (m :: r.1, r.2)

/-- The status of an answer without messages that is over at once because it failed. -/
def refusal? (r : ServerReply) : Option Status :=
  if r.messages.isEmpty && r.trailer.isSome && !r.status.isOk then some r.status else none

def stream {α : Type} (decode : List UInt8 → Except Wire.Fault α) (limit : Nat) (r : ServerReply) :
    Except Status (List α × Option Status) :=
  match r.refusal? with
  | some s => .error s
  | none => .ok (readAll decode limit r.status r.messages)

/-- The first message, if the answer as a whole is well. -/
def unary {α : Type} (decode : List UInt8 → Except Wire.Fault α) (limit : Nat) (r : ServerReply) :
    Except Status α :=
  match readAll decode limit r.status r.messages with
  | (_, some s) => .error s
  | ([], none) => .error ⟨.internal, "Missing response message.", none⟩
  | (m :: _, none) => .ok m

end ServerReply

end ClusterTransport
