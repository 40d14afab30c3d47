import ClusterTransport.Text.Quoted

/-!
# Call status

The outcome a server or the client side of a call gives it: a code, a message, and for the two
failures below the protocol the cause.
-/

namespace ClusterTransport

inductive Code where
  | ok
  | cancelled
  | unknown
  | invalidArgument
  | deadlineExceeded
  | notFound
  | alreadyExists
  | permissionDenied
  | resourceExhausted
  | failedPrecondition
  | aborted
  | outOfRange
  | unimplemented
  | internal
  | unavailable
  | dataLoss
  | unauthenticated
deriving DecidableEq, Repr

namespace Code

def number : Code → Nat
  | ok => 0
  | cancelled => 1
  | unknown => 2
  | invalidArgument => 3
  | deadlineExceeded => 4
  | notFound => 5
  | alreadyExists => 6
  | permissionDenied => 7
  | resourceExhausted => 8
  | failedPrecondition => 9
  | aborted => 10
  | outOfRange => 11
  | unimplemented => 12
  | internal => 13
  | unavailable => 14
  | dataLoss => 15
  | unauthenticated => 16

/-- The code of a number; numbers without a code are unknown. -/
def ofNumber : Nat → Code
  | 0 => ok
  | 1 => cancelled
  | 3 => invalidArgument
  | 4 => deadlineExceeded
  | 5 => notFound
  | 6 => alreadyExists
  | 7 => permissionDenied
  | 8 => resourceExhausted
  | 9 => failedPrecondition
  | 10 => aborted
  | 11 => outOfRange
  | 12 => unimplemented
  | 13 => internal
  | 14 => unavailable
  | 15 => dataLoss
  | 16 => unauthenticated
  | _ => unknown

def ofInt (n : Int) : Code :=
  if n < 0 then unknown else ofNumber n.toNat

@[simp] theorem ofNumber_number (c : Code) : ofNumber c.number = c := by
  cases c <;> rfl

def description : Code → String
  | ok => "The operation completed successfully"
  | cancelled => "The operation was cancelled"
  | unknown => "Unknown error"
  | invalidArgument => "Client specified an invalid argument"
  | deadlineExceeded => "Deadline expired before operation could complete"
  | notFound => "Some requested entity was not found"
  | alreadyExists => "Some entity that we attempted to create already exists"
  | permissionDenied =>
    "The caller does not have permission to execute the specified operation"
  | resourceExhausted => "Some resource has been exhausted"
  | failedPrecondition =>
    "The system is not in a state required for the operation's execution"
  | aborted => "The operation was aborted"
  | outOfRange => "Operation was attempted past the valid range"
  | unimplemented => "Operation is not implemented or not supported"
  | internal => "Internal error"
  | unavailable => "The service is currently unavailable"
  | dataLoss => "Unrecoverable data loss or corruption"
  | unauthenticated => "The request does not have valid authentication credentials"

end Code

/-- Failures below the protocol that a status names as its source. -/
inductive TransportFailure where
  | timeoutExpired
  | connect (reason : String)
deriving DecidableEq, Repr

def TransportFailure.describe : TransportFailure → String
  | timeoutExpired => "tonic::transport::Error(Transport, TimeoutExpired(()))"
  | connect reason =>
    "tonic::transport::Error(Transport, ConnectError(Custom \x7b kind: Other, error: " ++
      Text.quote reason ++ " \x7d))"

structure Status where
  code : Code
  message : String
  source : Option TransportFailure := none
deriving DecidableEq, Repr

namespace Status

def isOk (s : Status) : Bool :=
  s.code = .ok

/-- A status in one line: the code in words, then the message and the source if there are any. -/
def describe (s : Status) : String :=
  "code: '" ++ s.code.description ++ "'" ++
    (if s.message.isEmpty then "" else ", message: " ++ Text.quote s.message) ++
    (match s.source with
      | none => ""
      | some f => ", source: " ++ f.describe)

end Status

end ClusterTransport
