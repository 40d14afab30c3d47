/-!
# Operation status

The outcome that a server gives an operation, by number and by name.
-/

namespace ClusterTransport.DiscoveryService

inductive StatusCode where
  | unspecified
  | success
  | badRequest
  | unauthorized
  | internalError
  | aborted
  | unavailable
  | overloaded
  | schemeError
  | genericError
  | timeout
  | badSession
  | preconditionFailed
  | alreadyExists
  | notFound
  | sessionExpired
  | cancelled
  | undetermined
  | unsupported
  | sessionBusy
deriving DecidableEq, Repr

namespace StatusCode

def table : List (Int × StatusCode × String) :=
  [(0, unspecified, "Unspecified"), (400000, success, "Success"),
    (400010, badRequest, "BadRequest"), (400020, unauthorized, "Unauthorized"),
    (400030, internalError, "InternalError"), (400040, aborted, "Aborted"),
    (400050, unavailable, "Unavailable"), (400060, overloaded, "Overloaded"),
    (400070, schemeError, "SchemeError"), (400080, genericError, "GenericError"),
    (400090, timeout, "Timeout"), (400100, badSession, "BadSession"),
    (400120, preconditionFailed, "PreconditionFailed"), (400130, alreadyExists, "AlreadyExists"),
    (400140, notFound, "NotFound"), (400150, sessionExpired, "SessionExpired"),
    (400160, cancelled, "Cancelled"), (400170, undetermined, "Undetermined"),
    (400180, unsupported, "Unsupported"), (400190, sessionBusy, "SessionBusy")]

def ofNumber? (n : Int) : Option StatusCode :=
  (table.find? fun r => r.1 = n).map fun r => r.2.1

/-- The outcome of a number; unknown numbers specify none. -/
def ofNumber (n : Int) : StatusCode :=
  (ofNumber? n).getD unspecified

def name (c : StatusCode) : String :=
  ((table.find? fun r => r.2.1 = c).map fun r => r.2.2).getD ""

end StatusCode

end ClusterTransport.DiscoveryService
