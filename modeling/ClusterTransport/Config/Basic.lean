import ClusterTransport.Balancing
import ClusterTransport.Error

/-!
# Configuration

The settings of a transport with their defaults.
-/

namespace ClusterTransport

/-- When discovery runs, in seconds. -/
structure DiscoverySettings where
  period : UInt64 := 60
  /-- The time between rounds while endpoints are needed urgently. -/
  minPeriod : UInt64 := 5
  timeout : UInt64 := 10
deriving DecidableEq, Repr

structure PessimizationSettings where
  /-- How long a mark survives rounds that still list the endpoint, in seconds. -/
  ttl : UInt64 := 60
  /-- The share of marked endpoints above which discovery is urgent. -/
  urgentRatio : Float := 0.5

structure Config where
  /-- The endpoint that is asked for all others. -/
  endpoint : String := "localhost:2135"
  database : String := ""
  useTls : Bool := false
  /-- The file of the trusted certificates; those of the system if unset. -/
  caPath : Option String := none
  /-- The trusted certificates themselves, taken before those of the file. -/
  caCertificate : Option (List UInt8) := none
  maxInboundSize : UInt64 := 67108864
  connectTimeout : UInt64 := 10
  /-- How long a call without a deadline waits for readiness, in seconds. -/
  defaultDeadline : UInt64 := 60
  buildInfo : String := "ydb-transport/0.1.0"
  discovery : DiscoverySettings := {}
  balancing : BalancingSettings := {}
  pessimization : PessimizationSettings := {}

namespace Config

/-- The configuration with certificates set, and secure connections with them. -/
def withCertificate (c : Config) (pem : List UInt8) : Config :=
  { c with useTls := true, caCertificate := some pem }

def bootstrap (c : Config) : Except Error Endpoint :=
  match Endpoint.parse c.endpoint with
  | .ok e => .ok e
  | .error fault => .error (.configuration (.address fault))

inductive PathContent where
  | file (bytes : List UInt8)
  | directory
  | nothing
  /-- Nowhere: the path goes on behind a file. -/
  | behindFile
  /-- Nowhere: no path is as long, or none of its names. -/
  | tooLong

def trustedCertificate (read : String → PathContent) (c : Config) :
    Except Error (Option (List UInt8)) :=
  match c.caCertificate with
  | some pem => .ok (some pem)
  | none =>
    match c.caPath with
    | none => .ok none
    | some path =>
      if '\x00' ∈ path.toList then .error (.io .nulInName)
      else
        match read path with
        | .file bytes => .ok (some bytes)
        | .directory => .error (.io .isDirectory)
        | .nothing => .error (.io .noSuchFile)
        | .behindFile => .error (.io .notDirectory)
        | .tooLong => .error (.io .nameTooLong)

end Config

end ClusterTransport
