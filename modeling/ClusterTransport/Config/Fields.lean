import ClusterTransport.Config.Basic
import ClusterTransport.Json.Basic

/-!
# Configuration fields

The configuration as a JSON value, and back. Every field may be missing and then has its default;
unknown keys are ignored. How single values are read is a parameter: strictly by their kind, or
leniently with conversions between kinds.
-/

namespace ClusterTransport.Config

structure Conversions where
  text : Json → Option String
  bool : Json → Option Bool
  nat : Json → Option UInt64
  float : Json → Option Float
  /-- What the sole field of an object that stands for one of a few names may hold. -/
  marker : Json → Bool
  /-- Whether an array may have items that no field takes. -/
  surplus : Bool

/-- Where the fields of a structure are taken from: by key, or in order. -/
inductive Source where
  | keyed (fields : List (String × Json))
  | listed (items : List Json)

namespace Source

def ofJson : Json → Option Source
  | .object fields => some (.keyed fields)
  | .array items => some (.listed items)
  | _ => none

def value? (s : Source) (key : String) (place : Nat) : Option Json :=
  match s with
  | keyed fields => Json.lookup key fields
  | listed items => items[place]?

/-- Whether the source has no more items than a structure has fields. -/
def fits (s : Source) (count : Nat) : Bool :=
  match s with
  | keyed _ => true
  | listed items => items.length ≤ count

/-- Reads a field, or takes its default if it is missing. -/
def read {α : Type} (s : Source) (key : String) (place : Nat) (f : Json → Option α) (missing : α) :
    Option α :=
  match s.value? key place with
  | none => some missing
  | some v => f v

end Source

def readStructure {α : Type} (c : Conversions) (count : Nat) (f : Source → Option α) (v : Json) :
    Option α :=
  match Source.ofJson v with
  | none => none
  | some s => if c.surplus || s.fits count then f s else none

def readOptional {α : Type} (f : Json → Option α) : Json → Option (Option α)
  | .null => some none
  | v => (f v).map some

/-- Reads one of a few names, as a text or as the sole key of an object. -/
def readName {α : Type} (c : Conversions) (names : List (String × α)) : Json → Option α
  | .string s => names.lookup s
  | .object [(k, v)] => if c.marker v then names.lookup k else none
  | _ => none

def policyNames : List (String × BalancingPolicy) :=
  [("use_all_nodes", .useAllNodes), ("use_preferable_location", .usePreferableLocation)]

def weightingNames : List (String × Weighting) :=
  [("uniform", .uniform), ("load_factor", .loadFactor)]

def readDiscovery (c : Conversions) : Json → Option DiscoverySettings :=
  readStructure c 3 fun s => do
    let d : DiscoverySettings := {}
    let period ← s.read "period_secs" 0 c.nat d.period
    let minPeriod ← s.read "min_period_secs" 1 c.nat d.minPeriod
    let timeout ← s.read "timeout_secs" 2 c.nat d.timeout
    pure ⟨period, minPeriod, timeout⟩

def readBalancing (c : Conversions) : Json → Option BalancingSettings :=
  readStructure c 3 fun s => do
    let d : BalancingSettings := {}
    let policy ← s.read "policy" 0 (readName c policyNames) d.policy
    let location ← s.read "preferable_location" 1 (readOptional c.text) d.preferableLocation
    let weighting ← s.read "weighting" 2 (readName c weightingNames) d.weighting
    pure ⟨policy, location, weighting⟩

def readPessimization (c : Conversions) : Json → Option PessimizationSettings :=
  readStructure c 2 fun s => do
    let d : PessimizationSettings := {}
    let ttl ← s.read "ttl_secs" 0 c.nat d.ttl
    let ratio ← s.read "urgent_discovery_ratio" 1 c.float d.urgentRatio
    pure ⟨ttl, ratio⟩

/-- Reads a configuration. Certificates are never part of it. -/
def ofJson (c : Conversions) : Json → Option Config :=
  readStructure c 11 fun s => do
    let d : Config := {}
    let endpoint ← s.read "endpoint" 0 c.text d.endpoint
    let database ← s.read "database" 1 c.text d.database
    let useTls ← s.read "use_tls" 2 c.bool d.useTls
    let caPath ← s.read "ca_certificate_path" 3 (readOptional c.text) d.caPath
    let maxInboundSize ← s.read "max_inbound_message_size" 4 c.nat d.maxInboundSize
    let connectTimeout ← s.read "connect_timeout_secs" 5 c.nat d.connectTimeout
    let defaultDeadline ← s.read "default_deadline_secs" 6 c.nat d.defaultDeadline
    let buildInfo ← s.read "build_info" 7 c.text d.buildInfo
    let discovery ← s.read "discovery" 8 (readDiscovery c) d.discovery
    let balancing ← s.read "balancing" 9 (readBalancing c) d.balancing
    let pessimization ← s.read "pessimization" 10 (readPessimization c) d.pessimization
    pure {
      endpoint, database, useTls, caPath, maxInboundSize, connectTimeout, defaultDeadline,
      buildInfo, discovery, balancing, pessimization }

def optionalText : Option String → Json
  | none => .null
  | some s => .string s

def natJson (n : UInt64) : Json :=
  .int (Int.ofNat n.toNat)

/-- A floating-point number; infinities and what is no number have no JSON form but null. -/
def floatJson (x : Float) : Json :=
  if x.isFinite then .float x else .null

def discoveryJson (d : DiscoverySettings) : Json :=
  .object [("period_secs", natJson d.period), ("min_period_secs", natJson d.minPeriod),
    ("timeout_secs", natJson d.timeout)]

def policyName : BalancingPolicy → String
  | .useAllNodes => "use_all_nodes"
  | .usePreferableLocation => "use_preferable_location"

def weightingName : Weighting → String
  | .uniform => "uniform"
  | .loadFactor => "load_factor"

def balancingJson (b : BalancingSettings) : Json :=
  .object [("policy", .string (policyName b.policy)),
    ("preferable_location", optionalText b.preferableLocation),
    ("weighting", .string (weightingName b.weighting))]

def pessimizationJson (p : PessimizationSettings) : Json :=
  .object [("ttl_secs", natJson p.ttl), ("urgent_discovery_ratio", floatJson p.urgentRatio)]

/-- A configuration as a JSON value, without its certificates. -/
def toJson (c : Config) : Json :=
  .object [("endpoint", .string c.endpoint), ("database", .string c.database),
    ("use_tls", .bool c.useTls), ("ca_certificate_path", optionalText c.caPath),
    ("max_inbound_message_size", natJson c.maxInboundSize),
    ("connect_timeout_secs", natJson c.connectTimeout),
    ("default_deadline_secs", natJson c.defaultDeadline), ("build_info", .string c.buildInfo),
    ("discovery", discoveryJson c.discovery), ("balancing", balancingJson c.balancing),
    ("pessimization", pessimizationJson c.pessimization)]

end ClusterTransport.Config
