import ClusterTransport.Endpoint
import ClusterTransport.Wire.Field

/-!
# Messages of the discovery service

The request and the response of the call that lists endpoints, with the operation envelope around
the result, and their wire form.
-/

namespace ClusterTransport.DiscoveryService

open Wire

def listEndpointsPath : String := "/Ydb.Discovery.V1.DiscoveryService/ListEndpoints"

/-- Asks for the endpoints of a database, of all services or of those named. -/
structure ListEndpointsRequest where
  database : String := ""
  services : List String := []
deriving DecidableEq, Repr

structure EndpointInfo where
  address : String := ""
  port : UInt32 := 0
  loadFactor : LoadFactor := .zero
  ssl : Bool := false
  services : List String := []
  location : String := ""
  nodeId : UInt32 := 0
deriving DecidableEq, Repr

/-- The endpoints of a database, and the location of the server that answers. -/
structure ListEndpointsResult where
  endpoints : List EndpointInfo := []
  selfLocation : String := ""
deriving DecidableEq, Repr

/-- What went wrong with an operation, with its causes. -/
inductive IssueMessage where
  | mk (message : String) (issueCode severity : UInt32) (issues : List IssueMessage)

namespace IssueMessage

def empty : IssueMessage := ⟨"", 0, 0, []⟩

def message : IssueMessage → String
  | ⟨m, _, _, _⟩ => m

instance : Inhabited IssueMessage := ⟨empty⟩

end IssueMessage

/-- A message of any type in its wire form. -/
structure Packed where
  typeUrl : String := ""
  value : List UInt8 := []
deriving DecidableEq, Repr

structure Operation where
  id : String := ""
  ready : Bool := false
  status : Int32 := 0
  issues : List IssueMessage := []
  result : Option Packed := none

structure ListEndpointsResponse where
  operation : Option Operation := none

namespace ListEndpointsRequest

def encode (m : ListEndpointsRequest) : List UInt8 :=
  stringField 1 m.database ++ stringFields 2 m.services

end ListEndpointsRequest

namespace EndpointInfo

def mergeField (depth : Nat) (k : Key) (m : EndpointInfo) (bytes : List UInt8) :
    Read EndpointInfo :=
  let field := fun (name : String) (r : Read EndpointInfo) => within "EndpointInfo" name r
  match k.number with
  | 1 => field "address" <|
    (readString k.wireType bytes).map fun r => ({ m with address := r.1 }, r.2)
  | 2 => field "port" <|
    (readNat k.wireType bytes).map fun r => ({ m with port := UInt32.ofNat r.1 }, r.2)
  | 3 => field "load_factor" <|
    (readFixed32 k.wireType bytes).map fun r => ({ m with loadFactor := ⟨r.1⟩ }, r.2)
  | 4 => field "ssl" <| (readNat k.wireType bytes).map fun r => ({ m with ssl := r.1 ≠ 0 }, r.2)
  | 5 => field "service" <|
    (readString k.wireType bytes).map fun r => ({ m with services := m.services ++ [r.1] }, r.2)
  | 6 => field "location" <|
    (readString k.wireType bytes).map fun r => ({ m with location := r.1 }, r.2)
  | 7 => field "node_id" <|
    (readNat k.wireType bytes).map fun r => ({ m with nodeId := UInt32.ofNat r.1 }, r.2)
  | _ => (skipValue depth k bytes).map fun r => (m, r.2)

def encode (m : EndpointInfo) : List UInt8 :=
  stringField 1 m.address ++ natField 2 m.port.toNat ++ floatField 3 m.loadFactor.bits ++
    boolField 4 m.ssl ++ stringFields 5 m.services ++ stringField 6 m.location ++
    natField 7 m.nodeId.toNat

end EndpointInfo

namespace ListEndpointsResult

def mergeField (depth : Nat) (k : Key) (m : ListEndpointsResult) (bytes : List UInt8) :
    Read ListEndpointsResult :=
  match k.number with
  | 1 => within "ListEndpointsResult" "endpoints" <|
    (mergeMessage EndpointInfo.mergeField depth k.wireType {} bytes).map fun r =>
      ({ m with endpoints := m.endpoints ++ [r.1] }, r.2)
  | 2 => within "ListEndpointsResult" "self_location" <|
    (readString k.wireType bytes).map fun r => ({ m with selfLocation := r.1 }, r.2)
  | _ => (skipValue depth k bytes).map fun r => (m, r.2)

def decode (bytes : List UInt8) : Except Wire.Fault ListEndpointsResult :=
  decodeMessage mergeField {} bytes

def encode (m : ListEndpointsResult) : List UInt8 :=
  (m.endpoints.flatMap fun e => delimited 1 e.encode) ++ stringField 2 m.selfLocation

end ListEndpointsResult

namespace IssueMessage

def mergeField (depth : Nat) (k : Key) (m : IssueMessage) (bytes : List UInt8) :
    Read IssueMessage :=
  match m with
  | ⟨text, code, severity, issues⟩ =>
    match k.number with
    | 3 => within "IssueMessage" "message" <|
      (readString k.wireType bytes).map fun r => (⟨r.1, code, severity, issues⟩, r.2)
    | 5 => within "IssueMessage" "issue_code" <|
      (readNat k.wireType bytes).map fun r => (⟨text, UInt32.ofNat r.1, severity, issues⟩, r.2)
    | 6 => within "IssueMessage" "severity" <|
      (readNat k.wireType bytes).map fun r => (⟨text, code, UInt32.ofNat r.1, issues⟩, r.2)
    | 7 => within "IssueMessage" "issues" <|
      (expecting .lengthDelimited k.wireType <|
        match depth with
        | 0 => fail .recursionLimit
        | depth + 1 => mergeDelimited (mergeField depth) empty bytes).map fun r =>
          (⟨text, code, severity, issues ++ [r.1]⟩, r.2)
    | _ => (skipValue depth k bytes).map fun r => (⟨text, code, severity, issues⟩, r.2)

mutual

def encode : IssueMessage → List UInt8
  | ⟨text, code, severity, issues⟩ =>
    stringField 3 text ++ natField 5 code.toNat ++ natField 6 severity.toNat ++ encodeCauses issues

def encodeCauses : List IssueMessage → List UInt8
  | [] => []
  | i :: issues => delimited 7 (encode i) ++ encodeCauses issues

end

end IssueMessage

namespace Packed

def mergeField (depth : Nat) (k : Key) (m : Packed) (bytes : List UInt8) : Read Packed :=
  match k.number with
  | 1 => within "Any" "type_url" <|
    (readString k.wireType bytes).map fun r => ({ m with typeUrl := r.1 }, r.2)
  | 2 => within "Any" "value" <|
    (readBytes k.wireType bytes).map fun r => ({ m with value := r.1 }, r.2)
  | _ => (skipValue depth k bytes).map fun r => (m, r.2)

def encode (m : Packed) : List UInt8 :=
  stringField 1 m.typeUrl ++ bytesField 2 m.value

end Packed

namespace Operation

def mergeField (depth : Nat) (k : Key) (m : Operation) (bytes : List UInt8) : Read Operation :=
  let field := fun (name : String) (r : Read Operation) => within "Operation" name r
  match k.number with
  | 1 => field "id" <| (readString k.wireType bytes).map fun r => ({ m with id := r.1 }, r.2)
  | 2 => field "ready" <|
    (readNat k.wireType bytes).map fun r => ({ m with ready := r.1 ≠ 0 }, r.2)
  | 3 => field "status" <|
    (readNat k.wireType bytes).map fun r => ({ m with status := (UInt32.ofNat r.1).toInt32 }, r.2)
  | 4 => field "issues" <|
    (mergeMessage IssueMessage.mergeField depth k.wireType IssueMessage.empty bytes).map fun r =>
      ({ m with issues := m.issues ++ [r.1] }, r.2)
  | 5 => field "result" <|
    (mergeMessage Packed.mergeField depth k.wireType (m.result.getD {}) bytes).map fun r =>
      ({ m with result := some r.1 }, r.2)
  | _ => (skipValue depth k bytes).map fun r => (m, r.2)

def encode (m : Operation) : List UInt8 :=
  stringField 1 m.id ++ boolField 2 m.ready ++ int32Field 3 m.status ++
    (m.issues.flatMap fun i => delimited 4 i.encode) ++
    (match m.result with
      | none => []
      | some p => delimited 5 p.encode)

end Operation

namespace ListEndpointsResponse

def mergeField (depth : Nat) (k : Key) (m : ListEndpointsResponse) (bytes : List UInt8) :
    Read ListEndpointsResponse :=
  match k.number with
  | 1 => within "ListEndpointsResponse" "operation" <|
    (mergeMessage Operation.mergeField depth k.wireType (m.operation.getD {}) bytes).map fun r =>
      ({ m with operation := some r.1 }, r.2)
  | _ => (skipValue depth k bytes).map fun r => (m, r.2)

def decode (bytes : List UInt8) : Except Wire.Fault ListEndpointsResponse :=
  decodeMessage mergeField {} bytes

def encode (m : ListEndpointsResponse) : List UInt8 :=
  match m.operation with
  | none => []
  | some o => delimited 1 o.encode

end ListEndpointsResponse

end ClusterTransport.DiscoveryService
