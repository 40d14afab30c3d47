import ClusterTransport.DiscoveryService.Client
import ClusterTransport.Proofs.Outcomes
import ClusterTransport.Proofs.Wire.Field
import Mathlib.Data.List.Forall2

/-!
# Listings read back

What a server lists is what a response with its listing comes to: a record for each endpoint whose
port is one, in the order of the listing. A response comes to nothing else than such a listing or a
fault of the discovery.
-/

namespace ClusterTransport.DiscoveryService

open Wire

/-! ## Listings -/

namespace EndpointInfo

/-- The written form of an endpoint is short enough for its length to be written, and its load is
not a negative zero, which is written like no load. -/
structure IsWritable (e : EndpointInfo) : Prop where
  length : e.encode.length < 0x10000000000000000
  load : e.loadFactor ≠ ⟨0x80000000⟩

private theorem carries_services {l : List String} {depth : Nat}
    (h : (stringFields 5 l).length < 0x10000000000000000) (e : EndpointInfo) :
    Carries (mergeField depth) (stringFields 5 l) e { e with services := e.services ++ l } := by
  refine carries_flatMap (fun services => { e with services }) (fun before s hs => ?_) e.services
  refine carries_text (by decide) (fun s => { e with services := before ++ [s] })
    (fun _ => rfl) rfl ?_
  calc (Text.Utf8.encode s).length
    _ ≤ (delimited 5 (Text.Utf8.encode s)).length := length_le_delimited 5 _
    _ ≤ (stringFields 5 l).length := length_le_flatMap (fun s => delimited 5 _) hs
    _ < 0x10000000000000000 := h

private theorem IsWritable.carries {e : EndpointInfo} (h : e.IsWritable) (depth : Nat) :
    Carries (mergeField depth) e.encode {} e := by
  obtain ⟨address, port, load, ssl, services, location, nodeId⟩ := e
  have hlength := h.length
  simp only [encode, List.length_append] at hlength
  have hsign : load.bits ≠ 0x80000000 := fun hbits => h.load (congrArg LoadFactor.mk hbits)
  have hnat (n : UInt32) : n.toNat < 0x10000000000000000 :=
    Nat.lt_of_lt_of_le n.toNat_lt (by decide)
  have haddress : Carries (mergeField depth) (stringField 1 address) {} { address } :=
    carries_stringField (by decide) (fun s => { address := s }) (fun _ => rfl) rfl rfl (by omega)
  have hport : Carries (mergeField depth) (natField 2 port.toNat) { address } { address, port } :=
    carries_natField (by decide) (fun n => { address, port := UInt32.ofNat n }) (fun _ => rfl) rfl
      (by simp) (hnat port)
  have hload : Carries (mergeField depth) (floatField 3 load.bits) { address, port }
      { address, port, loadFactor := load } :=
    carries_floatField (by decide) (fun bits => { address, port, loadFactor := ⟨bits⟩ })
      (fun _ => rfl) rfl rfl hsign
  have hssl : Carries (mergeField depth) (boolField 4 ssl) { address, port, loadFactor := load }
      { address, port, loadFactor := load, ssl } :=
    carries_boolField (by decide) (fun n => { address, port, loadFactor := load, ssl := n ≠ 0 })
      (fun _ => rfl) rfl (by cases ssl <;> rfl)
  have hservices : Carries (mergeField depth) (stringFields 5 services)
      { address, port, loadFactor := load, ssl }
      { address, port, loadFactor := load, ssl, services } :=
    carries_services (by omega) _
  have hlocation : Carries (mergeField depth) (stringField 6 location)
      { address, port, loadFactor := load, ssl, services }
      { address, port, loadFactor := load, ssl, services, location } :=
    carries_stringField (by decide)
      (fun s => { address, port, loadFactor := load, ssl, services, location := s })
      (fun _ => rfl) rfl rfl (by omega)
  have hnode : Carries (mergeField depth) (natField 7 nodeId.toNat)
      { address, port, loadFactor := load, ssl, services, location }
      { address, port, loadFactor := load, ssl, services, location, nodeId } :=
    carries_natField (by decide)
      (fun n => { address, port, loadFactor := load, ssl, services, location,
                  nodeId := UInt32.ofNat n })
      (fun _ => rfl) rfl (by simp) (hnat nodeId)
  exact (((((haddress.append hport).append hload).append hssl).append hservices).append
    hlocation).append hnode

end EndpointInfo

namespace ListEndpointsResult

/-- The written form of a listing is short enough for its lengths to be written, and no load is a
negative zero, which is written like no load. -/
structure IsWritable (m : ListEndpointsResult) : Prop where
  length : m.encode.length < 0x10000000000000000
  loads : ∀ e ∈ m.endpoints, e.loadFactor ≠ ⟨0x80000000⟩

private theorem carries_endpoints {l : List EndpointInfo} {depth : Nat} (h : ∀ e ∈ l, e.IsWritable)
    (m : ListEndpointsResult) :
    Carries (mergeField (depth + 1)) (l.flatMap fun e => delimited 1 e.encode) m
      { m with endpoints := m.endpoints ++ l } := by
  refine carries_flatMap (fun endpoints => { m with endpoints }) (fun before e he => ?_) m.endpoints
  exact carries_message (by decide) (fun e => { m with endpoints := before ++ [e] })
    (fun _ => rfl) rfl ((h e he).carries depth) (h e he).length

/-- A listing is read back from its written form. -/
theorem IsWritable.decode_encode {m : ListEndpointsResult} (h : m.IsWritable) :
    decode m.encode = .ok m := by
  obtain ⟨endpoints, selfLocation⟩ := m
  have hlength := h.length
  simp only [encode, List.length_append] at hlength
  have hwritable : ∀ e ∈ endpoints, e.IsWritable := by
    intro e he
    refine ⟨?_, h.loads e he⟩
    have hpart := length_le_flatMap (fun e => delimited 1 e.encode) he
    have hless := length_le_delimited 1 e.encode
    omega
  have hendpoints : Carries (mergeField recursionLimit)
      (endpoints.flatMap fun e => delimited 1 e.encode) {} { endpoints } :=
    carries_endpoints hwritable {}
  have hself : Carries (mergeField recursionLimit) (stringField 2 selfLocation) { endpoints }
      { endpoints, selfLocation } :=
    carries_stringField (by decide) (fun s => { endpoints, selfLocation := s }) (fun _ => rfl) rfl
      rfl (by omega)
  exact decodeMessage_of_carries (hendpoints.append hself)

end ListEndpointsResult

/-! ## Responses -/

theorem StatusCode.ofNumber_eq_success_iff {n : Int} : ofNumber n = success ↔ n = 400000 := by
  constructor
  · intro h
    have honly : ∀ r ∈ table, r.2.1 = success → r.1 = 400000 := by decide
    unfold ofNumber ofNumber? at h
    cases hfind : table.find? fun r => r.1 = n with
    | none =>
      rw [hfind] at h
      cases h
    | some r =>
      have hn : r.1 = n := by simpa using List.find?_some hfind
      rw [hfind] at h
      rw [← hn, honly r (List.mem_of_find?_eq_some hfind) h]
  · rintro rfl
    rfl

/-- The operation of a response has succeeded, and these bytes are its result. -/
def ListEndpointsResponse.Delivers (m : ListEndpointsResponse) (bytes : List UInt8) : Prop :=
  ∃ o p, m.operation = some o ∧ o.ready = true ∧ o.status = 400000 ∧ o.result = some p ∧
    p.value = bytes

structure EndpointInfo.IsRecordedBy (m : EndpointInfo) (e : Endpoint) : Prop where
  host : e.host = m.address
  port : e.port.toNat = m.port.toNat
  nodeId : e.nodeId = m.nodeId
  location : e.location = m.location
  loadFactor : e.loadFactor = m.loadFactor

private theorem EndpointInfo.exists_endpoint? {m : EndpointInfo} (h : m.port.toNat ≤ 65535) :
    ∃ e, m.endpoint? = some e ∧ m.IsRecordedBy e :=
  ⟨_, if_pos h, rfl, UInt16.toNat_ofNat_of_lt (Nat.lt_succ_of_le h), rfl, rfl, rfl⟩

private theorem EndpointInfo.forall₂_endpoint? (l : List EndpointInfo) :
    List.Forall₂ IsRecordedBy (l.filter fun m => m.port.toNat ≤ 65535) (l.filterMap endpoint?) := by
  induction l with
  | nil => exact .nil
  | cons m l ih =>
    by_cases hport : m.port.toNat ≤ 65535
    · obtain ⟨e, he, hrecord⟩ := exists_endpoint? hport
      rw [List.filter_cons_of_pos (by simpa using hport), List.filterMap_cons_some he]
      exact .cons hrecord ih
    · have hnone : m.endpoint? = none := if_neg hport
      rw [List.filter_cons_of_neg (by simpa using hport), List.filterMap_cons_none hnone]
      exact ih

/-- A response comes to the usable part of what it delivers, or to a fault. -/
theorem ListEndpointsResponse.result_eq_ok_iff {m : ListEndpointsResponse}
    {found : DiscoveryResult} :
    m.result = .ok found ↔
      ∃ bytes r, m.Delivers bytes ∧ ListEndpointsResult.decode bytes = .ok r ∧
        found = r.usable := by
  constructor
  · intro h
    unfold result at h
    split at h
    next => cases h
    next o ho =>
      split at h
      next hready =>
        dsimp only at h
        split at h
        next hstatus =>
          split at h
          next => cases h
          next p hp =>
            split at h
            next => cases h
            next r hr =>
              cases h
              have hnumber : o.status = 400000 :=
                Int32.toInt_inj.mp (StatusCode.ofNumber_eq_success_iff.mp hstatus)
              exact ⟨_, r, ⟨o, p, ho, hready, hnumber, hp, rfl⟩, hr, rfl⟩
        next => cases h
      next => cases h
  · rintro ⟨_, r, ⟨o, p, ho, hready, hstatus, hp, rfl⟩, hr, rfl⟩
    have hsuccess : StatusCode.ofNumber o.status.toInt = .success := by
      rw [hstatus]
      rfl
    simp [result, ho, hready, hsuccess, hp, hr]

private theorem Client.result_eq_ok_iff {m : ListEndpointsResponse} {found : DiscoveryResult} :
    result (.ok m) = .ok found ↔ m.result = .ok found := by
  cases hm : m.result <;> simp [result, hm]

/-- What a response comes to. If it delivers a written listing, each endpoint whose port is one is
found, in the order of the listing and as it is listed, and no other. It comes to endpoints at all
only if it delivers what is read as a listing, and is a fault of the discovery otherwise. -/
theorem result_of_response (m : ListEndpointsResponse) :
    (∀ r : ListEndpointsResult, r.IsWritable → m.Delivers r.encode →
      ∃ found, Client.result (.ok m) = .ok found ∧ found.selfLocation = r.selfLocation ∧
        List.Forall₂ EndpointInfo.IsRecordedBy (r.endpoints.filter fun e => e.port.toNat ≤ 65535)
          found.endpoints) ∧
    ((∃ found, Client.result (.ok m) = .ok found) ↔
      ∃ bytes r, m.Delivers bytes ∧ ListEndpointsResult.decode bytes = .ok r) ∧
    ((¬ ∃ found, Client.result (.ok m) = .ok found) →
      ∃ fault, Client.result (.ok m) = .error (.discovery fault)) := by
  refine ⟨?_, ?_, ?_⟩
  · intro r hr hdelivers
    refine ⟨r.usable, ?_, rfl, EndpointInfo.forall₂_endpoint? r.endpoints⟩
    rw [Client.result_eq_ok_iff, ListEndpointsResponse.result_eq_ok_iff]
    exact ⟨_, r, hdelivers, hr.decode_encode, rfl⟩
  · simp only [Client.result_eq_ok_iff, ListEndpointsResponse.result_eq_ok_iff]
    constructor
    · rintro ⟨_, bytes, r, hdelivers, hread, _⟩
      exact ⟨bytes, r, hdelivers, hread⟩
    · rintro ⟨bytes, r, hdelivers, hread⟩
      exact ⟨_, bytes, r, hdelivers, hread, rfl⟩
  · intro hnone
    cases hm : m.result with
    | ok found => exact absurd ⟨found, Client.result_eq_ok_iff.mpr hm⟩ hnone
    | error fault => exact ⟨fault, by simp only [Client.result, hm]⟩

/-- Of three endpoints the second has no port, and the third has a load. -/
theorem result_of_response_three :
    let r : ListEndpointsResult :=
      { endpoints := [{ address := "a", port := 1, nodeId := 7, location := "x", ssl := true },
          { address := "b", port := 70000 }, { address := "c", loadFactor := ⟨0x3F000000⟩ }]
        selfLocation := "y" }
    let o : Operation := { ready := true, status := 400000, result := some { value := r.encode } }
    ∃ found e e', Client.result (.ok ⟨some o⟩) = .ok found ∧ found.selfLocation = "y" ∧
      found.endpoints = [e, e'] ∧ e.host = "a" ∧ e'.host = "c" ∧ e'.loadFactor = ⟨0x3F000000⟩ := by
  intro r o
  have hwritable : r.IsWritable := ⟨by decide +kernel, by decide⟩
  obtain ⟨found, hfound, hself, hall⟩ :=
    (result_of_response ⟨some o⟩).1 r hwritable ⟨o, _, rfl, rfl, rfl, rfl, rfl⟩
  have hkept : r.endpoints.filter (fun e => e.port.toNat ≤ 65535) =
      [{ address := "a", port := 1, nodeId := 7, location := "x", ssl := true },
        { address := "c", loadFactor := ⟨0x3F000000⟩ }] := by decide
  rw [hkept] at hall
  obtain ⟨e, rest, he, hrest, heq⟩ := List.forall₂_cons_left_iff.mp hall
  obtain ⟨e', rest', he', hrest', rfl⟩ := List.forall₂_cons_left_iff.mp hrest
  obtain rfl := List.forall₂_nil_left_iff.mp hrest'
  exact ⟨found, e, e', hfound, hself, heq, he.host, he'.host, he'.loadFactor⟩

end ClusterTransport.DiscoveryService
