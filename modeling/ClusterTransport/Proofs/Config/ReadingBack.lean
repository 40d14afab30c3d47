import ClusterTransport.Config.Strict
import ClusterTransport.Proofs.Config.Settings

/-!
# Configurations read back

A configuration is read back from its JSON value, except for its certificates. Keys may be taken out
of that value, at the top or in a part: the settings that stood there have their defaults, and all
others are as they were.
-/

namespace ClusterTransport

namespace Json

mutual

/-- A value without the keys at some paths. A path names a key and those of the objects around it,
the outermost first; whatever stands below a key goes with it. -/
def without (gone : List String → Bool) : Json → Json
  | .object fields => .object (withoutFields gone fields)
  | v => v

def withoutFields (gone : List String → Bool) : List (String × Json) → List (String × Json)
  | [] => []
  | (k, v) :: fields =>
    if gone [k] then withoutFields gone fields
    else (k, without (fun path => gone (k :: path)) v) :: withoutFields gone fields

end

variable {gone : List String → Bool}

private theorem lookup_withoutFields (key : String) (fields : List (String × Json)) :
    lookup key (withoutFields gone fields) =
      if gone [key] then none
      else (lookup key fields).map (without fun path => gone (key :: path)) := by
  induction fields with
  | nil => simp [withoutFields, lookup]
  | cons field fields ih =>
    obtain ⟨k, v⟩ := field
    by_cases hk : k = key
    · subst hk
      cases hgone : gone [k] with
      | true => simp [withoutFields, hgone, ih]
      | false => simp [withoutFields, lookup, hgone]
    · cases hgone : gone [k] with
      | true => simp [withoutFields, lookup, hgone, hk, ih]
      | false => simp [withoutFields, lookup, hgone, hk, ih]

mutual

theorem without_none : (v : Json) → v.without (fun _ => false) = v
  | .object fields => by rw [without, withoutFields_none fields]
  | .null | .bool _ | .int _ | .float _ | .string _ | .array _ => rfl

theorem withoutFields_none :
    (fields : List (String × Json)) → withoutFields (fun _ => false) fields = fields
  | [] => rfl
  | (k, v) :: fields => by
    rw [withoutFields, if_neg Bool.false_ne_true, without_none v, withoutFields_none fields]

end

end Json

namespace Config

open Json

variable {gone : List String → Bool}

private theorem strict_nat_natJson (n : UInt64) : strict.nat (natJson n) = some n := by
  have hlt := n.toNat_lt
  have hrange : 0 ≤ Int.ofNat n.toNat ∧ Int.ofNat n.toNat ≤ (0xFFFFFFFFFFFFFFFF : Nat) := by
    rw [Int.ofNat_eq_natCast]
    omega
  have hread : strictNat 0xFFFFFFFFFFFFFFFF (natJson n) = some n.toNat := if_pos hrange
  change (strictNat 0xFFFFFFFFFFFFFFFF (natJson n)).map UInt64.ofNat = some n
  rw [hread, Option.map_some, UInt64.ofNat_toNat]

private theorem readOptional_optionalText (s : Option String) :
    readOptional strict.text (optionalText s) = some s := by
  cases s <;> rfl

private theorem readName_policyName (p : BalancingPolicy) :
    readName strict policyNames (.string (policyName p)) = some p := by
  cases p <;> rfl

private theorem readName_weightingName (w : Weighting) :
    readName strict weightingNames (.string (weightingName w)) = some w := by
  cases w <;> rfl

private theorem strict_float_floatJson (x : Float) :
    strict.float (floatJson x) = if x.isFinite then some x else none := by
  unfold floatJson
  split <;> rfl

section Fields

variable {α : Type} {fields : List (String × Json)} {key : String} {place : Nat}

private theorem read_withoutFields {f : Json → Option α} {missing : α} {v : Json}
    (h : lookup key fields = some v) :
    (Source.keyed (withoutFields gone fields)).read key place f missing =
      if gone [key] then some missing else f (v.without fun path => gone (key :: path)) := by
  rw [Source.read, Source.value?, lookup_withoutFields, h]
  cases gone [key] <;> rfl

private theorem read_of_plain {f : Json → Option α} {missing x : α} {v : Json}
    (hplain : ∀ gone, v.without gone = v) (hread : f v = some x) (h : lookup key fields = some v) :
    (Source.keyed (withoutFields gone fields)).read key place f missing =
      some (if gone [key] then missing else x) := by
  rw [read_withoutFields h, hplain, hread]
  split <;> rfl

private theorem read_natJson {n missing : UInt64} (h : lookup key fields = some (natJson n)) :
    (Source.keyed (withoutFields gone fields)).read key place strict.nat missing =
      some (if gone [key] then missing else n) :=
  read_of_plain (fun _ => rfl) (strict_nat_natJson n) h

private theorem read_string {s missing : String} (h : lookup key fields = some (.string s)) :
    (Source.keyed (withoutFields gone fields)).read key place strict.text missing =
      some (if gone [key] then missing else s) :=
  read_of_plain (fun _ => rfl) rfl h

private theorem read_bool {b missing : Bool} (h : lookup key fields = some (.bool b)) :
    (Source.keyed (withoutFields gone fields)).read key place strict.bool missing =
      some (if gone [key] then missing else b) :=
  read_of_plain (fun _ => rfl) rfl h

private theorem read_optionalText {s missing : Option String}
    (h : lookup key fields = some (optionalText s)) :
    (Source.keyed (withoutFields gone fields)).read key place (readOptional strict.text) missing =
      some (if gone [key] then missing else s) :=
  read_of_plain (fun _ => by cases s <;> rfl) (readOptional_optionalText s) h

private theorem read_discovery_without {d : DiscoverySettings}
    (h : lookup key fields = some (discoveryJson d)) :
    (Source.keyed (withoutFields gone fields)).read key place (readDiscovery strict) {} =
      some ⟨if gone [key] || gone [key, "period_secs"] then 60 else d.period,
        if gone [key] || gone [key, "min_period_secs"] then 5 else d.minPeriod,
        if gone [key] || gone [key, "timeout_secs"] then 10 else d.timeout⟩ := by
  rw [read_withoutFields h, discoveryJson, without, readDiscovery, readStructure, Source.ofJson]
  simp only [Source.fits, Bool.or_true, if_true]
  rw [read_natJson (n := d.period) rfl, read_natJson (n := d.minPeriod) rfl,
    read_natJson (n := d.timeout) rfl]
  cases gone [key] <;> rfl

private theorem read_balancing_without {b : BalancingSettings}
    (h : lookup key fields = some (balancingJson b)) :
    (Source.keyed (withoutFields gone fields)).read key place (readBalancing strict) {} =
      some ⟨if gone [key] || gone [key, "policy"] then .usePreferableLocation else b.policy,
        if gone [key] || gone [key, "preferable_location"] then none else b.preferableLocation,
        if gone [key] || gone [key, "weighting"] then .uniform else b.weighting⟩ := by
  rw [read_withoutFields h, balancingJson, without, readBalancing, readStructure, Source.ofJson]
  simp only [Source.fits, Bool.or_true, if_true]
  rw [read_of_plain (fun _ => rfl) (readName_policyName b.policy) rfl,
    read_optionalText (s := b.preferableLocation) rfl,
    read_of_plain (fun _ => rfl) (readName_weightingName b.weighting) rfl]
  cases gone [key] <;> rfl

private theorem read_pessimization_without {p : PessimizationSettings}
    (h : lookup key fields = some (pessimizationJson p)) :
    (Source.keyed (withoutFields gone fields)).read key place (readPessimization strict) {} =
      if (gone [key] || gone [key, "urgent_discovery_ratio"]) || p.urgentRatio.isFinite then
        some ⟨if gone [key] || gone [key, "ttl_secs"] then 60 else p.ttl,
          if gone [key] || gone [key, "urgent_discovery_ratio"] then 0.5 else p.urgentRatio⟩
      else none := by
  have hratio (gone : List String → Bool) :
      (floatJson p.urgentRatio).without gone = floatJson p.urgentRatio := by
    unfold floatJson
    split <;> rfl
  rw [read_withoutFields h, pessimizationJson, without, readPessimization, readStructure,
    Source.ofJson]
  simp only [Source.fits, Bool.or_true, if_true]
  rw [read_natJson (n := p.ttl) rfl, read_withoutFields (v := floatJson p.urgentRatio) rfl, hratio,
    strict_float_floatJson]
  cases gone [key] <;> cases gone [key, "urgent_discovery_ratio"] <;>
    cases p.urgentRatio.isFinite <;> rfl

end Fields

/-- Whether the value of a setting is taken out, with its own key or with that of its part. -/
def Setting.isMissing (gone : List String → Bool) (f : Setting) : Bool :=
  match f.part? with
  | none => gone [f.name]
  | some p => gone [p.name] || gone [p.name, f.name]

/-- A configuration without some of its keys is read if and only if its ratio is finite or taken
out. -/
theorem ofJson_without (c : Config) (gone : List String → Bool) :
    ofJson strict (c.toJson.without gone) =
      if Setting.urgentRatio.isMissing gone || c.pessimization.urgentRatio.isFinite then
        some (ofSettings fun f => if f.isMissing gone then f.default else f.get c)
      else none := by
  rw [toJson, without, ofJson, readStructure, Source.ofJson]
  simp only [Source.fits, Bool.or_true, if_true]
  rw [read_string (s := c.endpoint) rfl, read_string (s := c.database) rfl,
    read_bool (b := c.useTls) rfl, read_optionalText (s := c.caPath) rfl,
    read_natJson (n := c.maxInboundSize) rfl, read_natJson (n := c.connectTimeout) rfl,
    read_natJson (n := c.defaultDeadline) rfl, read_string (s := c.buildInfo) rfl,
    read_discovery_without (d := c.discovery) rfl, read_balancing_without (b := c.balancing) rfl,
    read_pessimization_without (p := c.pessimization) rfl]
  have hmissing : Setting.urgentRatio.isMissing gone =
      (gone ["pessimization"] || gone ["pessimization", "urgent_discovery_ratio"]) := rfl
  rw [hmissing]
  cases (gone ["pessimization"] || gone ["pessimization", "urgent_discovery_ratio"]) ||
    c.pessimization.urgentRatio.isFinite <;> rfl

/-- A configuration with a finite ratio is read back from its JSON value, without its certificates.
Of that value any keys may be missing: the settings that stood there have their defaults, and no
others change. -/
theorem ofJson_toJson (c : Config) (h : c.pessimization.urgentRatio.isFinite = true) :
    ofJson strict c.toJson = some { c with caCertificate := none } ∧
      ∀ gone : List String → Bool, ofJson strict (c.toJson.without gone) =
        some (ofSettings fun f => if f.isMissing gone then f.default else f.get c) := by
  refine ⟨?_, fun gone => ?_⟩
  · have hall := ofJson_without c fun _ => false
    rw [without_none, h] at hall
    exact hall
  · rw [ofJson_without, h, Bool.or_true, if_pos rfl]

/-- A part, and single settings at the top and in the other parts, are taken out at once. -/
theorem ofJson_toJson_of_missing_keys :
    let c : Config := {
      database := "/d", caCertificate := some [1], maxInboundSize := 18446744073709551615
      discovery := ⟨30, 7, 9⟩, balancing := ⟨.useAllNodes, some "sas", .loadFactor⟩
      pessimization := ⟨10, 0.25⟩ }
    let gone := fun path => [["discovery"], ["database"], ["balancing", "policy"],
      ["pessimization", "urgent_discovery_ratio"]].contains path
    c.pessimization.urgentRatio.isFinite = true ∧
      ofJson strict c.toJson = some { c with caCertificate := none } ∧
      ofJson strict (c.toJson.without gone) = some { c with
        database := "", caCertificate := none, discovery := ⟨60, 5, 10⟩
        balancing := ⟨.usePreferableLocation, some "sas", .loadFactor⟩
        pessimization := ⟨10, 0.5⟩ } := by
  intro c gone
  have hfinite : c.pessimization.urgentRatio.isFinite = true := by decide +kernel
  obtain ⟨hback, hwithout⟩ := ofJson_toJson c hfinite
  exact ⟨hfinite, hback, hwithout gone⟩

end Config

end ClusterTransport
