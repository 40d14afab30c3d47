import ClusterTransport.Config.Lenient

/-!
# Settings

The settings of a configuration, each with its part, its key and the reading of its value. A table
of fields is a configuration if and only if each setting can be read from it on its own.
-/

namespace ClusterTransport.Config

inductive Part where
  | discovery
  | balancing
  | pessimization
deriving DecidableEq, Repr

def Part.name : Part → String
  | .discovery => "discovery"
  | .balancing => "balancing"
  | .pessimization => "pessimization"

/-- The fields of a configuration and of its parts that hold no others. -/
inductive Setting where
  | endpoint
  | database
  | useTls
  | caPath
  | maxInboundSize
  | connectTimeout
  | defaultDeadline
  | buildInfo
  | period
  | minPeriod
  | timeout
  | policy
  | preferableLocation
  | weighting
  | ttl
  | urgentRatio
deriving DecidableEq, Repr

namespace Setting

/-- The part that a setting belongs to; the others stand at the top. -/
def part? : Setting → Option Part
  | period | minPeriod | timeout => some .discovery
  | policy | preferableLocation | weighting => some .balancing
  | ttl | urgentRatio => some .pessimization
  | _ => none

def name : Setting → String
  | endpoint => "endpoint"
  | database => "database"
  | useTls => "use_tls"
  | caPath => "ca_certificate_path"
  | maxInboundSize => "max_inbound_message_size"
  | connectTimeout => "connect_timeout_secs"
  | defaultDeadline => "default_deadline_secs"
  | buildInfo => "build_info"
  | period => "period_secs"
  | minPeriod => "min_period_secs"
  | timeout => "timeout_secs"
  | policy => "policy"
  | preferableLocation => "preferable_location"
  | weighting => "weighting"
  | ttl => "ttl_secs"
  | urgentRatio => "urgent_discovery_ratio"

/-- The place of a setting in its part, where that is a list. -/
def place : Setting → Nat
  | endpoint | period | policy | ttl => 0
  | database | minPeriod | preferableLocation | urgentRatio => 1
  | useTls | timeout | weighting => 2
  | caPath => 3
  | maxInboundSize => 4
  | connectTimeout => 5
  | defaultDeadline => 6
  | buildInfo => 7

@[reducible]
def Value : Setting → Type
  | endpoint | database | buildInfo => String
  | useTls => Bool
  | caPath | preferableLocation => Option String
  | maxInboundSize | connectTimeout | defaultDeadline | period | minPeriod | timeout | ttl => UInt64
  | policy => BalancingPolicy
  | weighting => Weighting
  | urgentRatio => Float

def get : (f : Setting) → Config → f.Value
  | endpoint => Config.endpoint
  | database => Config.database
  | useTls => Config.useTls
  | caPath => Config.caPath
  | maxInboundSize => Config.maxInboundSize
  | connectTimeout => Config.connectTimeout
  | defaultDeadline => Config.defaultDeadline
  | buildInfo => Config.buildInfo
  | period => fun c => c.discovery.period
  | minPeriod => fun c => c.discovery.minPeriod
  | timeout => fun c => c.discovery.timeout
  | policy => fun c => c.balancing.policy
  | preferableLocation => fun c => c.balancing.preferableLocation
  | weighting => fun c => c.balancing.weighting
  | ttl => fun c => c.pessimization.ttl
  | urgentRatio => fun c => c.pessimization.urgentRatio

def default (f : Setting) : f.Value :=
  f.get {}

def read : (f : Setting) → Json → Option f.Value
  | endpoint | database | buildInfo => lenientText
  | useTls => lenientBool
  | caPath | preferableLocation => readOptional lenientText
  | maxInboundSize | connectTimeout | defaultDeadline | period | minPeriod | timeout | ttl =>
    lenientNat
  | policy => readName lenient policyNames
  | weighting => readName lenient weightingNames
  | urgentRatio => lenientFloat

def readPart (f : Setting) : Option Json → Option f.Value
  | none => some f.default
  | some v => (Source.ofJson v).bind fun s => s.read f.name f.place f.read f.default

/-- What a setting is in a table of fields. -/
def found (f : Setting) (fields : List (String × Json)) : Option f.Value :=
  match f.part? with
  | none => (Source.keyed fields).read f.name f.place f.read f.default
  | some p => f.readPart (Json.lookup p.name fields)

end Setting

private theorem readStructure_lenient {α : Type} (count : Nat) (f : Source → Option α) (v : Json) :
    readStructure lenient count f v = (Source.ofJson v).bind f := by
  rw [readStructure]
  cases Source.ofJson v <;> rfl

variable {fields : List (String × Json)}

private theorem Part.exists_setting (p : Part) : ∃ g : Setting, g.part? = some p := by
  cases p with
  | discovery => exact ⟨.period, rfl⟩
  | balancing => exact ⟨.policy, rfl⟩
  | pessimization => exact ⟨.ttl, rfl⟩

/-- A part is read if and only if its settings are, whether it is missing or a table or a list. -/
theorem read_part_iff {α : Type} (p : Part) (part : Config → α) {place count : Nat}
    {f : Source → Option α} {c : Config}
    (hdefault : part {} = part c ↔ ∀ g : Setting, g.part? = some p → g.default = g.get c)
    (hread : ∀ s, f s = some (part c) ↔
      ∀ g : Setting, g.part? = some p → s.read g.name g.place g.read g.default = some (g.get c)) :
    (Source.keyed fields).read p.name place (readStructure lenient count f) (part {}) =
        some (part c) ↔
      ∀ g : Setting, g.part? = some p → g.found fields = some (g.get c) := by
  have hfound (g : Setting) (hg : g.part? = some p) :
      g.found fields = g.readPart (Json.lookup p.name fields) := by
    rw [Setting.found, hg]
  rw [forall₂_congr fun g hg => by rw [hfound g hg], Source.read, Source.value?]
  cases Json.lookup p.name fields with
  | none => simpa [Setting.readPart] using hdefault
  | some v =>
    dsimp only
    rw [readStructure_lenient]
    simp only [Setting.readPart]
    cases Source.ofJson v with
    | none =>
      obtain ⟨g, hg⟩ := p.exists_setting
      exact iff_of_false (Option.some_ne_none _ ·.symm) fun h => Option.some_ne_none _ (h g hg).symm
    | some s => exact hread s

private theorem Setting.forall_top_iff {P : Setting → Prop} :
    (∀ g : Setting, g.part? = none → P g) ↔
      P .endpoint ∧ P .database ∧ P .useTls ∧ P .caPath ∧ P .maxInboundSize ∧ P .connectTimeout ∧
        P .defaultDeadline ∧ P .buildInfo := by
  refine ⟨fun h => ⟨h _ rfl, h _ rfl, h _ rfl, h _ rfl, h _ rfl, h _ rfl, h _ rfl, h _ rfl⟩,
    fun h g hg => ?_⟩
  cases g <;> first | simp only [h] | cases hg

private theorem Setting.forall_discovery_iff {P : Setting → Prop} :
    (∀ g : Setting, g.part? = some .discovery → P g) ↔ P .period ∧ P .minPeriod ∧ P .timeout := by
  refine ⟨fun h => ⟨h _ rfl, h _ rfl, h _ rfl⟩, fun h g hg => ?_⟩
  cases g <;> first | simp only [h] | cases hg

private theorem Setting.forall_balancing_iff {P : Setting → Prop} :
    (∀ g : Setting, g.part? = some .balancing → P g) ↔
      P .policy ∧ P .preferableLocation ∧ P .weighting := by
  refine ⟨fun h => ⟨h _ rfl, h _ rfl, h _ rfl⟩, fun h g hg => ?_⟩
  cases g <;> first | simp only [h] | cases hg

private theorem Setting.forall_pessimization_iff {P : Setting → Prop} :
    (∀ g : Setting, g.part? = some .pessimization → P g) ↔ P .ttl ∧ P .urgentRatio := by
  refine ⟨fun h => ⟨h _ rfl, h _ rfl⟩, fun h g hg => ?_⟩
  cases g <;> first | simp only [h] | cases hg

private theorem read_discovery_iff {c : Config} :
    (Source.keyed fields).read "discovery" 8 (readDiscovery lenient) {} = some c.discovery ↔
      ∀ g : Setting, g.part? = some .discovery → g.found fields = some (g.get c) := by
  obtain ⟨_, _, _, _, _, _, _, _, _, ⟨_, _, _⟩, _, _⟩ := c
  refine read_part_iff .discovery Config.discovery ?_ fun s => ?_
  · simp [Setting.forall_discovery_iff, Setting.default, Setting.get]
  · simp only [Setting.forall_discovery_iff, Option.bind_eq_bind, Option.bind_eq_some_iff]
    constructor
    · rintro ⟨_, hperiod, _, hminPeriod, _, htimeout, ⟨⟩⟩
      exact ⟨hperiod, hminPeriod, htimeout⟩
    · rintro ⟨hperiod, hminPeriod, htimeout⟩
      exact ⟨_, hperiod, _, hminPeriod, _, htimeout, rfl⟩

private theorem read_balancing_iff {c : Config} :
    (Source.keyed fields).read "balancing" 9 (readBalancing lenient) {} = some c.balancing ↔
      ∀ g : Setting, g.part? = some .balancing → g.found fields = some (g.get c) := by
  obtain ⟨_, _, _, _, _, _, _, _, _, _, ⟨_, _, _⟩, _⟩ := c
  refine read_part_iff .balancing Config.balancing ?_ fun s => ?_
  · simp [Setting.forall_balancing_iff, Setting.default, Setting.get]
  · simp only [Setting.forall_balancing_iff, Option.bind_eq_bind, Option.bind_eq_some_iff]
    constructor
    · rintro ⟨_, hpolicy, _, hlocation, _, hweighting, ⟨⟩⟩
      exact ⟨hpolicy, hlocation, hweighting⟩
    · rintro ⟨hpolicy, hlocation, hweighting⟩
      exact ⟨_, hpolicy, _, hlocation, _, hweighting, rfl⟩

private theorem read_pessimization_iff {c : Config} :
    (Source.keyed fields).read "pessimization" 10 (readPessimization lenient) {} =
        some c.pessimization ↔
      ∀ g : Setting, g.part? = some .pessimization → g.found fields = some (g.get c) := by
  obtain ⟨_, _, _, _, _, _, _, _, _, _, _, ⟨_, _⟩⟩ := c
  refine read_part_iff .pessimization Config.pessimization ?_ fun s => ?_
  · simp [Setting.forall_pessimization_iff, Setting.default, Setting.get]
  · simp only [Setting.forall_pessimization_iff, Option.bind_eq_bind, Option.bind_eq_some_iff]
    constructor
    · rintro ⟨_, httl, _, hratio, ⟨⟩⟩
      exact ⟨httl, hratio⟩
    · rintro ⟨httl, hratio⟩
      exact ⟨_, httl, _, hratio, rfl⟩

/-- A table of fields is a configuration if and only if each setting is read from it. -/
theorem ofJson_eq_some_iff {c : Config} :
    ofJson lenient (.object fields) = some c ↔
      c.caCertificate = none ∧ ∀ g : Setting, g.found fields = some (g.get c) := by
  rw [ofJson, readStructure_lenient, Source.ofJson, Option.bind_some]
  simp only [Option.bind_eq_bind, Option.bind_eq_some_iff]
  constructor
  · rintro ⟨_, hendpoint, _, hdatabase, _, htls, _, hcaPath, _, hsize, _, hconnect, _, hdeadline, _,
      hbuild, _, hdiscovery, _, hbalancing, _, hpessimization, ⟨⟩⟩
    refine ⟨rfl, fun g => ?_⟩
    cases hpart : g.part? with
    | none =>
      revert g
      exact Setting.forall_top_iff.mpr
        ⟨hendpoint, hdatabase, htls, hcaPath, hsize, hconnect, hdeadline, hbuild⟩
    | some p =>
      cases p with
      | discovery => exact read_discovery_iff.mp hdiscovery g hpart
      | balancing => exact read_balancing_iff.mp hbalancing g hpart
      | pessimization => exact read_pessimization_iff.mp hpessimization g hpart
  · rintro ⟨hcertificate, h⟩
    refine ⟨_, h .endpoint, _, h .database, _, h .useTls, _, h .caPath, _, h .maxInboundSize, _,
      h .connectTimeout, _, h .defaultDeadline, _, h .buildInfo,
      _, read_discovery_iff.mpr fun g _ => h g, _, read_balancing_iff.mpr fun g _ => h g,
      _, read_pessimization_iff.mpr fun g _ => h g, ?_⟩
    obtain ⟨_, _, _, _, _, _, _, _, _, _, _, _⟩ := c
    cases hcertificate
    rfl

theorem found_of_ofJson {c : Config} (h : ofJson lenient (.object fields) = some c) (g : Setting) :
    g.found fields = some (g.get c) :=
  (ofJson_eq_some_iff.mp h).2 g

theorem get_of_found {c : Config} (h : ofJson lenient (.object fields) = some c) {g : Setting}
    {x : g.Value} (hfound : g.found fields = some x) : g.get c = x :=
  Option.some_inj.mp ((found_of_ofJson h g).symm.trans hfound)

def ofSettings (values : (f : Setting) → f.Value) : Config where
  endpoint := values .endpoint
  database := values .database
  useTls := values .useTls
  caPath := values .caPath
  maxInboundSize := values .maxInboundSize
  connectTimeout := values .connectTimeout
  defaultDeadline := values .defaultDeadline
  buildInfo := values .buildInfo
  discovery := ⟨values .period, values .minPeriod, values .timeout⟩
  balancing := ⟨values .policy, values .preferableLocation, values .weighting⟩
  pessimization := ⟨values .ttl, values .urgentRatio⟩

private theorem get_ofSettings (values : (f : Setting) → f.Value) (f : Setting) :
    f.get (ofSettings values) = values f := by
  cases f <;> rfl

theorem exists_ofJson (h : ∀ g : Setting, ∃ x, g.found fields = some x) :
    ∃ c, ofJson lenient (.object fields) = some c := by
  have hsome (g : Setting) : (g.found fields).isSome := Option.isSome_iff_exists.mpr (h g)
  refine ⟨ofSettings fun g => (g.found fields).get (hsome g), ?_⟩
  rw [ofJson_eq_some_iff]
  exact ⟨rfl, fun g => by rw [get_ofSettings, Option.some_get]⟩

end ClusterTransport.Config
