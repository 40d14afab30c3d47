import ClusterTransport.Proofs.Balancing
import ClusterTransport.Proofs.EndpointPool.Representation
import Mathlib.Data.List.Induction

/-!
# Selection

What a pool may answer when an endpoint is selected, said by what is known of its endpoints: health
comes before location, and the preferred endpoint before both.
-/

namespace ClusterTransport

namespace EndpointSet

private theorem mem_candidates {entries : List PoolEntry} {r : Endpoint} :
    r ∈ candidates (entries.map PoolEntry.record) (entries.map PoolEntry.isPessimized) ↔
      ∃ x ∈ entries, x.record = r ∧
        (x.isPessimized = false ∨ ∀ y ∈ entries, y.isPessimized = true) := by
  have hseen : (entries.map PoolEntry.record).zip (entries.map PoolEntry.isPessimized) =
      entries.map fun x => (x.record, x.isPessimized) := List.zip_map'
  simp only [candidates, hseen, List.filter_map, List.map_map]
  split
  next hnone =>
    have hall : ∀ y ∈ entries, y.isPessimized = true := by
      simpa [List.filter_eq_nil_iff] using hnone
    simp only [List.mem_map]
    exact ⟨fun ⟨x, hx, hr⟩ => ⟨x, hx, hr, Or.inr hall⟩, fun ⟨x, hx, hr, _⟩ => ⟨x, hx, hr⟩⟩
  next hsome =>
    obtain ⟨z, hz, hunmarked⟩ : ∃ z ∈ entries, z.isPessimized = false := by
      simpa [List.filter_eq_nil_iff] using hsome
    simp only [List.mem_map, List.mem_filter, Function.comp_apply, Bool.not_eq_true']
    constructor
    · rintro ⟨x, ⟨hx, hmark⟩, hr⟩
      exact ⟨x, hx, hr, Or.inl hmark⟩
    · rintro ⟨x, hx, hr, hmark | hall⟩
      · exact ⟨x, ⟨hx, hmark⟩, hr⟩
      · cases hunmarked.symm.trans (hall z hz)

theorem candidates_ne_nil {records : List Endpoint} {marked : List Bool} (h : records ≠ []) :
    candidates records marked ≠ [] := by
  simp only [candidates]
  split
  next => exact h
  next hsome => simpa using hsome

theorem size_pessimize (s : EndpointSet) (now : Instant) (e : Endpoint) :
    (s.pessimize now e).size = s.size := by
  rw [← length_records, (s.sameRound_pessimize now e).records, length_records]

private theorem selfLocation_add (s : EndpointSet) (e : Endpoint) (mark : Option Instant) :
    (s.add e mark).selfLocation = s.selfLocation := by
  unfold add
  split <;> rfl

private theorem selfLocation_ofRound (old : EndpointSet) (now : Instant) (ttl : Span)
    (selfLocation : String) (records : List Endpoint) :
    (old.ofRound now ttl selfLocation records).selfLocation = selfLocation := by
  have hadd (s : EndpointSet) :
      (records.foldl (fun s e => s.add e (old.freshMark now ttl e)) s).selfLocation =
        s.selfLocation := by
    induction records generalizing s with
    | nil => rfl
    | cons e records ih =>
      rw [List.foldl_cons, ih, selfLocation_add]
  exact hadd { selfLocation }

theorem size_ofRound_pos (old : EndpointSet) (now : Instant) (ttl : Span) (selfLocation : String)
    {records : List Endpoint} (h : records ≠ []) :
    0 < (old.ofRound now ttl selfLocation records).size := by
  obtain ⟨e, he⟩ := List.exists_mem_of_ne_nil records h
  have hlisted := (contains_ofRound old now ttl selfLocation records e).mpr ⟨e, he, rfl⟩
  obtain ⟨r, hr, _⟩ := (indexed_ofRound ..).contains_iff.mp hlisted
  rw [← length_records]
  exact List.length_pos_of_mem hr

end EndpointSet

namespace PoolEvent

def location? : PoolEvent → Option String
  | round _ selfLocation records => if records.isEmpty then none else some selfLocation
  | failure _ _ => none

/-- Where the discovery server was in the last round that was taken over. -/
def lastLocation (events : List PoolEvent) : String :=
  (events.reverse.findSome? location?).getD ""

private theorem lastLocation_concat (events : List PoolEvent) (event : PoolEvent) :
    lastLocation (events ++ [event]) = event.location?.getD (lastLocation events) := by
  rw [lastLocation, List.reverse_append, List.reverse_singleton, List.singleton_append,
    List.findSome?_cons]
  cases event.location? <;> rfl

end PoolEvent

namespace EndpointPool

variable {p : EndpointPool} {r : Endpoint}

/-- The record may be selected by health: it is unmarked, or all are marked. -/
def IsCandidate (p : EndpointPool) (r : Endpoint) : Prop :=
  r ∈ p.current.records ∧
    (p.health r = some none ∨ ∀ q ∈ p.current.records, p.health q ≠ some none)

def IsLocal (p : EndpointPool) (r : Endpoint) : Prop :=
  p.balancing.IsLocal p.current.selfLocation r

/-- The record may be selected by health and location: it is a local candidate, or no candidate is
local. -/
def Selectable (p : EndpointPool) (r : Endpoint) : Prop :=
  p.IsCandidate r ∧ (p.IsLocal r ∨ ∀ q, p.IsCandidate q → ¬ p.IsLocal q)

private theorem health_record (h : p.current.Indexed) {x : PoolEntry} (hx : x ∈ p.current.entries) :
    p.health x.record = some none ↔ x.isPessimized = false := by
  rw [health, h.entry?_record hx]
  simp [PoolEntry.isPessimized]

private theorem mem_candidates_iff (h : p.current.Indexed) :
    r ∈ p.candidates ↔ p.IsCandidate r := by
  have hall : (∀ q ∈ p.current.records, p.health q ≠ some none) ↔
      ∀ y ∈ p.current.entries, y.isPessimized = true := by
    simp only [EndpointSet.records, List.forall_mem_map]
    refine forall₂_congr fun y hy => ?_
    rw [ne_eq, health_record h hy, Bool.not_eq_false]
  rw [candidates, EndpointSet.records, EndpointSet.mem_candidates, IsCandidate, hall,
    EndpointSet.mem_records]
  constructor
  · rintro ⟨x, hx, rfl, hmark⟩
    exact ⟨⟨x, hx, rfl⟩, hmark.imp_left (health_record h hx).mpr⟩
  · rintro ⟨⟨x, hx, rfl⟩, hmark⟩
    exact ⟨x, hx, rfl, hmark.imp_left (health_record h hx).mp⟩

private theorem mem_eligible_iff (h : p.current.Indexed) :
    r ∈ p.balancing.eligible p.current.selfLocation p.candidates ↔ p.Selectable r := by
  simp only [BalancingSettings.mem_eligible, mem_candidates_iff h, Selectable, IsLocal]

private theorem preferredPick_eq_some (h : p.current.Indexed) {preferred : Option Endpoint}
    {e : Endpoint}
    (hpreferred : preferred = some e) (hr : r ∈ p.current.records)
    (hsame : r.toAddress = e.toAddress) (hhealth : p.health r = some none) :
    p.current.preferredPick preferred = some r := by
  obtain ⟨x, hx, rfl⟩ := EndpointSet.mem_records.mp hr
  have hentry : p.current.entry? e = some x := h.entry?_eq_some_iff.mpr ⟨hx, hsame⟩
  have hunmarked := (health_record h hx).mp hhealth
  simp [EndpointSet.preferredPick, hpreferred, hentry, hunmarked]

private theorem preferredPick_eq_none {preferred : Option Endpoint}
    (h : ∀ e, preferred = some e → p.health e ≠ some none) :
    p.current.preferredPick preferred = none := by
  cases preferred with
  | none => rfl
  | some e =>
    have hhealth := h e rfl
    unfold health at hhealth
    simp only [EndpointSet.preferredPick, Option.bind_some]
    cases hentry : p.current.entry? e with
    | none => rfl
    | some x =>
      rw [hentry] at hhealth
      have hmarked : x.isPessimized = true := by
        cases hmark : x.pessimizedAt <;> simp [PoolEntry.isPessimized, hmark] at hhealth ⊢
      exact if_pos hmarked

theorem select_of_preferredPick {preferred : Option Endpoint} (hsize : p.current.size ≠ 0)
    (h : p.current.preferredPick preferred = some r) (w : Balancing.Words) :
    (p.select preferred w).1 = .ok r := by
  simp [select, hsize, h]

private theorem select_of_choose {preferred : Option Endpoint} (hsize : p.current.size ≠ 0)
    (h : p.current.preferredPick preferred = none) {w : Balancing.Words}
    (hchoose : (p.balancing.choose p.candidates p.current.selfLocation w).1 = some r) :
    (p.select preferred w).1 = .ok r := by
  obtain ⟨w', hw⟩ : ∃ w', p.balancing.choose p.candidates p.current.selfLocation w =
      (some r, w') := ⟨_, Prod.ext hchoose rfl⟩
  simp [select, hsize, h, hw]

theorem candidates_ne_nil (hsize : p.current.size ≠ 0) : p.candidates ≠ [] := by
  refine EndpointSet.candidates_ne_nil ?_
  intro hnil
  rw [← EndpointSet.length_records, hnil] at hsize
  exact hsize rfl

private theorem length_candidates_le (p : EndpointPool) : p.candidates.length ≤ p.current.size := by
  rw [← EndpointSet.length_records, candidates]
  simp only [EndpointSet.candidates]
  split
  next => exact Nat.le_refl _
  next =>
    rw [List.length_map]
    refine Nat.le_trans (List.length_filter_le _ _) ?_
    rw [List.length_zip]
    exact Nat.min_le_left _ _

private theorem exists_mem_eligible {preferred : Option Endpoint} (hsize : p.current.size ≠ 0)
    (h : p.current.preferredPick preferred = none) (w : Balancing.Words) :
    ∃ r ∈ p.balancing.eligible p.current.selfLocation p.candidates,
      (p.select preferred w).1 = .ok r := by
  obtain ⟨r, hr, hchoose⟩ :=
    p.balancing.exists_mem_choose p.current.selfLocation (candidates_ne_nil hsize) w
  exact ⟨r, hr, select_of_choose hsize h hchoose⟩

theorem exists_select (hsize : p.current.size ≠ 0) (preferred : Option Endpoint)
    (w : Balancing.Words) : ∃ r, (p.select preferred w).1 = .ok r := by
  cases hpick : p.current.preferredPick preferred with
  | some r => exact ⟨r, select_of_preferredPick hsize hpick w⟩
  | none =>
    obtain ⟨r, _, hselect⟩ := exists_mem_eligible hsize hpick w
    exact ⟨r, hselect⟩

private theorem exists_selectable (h : p.current.Indexed) {preferred : Option Endpoint}
    (hsize : p.current.size ≠ 0)
    (hpreferred : ∀ e, preferred = some e → p.health e ≠ some none) (w : Balancing.Words) :
    ∃ r, p.Selectable r ∧ (p.select preferred w).1 = .ok r := by
  obtain ⟨r, hr, hselect⟩ := exists_mem_eligible hsize (preferredPick_eq_none hpreferred) w
  exact ⟨r, (mem_eligible_iff h).mp hr, hselect⟩

private theorem exists_words_of_selectable (h : p.current.Indexed) {preferred : Option Endpoint}
    (hpreferred : ∀ e, preferred = some e → p.health e ≠ some none)
    (huniform : p.balancing.weighting = .uniform) (hcountable : p.current.size ≤ UInt64.size)
    (hr : p.Selectable r) : ∃ w, (p.select preferred w).1 = .ok r := by
  have hsize : p.current.size ≠ 0 := by
    rw [← EndpointSet.length_records]
    exact Nat.ne_of_gt (List.length_pos_of_mem hr.1.1)
  obtain ⟨w, hchoose⟩ := BalancingSettings.exists_choose_of_uniform huniform
    ((mem_eligible_iff h).mpr hr) (Nat.le_trans p.length_candidates_le hcountable)
  exact ⟨w, select_of_choose hsize (preferredPick_eq_none hpreferred) hchoose⟩

private theorem size_after_eq_zero_iff (hnew : p.current.size = 0) (events : List PoolEvent) :
    (p.after events).current.size = 0 ↔ ∀ event ∈ events, event.isAdopted = false := by
  induction events using List.reverseRecOn with
  | nil => simp [after, hnew]
  | append_singleton events event ih =>
    rw [after_concat, List.forall_mem_append, List.forall_mem_singleton, ← ih]
    cases event with
    | failure now e => simp [happen, pessimize, EndpointSet.size_pessimize, PoolEvent.isAdopted]
    | round now selfLocation records =>
      by_cases hrecords : records = []
      · simp [happen, hrecords, adopt_nil, PoolEvent.isAdopted]
      · have hpos := EndpointSet.size_ofRound_pos (p.after events).current now
          (Span.seconds (p.after events).pessimization.ttl.toNat) selfLocation hrecords
        simp [happen, current_adopt _ now selfLocation hrecords, PoolEvent.isAdopted, hrecords]
        omega

private theorem selfLocation_after (hnew : p.current.selfLocation = "") (events : List PoolEvent) :
    (p.after events).current.selfLocation = PoolEvent.lastLocation events := by
  induction events using List.reverseRecOn with
  | nil => exact hnew
  | append_singleton events event ih =>
    rw [after_concat, PoolEvent.lastLocation_concat, ← ih]
    cases event with
    | failure now e => exact (EndpointSet.sameRound_pessimize _ now e).selfLocation
    | round now selfLocation records =>
      by_cases hrecords : records = []
      · rw [hrecords]
        rfl
      · have hlocation : (PoolEvent.round now selfLocation records).location? =
            some selfLocation := by
          simp [PoolEvent.location?, hrecords]
        rw [hlocation, happen, current_adopt _ now selfLocation hrecords]
        exact EndpointSet.selfLocation_ofRound ..

/-- Selection fails if and only if no round with endpoints was ever taken over. Else it answers the
record of the preferred endpoint if that is known and unmarked, and if not a record that health and
location allow: of the unmarked ones, or of all if every one is marked, one at the location that is
preferred, if any is there. A uniform draw may answer each of these: there are words for it if the
records can be counted in a word, as those of any list in memory can. -/
theorem select_after (balancing : BalancingSettings) (pessimization : PessimizationSettings)
    (events : List PoolEvent) (preferred : Option Endpoint) :
    let p := after { balancing, pessimization } events
    let target := balancing.preferableLocation.getD (PoolEvent.lastLocation events)
    let isCandidate (r : Endpoint) := r ∈ p.current.records ∧
      (p.health r = some none ∨ ∀ q ∈ p.current.records, p.health q ≠ some none)
    let isLocal (r : Endpoint) := balancing.policy = .usePreferableLocation ∧ target ≠ "" ∧
      r.location.toList.map Char.toLower = target.toList.map Char.toLower
    let isSelectable (r : Endpoint) := isCandidate r ∧
      (isLocal r ∨ ∀ q, isCandidate q → ¬ isLocal q)
    (∀ w, (p.select preferred w).1 = .error .noEndpoints ↔
      ∀ event ∈ events, event.isAdopted = false) ∧
    ((∃ event ∈ events, event.isAdopted = true) →
      (∀ e r, preferred = some e → r ∈ p.current.records → r.toAddress = e.toAddress →
        p.health r = some none → ∀ w, (p.select preferred w).1 = .ok r) ∧
      ((∀ e, preferred = some e → p.health e ≠ some none) →
        (∀ w, ∃ r, isSelectable r ∧ (p.select preferred w).1 = .ok r) ∧
        (balancing.weighting = .uniform → p.current.size ≤ UInt64.size →
          ∀ r, isSelectable r → ∃ w, (p.select preferred w).1 = .ok r))) := by
  intro p target isCandidate isLocal isSelectable
  have hindexed : p.current.Indexed := (sound_after .empty events).indexed
  have hempty := size_after_eq_zero_iff (p := { balancing, pessimization }) rfl events
  have hsettings : p.balancing = balancing := (settings_after _ events).1
  have hlocation : p.current.selfLocation = PoolEvent.lastLocation events :=
    selfLocation_after rfl events
  have hselectable (r : Endpoint) : p.Selectable r ↔ isSelectable r := by
    simp only [Selectable, IsLocal, hsettings, hlocation]
    rfl
  refine ⟨?_, ?_⟩
  · intro w
    rw [← hempty]
    constructor
    · intro herror
      refine Decidable.byContradiction fun hsize => ?_
      obtain ⟨r, hok⟩ := exists_select hsize preferred w
      cases herror.symm.trans hok
    · intro hsize
      exact congrArg Prod.fst (if_pos hsize)
  · rintro ⟨event, hevent, hadopted⟩
    have hsize : p.current.size ≠ 0 := by
      intro hzero
      cases hadopted.symm.trans (hempty.mp hzero event hevent)
    refine ⟨?_, ?_⟩
    · intro e r hpreferred hr hsame hhealth w
      exact select_of_preferredPick hsize
        (preferredPick_eq_some hindexed hpreferred hr hsame hhealth) w
    · intro hpreferred
      refine ⟨?_, ?_⟩
      · intro w
        obtain ⟨r, hr, hselect⟩ := exists_selectable hindexed hsize hpreferred w
        exact ⟨r, (hselectable r).mp hr, hselect⟩
      · intro huniform hcountable r hr
        rw [← hsettings] at huniform
        exact exists_words_of_selectable hindexed hpreferred huniform hcountable
          ((hselectable r).mpr hr)

/-- The preferred endpoint is marked, and of the others only one is at the location of the discovery
server, written in other letters: that one is answered, whatever words are drawn. -/
theorem select_after_marking_preferred :
    let a : Endpoint := { host := "h", port := 1, location := "dc" }
    let b : Endpoint := { host := "h", port := 2, location := "DC" }
    let c : Endpoint := { host := "h", port := 3, location := "far" }
    let p := after { balancing := {} } [.round 0 "Dc" [a, b, c], .failure 1 a]
    p.health a = some (some 1) ∧ p.health c = some none ∧
      (∀ w, (p.select (some a) w).1 = .ok b) ∧ (∃ w, (p.select (some a) w).1 = .ok b) ∧
      (∀ w, (p.select none w).1 = .ok b) ∧ ∀ w, (p.select (some c) w).1 = .ok c := by
  intro a b c p
  have hadopted : ∃ event ∈ [.round 0 "Dc" [a, b, c], .failure 1 a],
      PoolEvent.isAdopted event = true := ⟨_, .head _, rfl⟩
  have hrecords : p.current.records = [a, b, c] := by decide +kernel
  have hb : p.health b = some none := by decide +kernel
  -- the first record is marked, and the last one is elsewhere
  have honly : ∀ r ∈ [a, b, c], p.health r = some none →
      r.location.toList.map Char.toLower = "Dc".toList.map Char.toLower → r = b := by
    decide +kernel
  have hcandidate : b ∈ p.current.records := by
    rw [hrecords]
    decide
  have hselects : ∀ preferred, (∀ e, preferred = some e → p.health e ≠ some none) →
      (∀ w, (p.select preferred w).1 = .ok b) ∧ ∃ w, (p.select preferred w).1 = .ok b := by
    intro preferred hpreferred
    obtain ⟨hsome, huniform⟩ := ((select_after {} {} _ preferred).2 hadopted).2 hpreferred
    refine ⟨?_, ?_⟩
    · intro w
      obtain ⟨r, ⟨⟨hr, hhealth⟩, hlocal⟩, hselect⟩ := hsome w
      have hunmarked : p.health r = some none :=
        hhealth.resolve_right fun hall => hall b hcandidate hb
      rcases hlocal with ⟨_, _, hlocal⟩ | hnone
      · rw [hrecords] at hr
        rwa [honly r hr hunmarked hlocal] at hselect
      · exact absurd ⟨rfl, by decide, by decide⟩ (hnone b ⟨hcandidate, Or.inl hb⟩)
    · exact huniform rfl (by decide +kernel) b
        ⟨⟨hcandidate, Or.inl hb⟩, Or.inl ⟨rfl, by decide, by decide⟩⟩
  have hmarked : ∀ e, some a = some e → p.health e ≠ some none := by
    rintro e ⟨⟩
    decide +kernel
  obtain ⟨hall, hreached⟩ := hselects (some a) hmarked
  have hfar := ((select_after {} {} _ (some c)).2 hadopted).1
  exact ⟨by decide +kernel, by decide +kernel, hall, hreached, (hselects none nofun).1,
    hfar c c rfl (by rw [hrecords]; decide) rfl (by decide +kernel)⟩

end EndpointPool

end ClusterTransport
