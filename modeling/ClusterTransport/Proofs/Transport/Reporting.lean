import ClusterTransport.Proofs.EndpointPool.LiveMarks
import ClusterTransport.Proofs.Transport.Calling

/-!
# The report of a call

The two versions of the endpoints differ by what the call itself does to them, and that is one
report at most. A run is split at the step of that report: before it the versions are the same, and
after it they go on in the same way.
-/

namespace ClusterTransport

namespace EndpointPool

variable {p : EndpointPool} {e : Endpoint}

private theorem pessimize_of_health_ne (now : Instant) (h : p.current.Indexed)
    (hhealth : p.health e ≠ some none) : p.pessimize now e = p := by
  cases hmark : p.health e with
  | none => exact pessimize_of_health_eq_none now h hmark
  | some mark =>
    cases mark with
    | none => exact absurd hmark hhealth
    | some since =>
      obtain ⟨entry, hentry, hsince⟩ := Option.map_eq_some_iff.mp hmark
      rw [EndpointSet.entry?_eq_bind] at hentry
      obtain ⟨i, hplace, hi⟩ := Option.bind_eq_some_iff.mp hentry
      have hmarked : entry.isPessimized = true := by simp [PoolEntry.isPessimized, hsince]
      have hsame : p.current.markAt now i = (p.current, false) := by
        simp [EndpointSet.markAt, hi, hmarked]
      simp [pessimize, EndpointSet.pessimize, EndpointSet.mark_of_place? now hplace, hsame]

/-- A report can be told from no report if and only if its endpoint is listed and not marked. -/
theorem health_pessimize_eq_iff (now : Instant) (h : p.current.Indexed) :
    ((∀ f, (p.pessimize now e).health f = p.health f) ∧
      (p.pessimize now e).current.pessimized = p.current.pessimized) ↔ p.health e ≠ some none := by
  constructor
  · rintro ⟨hsame, _⟩ hunmarked
    have hmarked := hsame e
    rw [health_pessimize h, if_pos rfl, hunmarked] at hmarked
    cases hmarked
  · intro hhealth
    rw [pessimize_of_health_ne now h hhealth]
    exact ⟨fun _ => rfl, rfl⟩

end EndpointPool

namespace Transport.Calling

variable {ρ : Type} {s t u w : Calling ρ} {m : Move} {ms first rest : List Move}
  {v : Preparing.View} {isCancelled : Bool} {target : CallTarget}

def eventsOf (s : Calling ρ) : Move → List PoolEvent
  | .others m => s.activity.poolEvents m
  | .step .. => []

/-- What others do to the endpoints in the course of a run. -/
def poolEvents (s : Calling ρ) : List Move → List PoolEvent
  | [] => []
  | m :: ms =>
    s.eventsOf m ++
      match s.move m with
      | none => []
      | some t => t.poolEvents ms

private theorem poolEvents_cons (hm : s.move m = some t) (ms : List Move) :
    s.poolEvents (m :: ms) = s.eventsOf m ++ t.poolEvents ms := by
  rw [poolEvents, hm]

private theorem poolEvents_concat (hrun : s.run ms = some u) (m : Move) :
    s.poolEvents (ms ++ [m]) = s.poolEvents ms ++ u.eventsOf m := by
  induction ms generalizing s with
  | nil =>
    cases hrun
    simp only [List.nil_append, poolEvents]
    split <;> exact List.append_nil _
  | cons m' ms ih =>
    obtain ⟨x, hx, hrest⟩ := exists_move_of_foldlM_cons hrun
    rw [List.cons_append, poolEvents_cons hx, poolEvents_cons hx, ih hrest, List.append_assoc]

theorem without_of_move (h : s.move m = some t) :
    t.without = s.without.after (s.eventsOf m) := by
  cases m with
  | others m =>
    obtain ⟨a, _, rfl⟩ := Option.map_eq_some_iff.mp h
    rfl
  | step v isCancelled =>
    obtain ⟨r, _, rfl⟩ := Option.map_eq_some_iff.mp h
    rfl

theorem without_of_run (hrun : s.run ms = some t) :
    t.without = s.without.after (s.poolEvents ms) := by
  refine foldlM_induction (fun ms t => t.without = s.without.after (s.poolEvents ms)) rfl ?_ hrun
  intro ms u m t hms hu hm
  rw [without_of_move hm, hu, ← EndpointPool.after_append, ← poolEvents_concat hms m]

theorem sound_of_run (hs : s.without.current.Sound) (hrun : s.run ms = some t) :
    t.without.current.Sound := by
  rw [without_of_run hrun]
  exact EndpointPool.sound_after hs _

/-- A run in two parts, with a step between them in which the call marks its target. -/
structure Marking (s : Calling ρ) (first : List Move) (u : Calling ρ) (v : Preparing.View)
    (isCancelled : Bool) (w : Calling ρ) (rest : List Move) (target : CallTarget)
    (t : Calling ρ) : Prop where
  before : s.run first = some u
  step : u.move (.step v isCancelled) = some w
  later : w.run rest = some t
  /-- So far the call has made no difference. -/
  same : u.endpoints = u.without
  marks : w.endpoints = u.endpoints.pessimize v.markTime target.endpoint
  /-- The call does nothing else to the endpoints. -/
  endpoints : t.endpoints = w.endpoints.after (w.poolEvents rest)

namespace Marking

theorem without (h : Marking s first u v isCancelled w rest target t) :
    t.without = u.without.after (w.poolEvents rest) := by
  rw [without_of_run h.later, without_of_move h.step]
  rfl

theorem sound (h : Marking s first u v isCancelled w rest target t)
    (hs : s.without.current.Sound) : u.endpoints.current.Sound := by
  rw [h.same]
  exact sound_of_run hs h.before

/-- A target that is listed is marked from this step on, if it was not before. -/
theorem health (h : Marking s first u v isCancelled w rest target t)
    (hs : s.without.current.Sound) (e : Endpoint) :
    w.endpoints.health e =
      if target.endpoint.toAddress = e.toAddress then
        (u.endpoints.health e).map fun mark => mark.or (some v.markTime)
      else u.endpoints.health e := by
  rw [h.marks]
  exact EndpointPool.health_pessimize (h.sound hs).indexed v.markTime target.endpoint e

private theorem endpoints_eq_without (h : Marking s first u v isCancelled w rest target t)
    (hs : s.without.current.Sound) (hhealth : u.endpoints.health target.endpoint ≠ some none) :
    t.endpoints = t.without := by
  have hindexed := (h.sound hs).indexed
  rw [h.endpoints, h.marks, h.without, ← h.same,
    EndpointPool.pessimize_of_health_ne v.markTime hindexed hhealth]

theorem health_of_ne (h : Marking s first u v isCancelled w rest target t)
    (hs : s.without.current.Sound) (hne : t.endpoints ≠ t.without) :
    u.endpoints.health target.endpoint = some none ∧
      w.endpoints.health target.endpoint = some (some v.markTime) := by
  have hbefore : u.endpoints.health target.endpoint = some none := by
    by_contra hhealth
    exact hne (h.endpoints_eq_without hs hhealth)
  have hafter := h.health hs target.endpoint
  rw [if_pos rfl, hbefore] at hafter
  exact ⟨hbefore, hafter⟩

theorem move (h : Marking s first u v isCancelled w rest target t) {x : Calling ρ}
    (hm : t.move m = some x) (hx : x.endpoints = t.endpoints.after (t.eventsOf m)) :
    Marking s first u v isCancelled w (rest ++ [m]) target x where
  before := h.before
  step := h.step
  later := foldlM_trans h.later (foldlM_cons_of_move hm rfl)
  same := h.same
  marks := h.marks
  endpoints := by
    rw [hx, h.endpoints, poolEvents_concat h.later, EndpointPool.after_append]

end Marking

/-- In the course of a run the call marked its target. -/
def Marks (s : Calling ρ) (ms : List Move) (target : CallTarget) (t : Calling ρ) : Prop :=
  ∃ first u v isCancelled w rest, ms = first ++ .step v isCancelled :: rest ∧
    Marking s first u v isCancelled w rest target t

theorem Marks.move (h : s.Marks ms target u) (hm : u.move m = some t)
    (ht : t.endpoints = u.endpoints.after (u.eventsOf m)) : s.Marks (ms ++ [m]) target t := by
  obtain ⟨first, x, v, isCancelled, w, rest, rfl, hmarking⟩ := h
  exact ⟨first, x, v, isCancelled, w, rest ++ [m], by simp, hmarking.move hm ht⟩

theorem marks_of_step (hrun : s.run ms = some u) (hm : u.move (.step v isCancelled) = some t)
    (hsame : u.endpoints = u.without)
    (ht : t.endpoints = u.endpoints.pessimize v.markTime target.endpoint) :
    s.Marks (ms ++ [.step v isCancelled]) target t :=
  ⟨ms, u, v, isCancelled, t, [], rfl, hrun, hm, rfl, hsame, ht, rfl⟩

end Transport.Calling

end ClusterTransport
