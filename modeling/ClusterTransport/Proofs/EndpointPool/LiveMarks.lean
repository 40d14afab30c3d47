import ClusterTransport.Proofs.EndpointPool.History
import Mathlib.Data.List.Induction

/-!
# Live marks

Which endpoints are known and which of them are marked, and since when, read off the history of a
pool: a mark is of the report that set it, and lives as long as every round lists the endpoint
before the mark is as old as the ttl.
-/

namespace ClusterTransport

private theorem concat_eq_append_cons_iff {α : Type} {l before later : List α} {x a : α} :
    l ++ [x] = before ++ a :: later ↔
      (later = [] ∧ x = a ∧ l = before) ∨
        ∃ rest, later = rest ++ [x] ∧ l = before ++ a :: rest := by
  constructor
  · intro h
    rcases List.eq_nil_or_concat later with rfl | ⟨rest, y, rfl⟩
    · obtain ⟨hl, hx⟩ := List.append_inj' h rfl
      exact Or.inl ⟨rfl, List.singleton_inj.mp hx, hl⟩
    · have h : l ++ [x] = (before ++ a :: rest) ++ [y] := by simpa using h
      obtain ⟨hl, hx⟩ := List.append_inj' h rfl
      exact Or.inr ⟨rest, by simp [List.singleton_inj.mp hx], hl⟩
  · rintro (⟨rfl, rfl, rfl⟩ | ⟨rest, rfl, rfl⟩)
    · rfl
    · simp

namespace EndpointPool

def Listed (events : List PoolEvent) (e : Endpoint) : Prop :=
  ∃ before now selfLocation records later,
    events = before ++ .round now selfLocation records :: later ∧
      (∀ event ∈ later, event.isAdopted = false) ∧ ∃ r ∈ records, r.toAddress = e.toAddress

/-- Every round with endpoints lists the endpoint, and comes while a mark of `t` is fresh. -/
def Renews (ttl : Span) (e : Endpoint) (t : Instant) (events : List PoolEvent) : Prop :=
  ∀ now selfLocation records, .round now selfLocation records ∈ events → records ≠ [] →
    (∃ r ∈ records, r.toAddress = e.toAddress) ∧ now - t < ttl

/-- The endpoint was reported at `t` while it was known and unmarked, and the mark was renewed ever
since. -/
def MarkedSince (p : EndpointPool) (events : List PoolEvent) (e : Endpoint) (t : Instant) : Prop :=
  ∃ before f later, events = before ++ .failure t f :: later ∧ f.toAddress = e.toAddress ∧
    (p.after before).health e = some none ∧
      Renews (Span.seconds p.pessimization.ttl.toNat) e t later

variable {p : EndpointPool} {events : List PoolEvent} {e : Endpoint} {t : Instant} {ttl : Span}

private theorem not_listed_nil : ¬ Listed [] e := by
  rintro ⟨before, now, selfLocation, records, later, hevents, _⟩
  simp at hevents

private theorem not_markedSince_nil : ¬ p.MarkedSince [] e t := by
  rintro ⟨before, f, later, hevents, _⟩
  simp at hevents

private theorem listed_concat {event : PoolEvent} (h : event.isAdopted = false) :
    Listed (events ++ [event]) e ↔ Listed events e := by
  constructor
  · rintro ⟨before, now, selfLocation, records, later, hevents, hlater, r, hr, hre⟩
    rcases concat_eq_append_cons_iff.mp hevents with ⟨rfl, rfl, rfl⟩ | ⟨rest, rfl, rfl⟩
    · have hnil : records = [] := by simpa [PoolEvent.isAdopted] using h
      rw [hnil] at hr
      cases hr
    · exact ⟨before, now, selfLocation, records, rest, rfl,
        fun x hx => hlater x (List.mem_append_left _ hx), r, hr, hre⟩
  · rintro ⟨before, now, selfLocation, records, later, rfl, hlater, hlists⟩
    refine ⟨before, now, selfLocation, records, later ++ [event], by simp, ?_, hlists⟩
    intro x hx
    rcases List.mem_append.mp hx with hold | hnew
    · exact hlater x hold
    · exact List.mem_singleton.mp hnew ▸ h

private theorem listed_concat_round {now : Instant} {selfLocation : String}
    {records : List Endpoint}
    (h : records ≠ []) :
    Listed (events ++ [.round now selfLocation records]) e ↔
      ∃ r ∈ records, r.toAddress = e.toAddress := by
  constructor
  · rintro ⟨before, now', selfLocation', records', later, hevents, hlater, hlists⟩
    rcases concat_eq_append_cons_iff.mp hevents with ⟨rfl, hround, rfl⟩ | ⟨rest, rfl, rfl⟩
    · cases hround
      exact hlists
    · -- the round at the end is adopted, so the other one is not the last
      have hlast := hlater _ (List.mem_append_right rest (List.mem_singleton.mpr rfl))
      exact absurd (by simpa [PoolEvent.isAdopted] using hlast) h
  · intro hlists
    exact ⟨events, now, selfLocation, records, [], rfl, by simp, hlists⟩

private theorem renews_concat {event : PoolEvent} :
    Renews ttl e t (events ++ [event]) ↔ Renews ttl e t events ∧ Renews ttl e t [event] := by
  constructor
  · intro h
    refine ⟨?_, ?_⟩
    · intro now selfLocation records hround
      exact h now selfLocation records (List.mem_append_left _ hround)
    · intro now selfLocation records hround
      exact h now selfLocation records (List.mem_append_right _ hround)
  · rintro ⟨hbefore, hlast⟩ now selfLocation records hround
    rcases List.mem_append.mp hround with hold | hnew
    · exact hbefore now selfLocation records hold
    · exact hlast now selfLocation records hnew

private theorem renews_failure (now : Instant) (f : Endpoint) :
    Renews ttl e t [.failure now f] := by
  intro now' selfLocation records hround
  simp at hround

theorem renews_round {now : Instant} {selfLocation : String} {records : List Endpoint}
    (h : records ≠ []) :
    Renews ttl e t [.round now selfLocation records] ↔
      (∃ r ∈ records, r.toAddress = e.toAddress) ∧ now - t < ttl := by
  constructor
  · intro hrenews
    exact hrenews now selfLocation records (List.mem_singleton.mpr rfl) h
  · rintro hfresh now' selfLocation' records' hround _
    cases List.mem_singleton.mp hround
    exact hfresh

private theorem markedSince_concat {event : PoolEvent} :
    p.MarkedSince (events ++ [event]) e t ↔
      ((∃ f, event = .failure t f ∧ f.toAddress = e.toAddress) ∧
        (p.after events).health e = some none) ∨
      (p.MarkedSince events e t ∧
        Renews (Span.seconds p.pessimization.ttl.toNat) e t [event]) := by
  constructor
  · rintro ⟨before, f, later, hevents, hf, hunmarked, hrenews⟩
    rcases concat_eq_append_cons_iff.mp hevents with ⟨rfl, rfl, rfl⟩ | ⟨rest, rfl, rfl⟩
    · exact Or.inl ⟨⟨f, rfl, hf⟩, hunmarked⟩
    · obtain ⟨hrest, hlast⟩ := renews_concat.mp hrenews
      exact Or.inr ⟨⟨before, f, rest, rfl, hf, hunmarked, hrest⟩, hlast⟩
  · rintro (⟨⟨f, rfl, hf⟩, hunmarked⟩ | ⟨⟨before, f, later, rfl, hf, hunmarked, hrenews⟩, hlast⟩)
    · refine ⟨events, f, [], rfl, hf, hunmarked, ?_⟩
      intro now selfLocation records hround
      cases hround
    · exact ⟨before, f, later ++ [event], by simp, hf, hunmarked,
        renews_concat.mpr ⟨hrenews, hlast⟩⟩

theorem markOf_eq_some_iff : p.markOf e = some t ↔ p.health e = some (some t) := by
  simp [markOf, Option.join_eq_some_iff]

theorem pessimize_of_health_eq_none (now : Instant) (h : p.current.Indexed)
    (hnone : p.health e = none) : p.pessimize now e = p := by
  have hunlisted : (p.current.place? e).isSome = false := by
    rw [h.isSome_place?, ← health_isSome, hnone]
    rfl
  have hplace : p.current.place? e = none := by simpa using hunlisted
  simp [pessimize, EndpointSet.pessimize, EndpointSet.mark_of_place?_eq_none now hplace]

private theorem health_after_eq_none_iff (h : p.current.Sound) (hnew : p.health e = none) :
    (p.after events).health e = none ↔ ¬ Listed events e := by
  induction events using List.reverseRecOn with
  | nil => simp [after, hnew, not_listed_nil]
  | append_singleton events event ih =>
    rw [after_concat]
    have hindexed := (sound_after h events).indexed
    cases event with
    | failure now f =>
      rw [listed_concat rfl, ← ih, happen, health_pessimize hindexed]
      split <;> simp
    | round now selfLocation records =>
      by_cases hrecords : records = []
      · rw [listed_concat (by simp [PoolEvent.isAdopted, hrecords]), ← ih, hrecords]
        rfl
      · rw [listed_concat_round hrecords, happen, health_adopt _ now selfLocation hrecords]
        split <;> simp_all

private theorem health_failure_eq_some_iff (h : p.current.Indexed) (now : Instant) (f : Endpoint) :
    (p.happen (.failure now f)).health e = some (some t) ↔
      ((now = t ∧ f.toAddress = e.toAddress) ∧ p.health e = some none) ∨
        p.health e = some (some t) := by
  rw [happen, health_pessimize h]
  by_cases hsame : f.toAddress = e.toAddress
  · rw [if_pos hsame]
    rcases p.health e with _ | _ | mark <;> simp [hsame]
  · simp [hsame]

/-- A step of a history sets a mark of `t`, or renews it. -/
theorem health_happen_eq_some_iff (h : p.current.Indexed) (event : PoolEvent) :
    (p.happen event).health e = some (some t) ↔
      ((∃ f, event = .failure t f ∧ f.toAddress = e.toAddress) ∧ p.health e = some none) ∨
        (p.health e = some (some t) ∧
          Renews (Span.seconds p.pessimization.ttl.toNat) e t [event]) := by
  cases event with
  | failure now f =>
    have hreport : (∃ g, PoolEvent.failure now f = .failure t g ∧ g.toAddress = e.toAddress) ↔
        now = t ∧ f.toAddress = e.toAddress := by
      simp
    simp only [health_failure_eq_some_iff h, hreport, renews_failure, and_true]
  | round now selfLocation records =>
    by_cases hrecords : records = []
    · subst hrecords
      have hrenews : Renews (Span.seconds p.pessimization.ttl.toNat) e t
          [.round now selfLocation []] := by
        intro now' selfLocation' records' hround hne
        cases List.mem_singleton.mp hround
        exact absurd rfl hne
      simp [happen, adopt_nil, hrenews]
    · rw [happen, health_adopt _ now selfLocation hrecords, renews_round hrecords,
        ← markOf_eq_some_iff]
      split
      next hlists => simp [Option.filter_eq_some_iff, hlists]
      next hlists => simp [hlists]

private theorem health_after_eq_some_iff (h : p.current.Sound) (hnew : p.health e = none) :
    (p.after events).health e = some (some t) ↔ p.MarkedSince events e t := by
  induction events using List.reverseRecOn with
  | nil => simp [after, hnew, not_markedSince_nil]
  | append_singleton events event ih =>
    rw [after_concat, markedSince_concat, ← ih,
      health_happen_eq_some_iff (sound_after h events).indexed, (settings_after p events).2]

/-- After any history an endpoint is known if and only if the last round that was adopted lists it,
and marked since `t` if and only if it was reported at `t` while it was known and unmarked, and
every round with endpoints since then has listed it before the mark was as old as the ttl. Rounds
without endpoints and reports of unknown endpoints change nothing. -/
theorem health_after (balancing : BalancingSettings) (pessimization : PessimizationSettings)
    (events : List PoolEvent) :
    let new : EndpointPool := { balancing, pessimization }
    (∀ e, (new.after events).health e = none ↔ ¬ Listed events e) ∧
      (∀ e t, (new.after events).health e = some (some t) ↔ new.MarkedSince events e t) ∧
      (∀ now selfLocation,
        (new.after events).adopt now selfLocation [] = (new.after events, [])) ∧
      ∀ now e, (new.after events).health e = none →
        (new.after events).pessimize now e = new.after events := by
  intro new
  have hsound : new.current.Sound := .empty
  refine ⟨?_, ?_, ?_, ?_⟩
  · intro e
    exact health_after_eq_none_iff hsound rfl
  · intro e t
    exact health_after_eq_some_iff hsound rfl
  · intro now selfLocation
    rfl
  · intro now e hnone
    exact pessimize_of_health_eq_none now (sound_after hsound events).indexed hnone

/-- A mark of the first second, with a ttl of a minute: it is there after a round in time, a later
report does not refresh it, and the round after a minute clears it. A report of an endpoint that no
round has listed leaves the pool as it is. -/
theorem health_after_renewed_mark :
    let new : EndpointPool := {}
    let a := Endpoint.ofAddress ⟨"h", 1⟩
    let b := Endpoint.ofAddress ⟨"h", 2⟩
    let renewed := [.round 0 "" [a], .failure (Span.seconds 1) a, .round (Span.seconds 60) "" [a],
      .failure (Span.seconds 60) a, .round (Span.seconds 60) "" []]
    let expired := renewed ++ [.round (Span.seconds 61) "" [a]]
    new.MarkedSince renewed a (Span.seconds 1) ∧
      ¬ new.MarkedSince expired a (Span.seconds 1) ∧ Listed expired a ∧
      (new.after renewed).pessimize (Span.seconds 60) b = new.after renewed := by
  intro new a b renewed expired
  have hrenewed : (new.after renewed).health a = some (some (Span.seconds 1)) := by decide +kernel
  have hexpired : (new.after expired).health a = some none := by decide +kernel
  have hunknown : (new.after renewed).health b = none := by decide +kernel
  obtain ⟨_, hmarked, _, hignored⟩ := health_after {} {} renewed
  obtain ⟨hknown, hcleared, _⟩ := health_after {} {} expired
  refine ⟨(hmarked a _).mp hrenewed, ?_, ?_, hignored _ b hunknown⟩
  · intro hsince
    cases hexpired.symm.trans ((hcleared a _).mpr hsince)
  · by_contra hunlisted
    cases hexpired.symm.trans ((hknown a).mpr hunlisted)

end EndpointPool

end ClusterTransport
