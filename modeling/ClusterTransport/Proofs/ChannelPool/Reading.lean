import ClusterTransport.Proofs.ChannelPool.Traffic

/-!
# What a `get` reads

Each `get` takes its steps while other operations take theirs. A connection that it reads is filed
under its endpoint right after the step that reads it, and a `get` that fails because of its factory
fails by a step that leaves the pool alone.
-/

namespace ClusterTransport

namespace Getting

/-- The connection that a `get` has read and not given up. -/
def read? : Getting → Option Connection
  | checking c => some c
  | done (.ok c) => some c
  | _ => none

/-- A `get` that has read a connection and can answer no other. -/
def KeepsTo (c : Connection) : Getting → Prop
  | begun => False
  | looking => False
  | opening => False
  | checking d => d = c
  | done (.ok d) => d = c
  | _ => True

variable {c : Connection} {g : Getting}

theorem keepsTo_of_read? (h : g.read? = some c) : g.KeepsTo c := by
  cases g with
  | checking d => exact Option.some.inj h
  | done answer =>
    cases answer with
    | ok d => exact Option.some.inj h
    | error fault => cases h
  | _ => cases h

theorem KeepsTo.step (h : g.KeepsTo c) (reach : Reach) (e : Endpoint) (p : ChannelPool) :
    (g.step reach e p).2.KeepsTo c := by
  cases g with
  | checking d =>
    simp only [Getting.step]
    split
    · trivial
    · exact h
  | withdrawing =>
    simp only [Getting.step]
    split <;> trivial
  | closing r => trivial
  | done answer => exact h
  | _ => exact h.elim

end Getting

namespace ChannelPool

variable {p q : ChannelPool} {e f : Endpoint} {c : Connection} {r : Endpoint × Connection}

theorem find?_congr (h : e.toAddress = f.toAddress) : p.find? e = p.find? f := by
  simp only [find?, Endpoint.same, h]

theorem find?_file (p : ChannelPool) (e f : Endpoint) :
    (p.file f).find? e =
      (p.find? e).or (if f.toAddress = e.toAddress then some (f, ⟨p.opened + 1, f⟩) else none) := by
  rw [find?, file, List.find?_append]
  by_cases h : f.toAddress = e.toAddress <;> simp [find?, Endpoint.same, h]

end ChannelPool

open ChannelPool (find?_file openFor_cases)

/-- A `get` comes to have a connection by a step after which it is filed under the endpoint. -/
theorem Getting.find?_of_step {reach : Reach} {e : Endpoint} {p : ChannelPool} {g : Getting}
    {c : Connection} (hbefore : g.read? ≠ some c)
    (hread : (g.step reach e p).2.read? = some c) :
    ∃ key, (g.step reach e p).1.find? e = some (key, c) := by
  cases g with
  | begun =>
    simp only [step] at hread
    split at hread <;> cases hread
  | looking =>
    simp only [step] at hread ⊢
    split at hread
    next r hr =>
      cases hread
      exact ⟨r.1, hr⟩
    next => cases hread
  | opening =>
    rcases openFor_cases p reach e with ⟨r, hr, hopen⟩ | ⟨fault, hopen⟩ | ⟨hnone, hopen⟩
    · simp only [step, hopen] at hread ⊢
      cases hread
      exact ⟨r.1, hr⟩
    · simp only [step, hopen] at hread
      cases hread
    · simp only [step, hopen] at hread ⊢
      cases hread
      exact ⟨e, by simp [find?_file, hnone]⟩
  | checking d =>
    simp only [step] at hread
    split at hread
    · cases hread
    · exact absurd hread hbefore
  | withdrawing =>
    simp only [step] at hread
    split at hread <;> cases hread
  | closing r => cases hread
  | done answer => exact absurd hread hbefore

/-- A `get` fails because of a shutdown, or by a step at which the factory fails and which leaves
the pool alone. -/
theorem Getting.fault_of_step {reach : Reach} {e : Endpoint} {p : ChannelPool} {g : Getting}
    {fault : Error} (hbefore : g ≠ done (.error fault))
    (hfails : (g.step reach e p).2 = done (.error fault)) :
    fault = .shuttingDown ∨
      (p.find? e = none ∧ reach e = some fault ∧ (g.step reach e p).1 = p) := by
  cases g with
  | begun =>
    simp only [step] at hfails
    split at hfails <;> cases hfails
    exact Or.inl rfl
  | looking =>
    simp only [step] at hfails
    split at hfails <;> cases hfails
  | opening =>
    simp only [step, ChannelPool.openFor] at hfails ⊢
    cases hfind : p.find? e with
    | some r =>
      rw [hfind] at hfails
      cases hfails
    | none =>
      cases hreach : reach e with
      | some cause =>
        simp only [hfind, hreach] at hfails ⊢
        cases hfails
        exact Or.inr ⟨trivial, rfl, trivial⟩
      | none =>
        simp only [hfind, hreach] at hfails
        cases hfails
  | checking d =>
    simp only [step] at hfails
    split at hfails <;> cases hfails
  | withdrawing =>
    simp only [step] at hfails
    split at hfails <;> cases hfails
    exact Or.inl rfl
  | closing r =>
    cases hfails
    exact Or.inl rfl
  | done answer => exact absurd hfails hbefore

namespace ChannelPool

@[simp] theorem Call.step_getting (reach : Reach) (p : ChannelPool) (e : Endpoint) (g : Getting) :
    (getting e g).step reach p = ((g.step reach e p).1, getting e (g.step reach e p).2) := rfl

namespace Traffic

variable {s t : Traffic} {m : Move} {ms : List Move} {i : Nat} {e : Endpoint} {g : Getting}

theorem calls_of_move (h : s.move m = some t) (i : Nat) :
    t.calls[i]? = s.calls[i]? ∨
    (∃ reach a, m = .step i reach ∧ s.calls[i]? = some a ∧ t.pool = (a.step reach s.pool).1 ∧
      t.calls[i]? = some (a.step reach s.pool).2) ∨
    (∃ a b, s.calls[i]? = some a ∧ Call.Drifts s.pool a b ∧ t.calls[i]? = some b) ∨
    (s.calls[i]? = none ∧ ∃ r : Request, t.calls[i]? = some r.call) := by
  cases m with
  | begin r =>
    cases h
    rcases Nat.lt_trichotomy i s.calls.length with hlt | rfl | hgt
    · exact Or.inl (List.getElem?_append_left hlt)
    · exact Or.inr (Or.inr (Or.inr ⟨by simp, r, by simp⟩))
    · refine Or.inl ?_
      rw [List.getElem?_eq_none (by simp; omega), List.getElem?_eq_none (by omega)]
  | step j reach =>
    obtain ⟨a, ha, rfl⟩ := Option.map_eq_some_iff.mp h
    rcases getElem?_set_or (a.step reach s.pool).2 ha i with hsame | ⟨rfl, hset⟩
    · exact Or.inl hsame
    · exact Or.inr (Or.inl ⟨reach, a, rfl, ha, rfl, hset⟩)
  | reroute j ahead =>
    simp only [move] at h
    split at h
    next r keep old found ha =>
      split at h
      next hall =>
        cases h
        rcases getElem?_set_or _ ha i with hsame | ⟨rfl, hset⟩
        · exact Or.inl hsame
        · exact Or.inr (Or.inr (Or.inl ⟨_, _, ha, .reroute r keep old ahead found hall, hset⟩))
      next => cases h
    next => cases h
  | rejudge j keep =>
    simp only [move] at h
    split at h
    next k old ahead found ha =>
      cases h
      rcases getElem?_set_or _ ha i with hsame | ⟨rfl, hset⟩
      · exact Or.inl hsame
      · exact Or.inr (Or.inr (Or.inl ⟨_, _, ha, .rejudge k old keep ahead found, hset⟩))
    next => cases h

theorem getting_of_move (h : s.move m = some t) (ht : t.calls[i]? = some (.getting e g)) :
    s.calls[i]? = some (.getting e g) ∨
    (∃ reach a, m = .step i reach ∧ s.calls[i]? = some (.getting e a) ∧
      t.pool = (a.step reach e s.pool).1 ∧ g = (a.step reach e s.pool).2) ∨
    g = .begun := by
  rcases calls_of_move h i with
    hsame | ⟨reach, a, rfl, ha, hpool, hstep⟩ | ⟨a, b, _, hd, hb⟩ | ⟨_, r, hr⟩
  · exact Or.inl (hsame ▸ ht)
  · refine Or.inr (Or.inl ?_)
    cases a with
    | getting f a =>
      have hcall := Option.some.inj (ht.symm.trans hstep)
      injection hcall with hf hg
      subst hf
      exact ⟨reach, a, rfl, ha, hpool, hg⟩
    | evicting r o => cases ht.symm.trans hstep
  · cases hd <;> cases ht.symm.trans hb
  · cases r with
    | get f =>
      cases ht.symm.trans hr
      exact Or.inr (Or.inr rfl)
    | _ => cases ht.symm.trans hr

theorem getting_of_run {K : Getting → Prop}
    (hstep : ∀ reach e p g, K g → K (Getting.step reach e p g).2)
    (hs : ∃ g, s.calls[i]? = some (.getting e g) ∧ K g) (hrun : s.run ms = some t) :
    ∃ g, t.calls[i]? = some (.getting e g) ∧ K g := by
  refine foldlM_invariant (fun u => ∃ g, u.calls[i]? = some (.getting e g) ∧ K g) ?_ hs hrun
  intro u m v hu hm
  obtain ⟨g, hg, hK⟩ := hu
  rcases calls_of_move hm i with
    hsame | ⟨reach, a, rfl, ha, _, hv⟩ | ⟨a, b, ha, hd, _⟩ | ⟨hnone, _⟩
  · exact ⟨g, hsame.trans hg, hK⟩
  · cases hg.symm.trans ha
    exact ⟨_, hv, hstep reach e u.pool g hK⟩
  · cases hg.symm.trans ha
    cases hd
  · cases hg.symm.trans hnone

theorem done_of_run {answer : Except Error Connection}
    (hs : s.calls[i]? = some (.getting e (.done answer))) (hrun : s.run ms = some t) :
    t.calls[i]? = some (.getting e (.done answer)) := by
  obtain ⟨g, hg, rfl⟩ := getting_of_run (K := fun g => g = .done answer)
    (by rintro reach e p g rfl; rfl) ⟨_, hs, rfl⟩ hrun
  exact hg

/-- Within a run, some step of an operation has a property. -/
def During (s : Traffic) (ms : List Move) (i : Nat) (P : Traffic → Reach → Traffic → Prop) :
    Prop :=
  ∃ before reach after u w, ms = before ++ .step i reach :: after ∧ s.run before = some u ∧
    u.move (.step i reach) = some w ∧ P u reach w

private theorem During.cons {P : Traffic → Reach → Traffic → Prop} (hm : s.move m = some t)
    (h : t.During ms i P) : s.During (m :: ms) i P := by
  obtain ⟨before, reach, after, u, w, rfl, hu, hw, hP⟩ := h
  exact ⟨m :: before, reach, after, u, w, rfl, foldlM_cons_of_move hm hu, hw, hP⟩

theorem During.mono {P Q : Traffic → Reach → Traffic → Prop} (h : s.During ms i P)
    (hPQ : ∀ u reach w, P u reach w → Q u reach w) : s.During ms i Q := by
  obtain ⟨before, reach, after, u, w, hms, hu, hw, hP⟩ := h
  exact ⟨before, reach, after, u, w, hms, hu, hw, hPQ u reach w hP⟩

theorem during_of_run {Q : Getting → Prop} (hbegun : ¬ Q .begun)
    (hs : ∀ g, s.calls[i]? = some (.getting e g) → ¬ Q g) (hrun : s.run ms = some t)
    (ht : t.calls[i]? = some (.getting e g)) (hg : Q g) :
    s.During ms i fun u reach w => ∃ a, ¬ Q a ∧ Q (Getting.step reach e u.pool a).2 ∧
      w.pool = (Getting.step reach e u.pool a).1 := by
  induction ms generalizing s with
  | nil =>
    cases hrun
    exact absurd hg (hs g ht)
  | cons m ms ih =>
    obtain ⟨u, hu, hrest⟩ := exists_move_of_foldlM_cons hrun
    by_cases hafter : ∃ a, u.calls[i]? = some (.getting e a) ∧ Q a
    · obtain ⟨a, ha, hQ⟩ := hafter
      rcases getting_of_move hu ha with hsame | ⟨reach, b, rfl, hb, hpool, rfl⟩ | rfl
      · exact absurd hQ (hs a hsame)
      · exact ⟨[], reach, ms, s, u, rfl, rfl, hu, b, hs b hb, hQ, hpool⟩
      · exact absurd hQ hbegun
    · exact (ih (fun a ha hQ => hafter ⟨a, ha, hQ⟩) hrest).cons hu

end Traffic

end ChannelPool

end ClusterTransport
