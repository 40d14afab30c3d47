import ClusterTransport.Proofs.ChannelPool.Shutdown

/-!
# What evictions spare

An eviction that goes by a list of endpoints takes out no connection of an endpoint on the list, and
a `get` on a pool that is not shut down takes out none at all.
-/

namespace ClusterTransport

namespace ChannelPool

variable {p : ChannelPool} {e f : Endpoint} {r : Endpoint × Connection}

private theorem mem_evict_of_address_ne (h : r.1.toAddress ≠ e.toAddress) :
    r ∈ (p.evict e).channels ↔ r ∈ p.channels := by
  have hother : ¬ r.1.same e = true := fun hsame => h (Endpoint.same_iff.mp hsame)
  exact List.mem_eraseP_of_neg hother

/-- What an eviction that spares the listed endpoints can do to a pool, with what it has in hand
before and after. -/
inductive Shed (listed : Endpoint → Bool) (p : ChannelPool) :
    Option (Endpoint × Connection) → ChannelPool → Option (Endpoint × Connection) → Prop where
  | nothing : Shed listed p none p none
  | taking (e : Endpoint) (r : Endpoint × Connection) (h : p.find? e = some r)
      (hr : listed r.1 = false) : Shed listed p none (p.evict e) (some r)
  | closing (r : Endpoint × Connection) (hr : listed r.1 = false) :
      Shed listed p (some r) (p.close r) none

variable {listed : Endpoint → Bool} {q : ChannelPool}
  {before after : Option (Endpoint × Connection)}

theorem Shed.effect (h : Shed listed p before q after) : Effect p .nothing before q after := by
  cases h with
  | nothing => exact .nothing
  | taking e r hfind _ => exact .taking e r hfind
  | closing r _ => exact .closing r

theorem Shed.opened_eq (h : Shed listed p before q after) : q.opened = p.opened := by
  cases h <;> rfl

private theorem Shed.mem_of_mem (h : Shed listed p before q after) (hr : r ∈ q.channels) :
    r ∈ p.channels :=
  h.effect.mem_of_mem (by simp) hr

section Listed

variable (hlisted : ∀ e f : Endpoint, e.toAddress = f.toAddress → listed e = listed f)
include hlisted

private theorem address_ne_of_listed (hr : listed r.1 = false) (hfind : p.find? e = some r)
    (hf : listed f = true) : f.toAddress ≠ e.toAddress := by
  intro hsame
  have haddress : r.1.toAddress = f.toAddress := (find?_address hfind).trans hsame.symm
  cases hr.symm.trans ((hlisted r.1 f haddress).trans hf)

private theorem Shed.mem_of_listed (h : Shed listed p before q after) (hr : r ∈ p.channels)
    (hf : listed r.1 = true) : r ∈ q.channels := by
  cases h with
  | taking e taken hfind htaken =>
    exact (mem_evict_of_address_ne (address_ne_of_listed hlisted htaken hfind hf)).mpr hr
  | _ => exact hr

end Listed

/-- What becomes of a pool while only connections of endpoints that are not listed are closed. -/
structure Kept (listed : Endpoint → Bool) (p q : ChannelPool) : Prop where
  opened_le : p.opened ≤ q.opened
  /-- Whatever was not filed before was opened since. -/
  mem_or_new : ∀ r ∈ q.channels, r ∈ p.channels ∨ p.opened < r.2.serial
  mem_of_listed : ∀ r ∈ p.channels, listed r.1 = true → r ∈ q.channels
  journal : ∃ new, q.journal = new ++ p.journal ∧
    ∀ n key, .closed n key ∈ new → listed key = false

namespace Kept

theorem refl (p : ChannelPool) : Kept listed p p :=
  ⟨Nat.le_refl _, fun _ hr => Or.inl hr, fun _ hr _ => hr, [], rfl, by simp⟩

theorem trans {u : ChannelPool} (h : Kept listed p q) (h' : Kept listed q u) :
    Kept listed p u where
  opened_le := Nat.le_trans h.opened_le h'.opened_le
  mem_or_new := by
    intro r hr
    rcases h'.mem_or_new r hr with hold | hnew
    · exact h.mem_or_new r hold
    · exact Or.inr (Nat.lt_of_le_of_lt h.opened_le hnew)
  mem_of_listed := fun r hr hf => h'.mem_of_listed r (h.mem_of_listed r hr hf) hf
  journal := by
    obtain ⟨new, hnew, hspared⟩ := h.journal
    obtain ⟨newer, hnewer, hspared'⟩ := h'.journal
    refine ⟨newer ++ new, by rw [hnewer, hnew, List.append_assoc], ?_⟩
    intro n key hclosed
    rcases List.mem_append.mp hclosed with hlate | hearly
    · exact hspared' n key hlate
    · exact hspared n key hearly

theorem file (p : ChannelPool) (e : Endpoint) : Kept listed p (p.file e) where
  opened_le := Nat.le_succ _
  mem_or_new := by
    intro r hr
    rcases List.mem_append.mp hr with hold | hnew
    · exact Or.inl hold
    · rw [List.mem_singleton.mp hnew]
      exact Or.inr (Nat.lt_succ_self _)
  mem_of_listed := fun r hr _ => List.mem_append_left _ hr
  journal := ⟨[.opened (p.opened + 1) e], rfl, by simp⟩

theorem timesOpened_le (h : Kept listed p q) (n : Nat) : p.timesOpened n ≤ q.timesOpened n := by
  obtain ⟨new, hnew, _⟩ := h.journal
  simp only [timesOpened, hnew, List.countP_append]
  omega

end Kept

theorem Shed.kept (hlisted : ∀ e f : Endpoint, e.toAddress = f.toAddress → listed e = listed f)
    (h : Shed listed p before q after) : Kept listed p q where
  opened_le := Nat.le_of_eq h.opened_eq.symm
  mem_or_new := fun r hr => Or.inl (h.mem_of_mem hr)
  mem_of_listed := fun r hr hf => h.mem_of_listed hlisted hr hf
  journal := by
    cases h with
    | nothing => exact ⟨[], rfl, by simp⟩
    | taking e r hfind hr => exact ⟨[], rfl, by simp⟩
    | closing r hr =>
      refine ⟨[.closed r.2.serial r.1], rfl, ?_⟩
      intro n key hclosed
      injection List.mem_singleton.mp hclosed with _ hkey
      exact hkey ▸ hr

end ChannelPool

open ChannelPool

/-- The eviction goes by the listed endpoints: it keeps these, and what it has found or has in hand
is not one of them. -/
def Evicting.Spares (listed : Endpoint → Bool) : Evicting → Prop
  | shutting => False
  | surveying keep => ∀ e, keep e = listed e
  | visiting keep _ found => (∀ e, keep e = listed e) ∧ ∀ k ∈ found, listed k = false
  | removing keys _ => ∀ k ∈ keys, listed k = false
  | closing r keys _ => listed r.1 = false ∧ ∀ k ∈ keys, listed k = false
  | done _ => True

theorem Evicting.Spares.step {listed : Endpoint → Bool}
    (hlisted : ∀ e f : Endpoint, e.toAddress = f.toAddress → listed e = listed f)
    {o : Evicting} (h : o.Spares listed) (p : ChannelPool) :
    Shed listed p o.inHand (o.step p).1 (o.step p).2.inHand ∧ (o.step p).2.Spares listed := by
  cases o with
  | shutting => exact h.elim
  | surveying keep => exact ⟨.nothing, h, by simp⟩
  | visiting keep ahead found =>
    obtain ⟨hkeep, hfound⟩ := h
    cases ahead with
    | nil => exact ⟨.nothing, hfound⟩
    | cons key ahead =>
      simp only [Evicting.step]
      split
      next r _ =>
        refine ⟨.nothing, hkeep, ?_⟩
        intro k hk
        split at hk
        next => exact hfound k hk
        next hgoes =>
          rcases List.mem_append.mp hk with hold | hnew
          · exact hfound k hold
          · rw [List.mem_singleton.mp hnew, ← hkeep]
            simpa using hgoes
      next => exact ⟨.nothing, hkeep, hfound⟩
  | removing keys count =>
    cases keys with
    | nil => exact ⟨.nothing, trivial⟩
    | cons key keys =>
      obtain ⟨hkey, hkeys⟩ := List.forall_mem_cons.mp h
      simp only [Evicting.step]
      split
      next r hr =>
        have hout : listed r.1 = false := (hlisted r.1 key (find?_address hr)).trans hkey
        exact ⟨.taking key r hr hout, hout, hkeys⟩
      next => exact ⟨.nothing, hkeys⟩
  | closing r keys count =>
    obtain ⟨hout, hkeys⟩ := h
    exact ⟨.closing r hout, hkeys⟩
  | done count => exact ⟨.nothing, trivial⟩

def Getting.isOrdinary : Getting → Bool
  | withdrawing => false
  | closing _ => false
  | _ => true

theorem Getting.step_ordinary {p : ChannelPool} {g : Getting} (reach : Reach) (e : Endpoint)
    (hopen : p.isShutdown = false) (h : g.isOrdinary = true) :
    (g.step reach e p).2.isOrdinary = true ∧
      ((g.step reach e p).1 = p ∨
        (p.find? e = none ∧ (g.step reach e p).1 = p.file e)) := by
  cases g with
  | begun => simp [step, hopen, isOrdinary]
  | looking =>
    simp only [step]
    split <;> exact ⟨rfl, Or.inl rfl⟩
  | opening =>
    rcases openFor_cases p reach e with ⟨r, _, hopened⟩ | ⟨fault, hopened⟩ | ⟨hnone, hopened⟩
    · simp [step, hopened, isOrdinary]
    · simp [step, hopened, isOrdinary]
    · simp [step, hopened, isOrdinary, hnone]
  | checking c => simp [step, hopen, isOrdinary]
  | withdrawing => cases h
  | closing r => cases h
  | done answer => exact ⟨rfl, Or.inl rfl⟩

end ClusterTransport
