import ClusterTransport.ChannelPool.Operation

/-!
# Entries of a channel pool

What look-up, opening, eviction and closing do to the connections of a pool and to its journal.
-/

namespace ClusterTransport

namespace ChannelEvent

def opens (n : Nat) : ChannelEvent → Bool
  | opened m _ => m = n
  | closed .. => false

def closes (n : Nat) : ChannelEvent → Bool
  | opened .. => false
  | closed m _ => m = n

end ChannelEvent

namespace ChannelPool

/-- How often the connection with a number was opened. -/
def timesOpened (p : ChannelPool) (n : Nat) : Nat :=
  p.journal.countP (ChannelEvent.opens n)

/-- How often the connection with a number was passed to the factory to be closed. -/
def timesClosed (p : ChannelPool) (n : Nat) : Nat :=
  p.journal.countP (ChannelEvent.closes n)

def hasSerial (n : Nat) (r : Endpoint × Connection) : Bool :=
  r.2.serial = n

def timesFiled (p : ChannelPool) (n : Nat) : Nat :=
  p.channels.countP (hasSerial n)

theorem timesFiled_pos {p : ChannelPool} {r : Endpoint × Connection} (hr : r ∈ p.channels) :
    0 < p.timesFiled r.2.serial :=
  List.countP_pos_iff.mpr ⟨r, hr, by simp [hasSerial]⟩

/-- No two connections are filed under one address. -/
def Distinct (p : ChannelPool) : Prop :=
  p.channels.Pairwise fun a b => a.1.toAddress ≠ b.1.toAddress

theorem find?_eq_none_iff {p : ChannelPool} {e : Endpoint} :
    p.find? e = none ↔ ∀ r ∈ p.channels, r.1.toAddress ≠ e.toAddress := by
  simp [find?, Endpoint.same]

theorem find?_address {p : ChannelPool} {e : Endpoint} {r : Endpoint × Connection}
    (h : p.find? e = some r) : r.1.toAddress = e.toAddress := by
  have hr : r.1.same e = true := (List.find?_eq_some_iff_append.mp h).1
  exact Endpoint.same_iff.mp hr

theorem find?_isSome_of_mem {p : ChannelPool} {e : Endpoint} {r : Endpoint × Connection}
    (hr : r ∈ p.channels) (he : r.1.toAddress = e.toAddress) : ∃ q, p.find? e = some q := by
  cases h : p.find? e with
  | some q => exact ⟨q, rfl⟩
  | none => exact absurd he (find?_eq_none_iff.mp h r hr)

private theorem channels_evict_of_find? {p : ChannelPool} {e : Endpoint} {r : Endpoint × Connection}
    (h : p.find? e = some r) :
    ∃ before after, p.channels = before ++ r :: after ∧
      (p.evict e).channels = before ++ after := by
  obtain ⟨hr, before, after, hl, hbefore⟩ := List.find?_eq_some_iff_append.mp h
  refine ⟨before, after, hl, ?_⟩
  have hskip : ∀ a ∈ before, ¬ (a.1.same e) = true := by
    intro a ha
    simpa using hbefore a ha
  simp only [evict, hl]
  rw [List.eraseP_append_right _ hskip, List.eraseP_cons, hr]
  rfl

theorem countP_channels_evict {p : ChannelPool} {e : Endpoint} {r : Endpoint × Connection}
    (counted : Endpoint × Connection → Bool) (h : p.find? e = some r) :
    p.channels.countP counted = (p.evict e).channels.countP counted + (counted r).toNat := by
  obtain ⟨before, after, hl, hl'⟩ := channels_evict_of_find? h
  simp only [hl, hl', List.countP_append, List.countP_cons]
  cases counted r with
  | false => simp
  | true =>
    simp only [if_true, Bool.toNat_true]
    omega

theorem timesFiled_evict {p : ChannelPool} {e : Endpoint} {r : Endpoint × Connection} (n : Nat)
    (h : p.find? e = some r) :
    p.timesFiled n = (p.evict e).timesFiled n + (hasSerial n r).toNat :=
  countP_channels_evict (hasSerial n) h

theorem Distinct.evict {p : ChannelPool} (h : p.Distinct) (e : Endpoint) : (p.evict e).Distinct :=
  List.Pairwise.sublist List.eraseP_sublist h

theorem mem_of_mem_evict {p : ChannelPool} {e : Endpoint} {r : Endpoint × Connection}
    (hr : r ∈ (p.evict e).channels) : r ∈ p.channels :=
  List.mem_of_mem_eraseP hr

theorem Distinct.address_ne_of_mem_evict {p : ChannelPool} (h : p.Distinct) {e : Endpoint}
    {r : Endpoint × Connection} (hr : r ∈ (p.evict e).channels) :
    r.1.toAddress ≠ e.toAddress := by
  cases hfind : p.find? e with
  | none => exact find?_eq_none_iff.mp hfind r (mem_of_mem_evict hr)
  | some q =>
    obtain ⟨before, after, hl, hl'⟩ := channels_evict_of_find? hfind
    have hq := find?_address hfind
    have hpair : (before ++ q :: after).Pairwise fun a b => a.1.toAddress ≠ b.1.toAddress :=
      hl ▸ h
    obtain ⟨_, hafter, hacross⟩ := List.pairwise_append.mp hpair
    rw [hl'] at hr
    rcases List.mem_append.mp hr with hbefore | hbehind
    · exact hq ▸ hacross r hbefore q (by simp)
    · exact hq ▸ ((List.pairwise_cons.mp hafter).1 r hbehind).symm

theorem Distinct.find?_eq_some_iff {p : ChannelPool} (h : p.Distinct) {e : Endpoint}
    {r : Endpoint × Connection} :
    p.find? e = some r ↔ r ∈ p.channels ∧ r.1.toAddress = e.toAddress := by
  constructor
  · intro hfind
    exact ⟨List.mem_of_find?_eq_some hfind, find?_address hfind⟩
  · rintro ⟨hr, haddress⟩
    obtain ⟨q, hq⟩ := find?_isSome_of_mem hr haddress
    obtain ⟨before, after, hl, hl'⟩ := channels_evict_of_find? hq
    have hother : r ∉ (p.evict e).channels := fun hstays =>
      h.address_ne_of_mem_evict hstays haddress
    have hsame : r = q := by
      rw [hl', List.mem_append, not_or] at hother
      simpa [hl, hother] using hr
    rw [hq, hsame]

def file (p : ChannelPool) (e : Endpoint) : ChannelPool :=
  { p with
    channels := p.channels ++ [(e, ⟨p.opened + 1, e⟩)]
    opened := p.opened + 1
    journal := .opened (p.opened + 1) e :: p.journal }

/-- Opening hands out what is filed, or files a new connection if the factory makes one. -/
theorem openFor_cases (p : ChannelPool) (reach : Reach) (e : Endpoint) :
    (∃ r, p.find? e = some r ∧ p.openFor reach e = (p, .ok r.2)) ∨
    (∃ fault, p.openFor reach e = (p, .error fault)) ∨
    (p.find? e = none ∧ p.openFor reach e = (p.file e, .ok ⟨p.opened + 1, e⟩)) := by
  unfold openFor
  cases hfind : p.find? e with
  | some r => exact Or.inl ⟨r, rfl, rfl⟩
  | none =>
    cases hreach : reach e with
    | some fault => exact Or.inr (Or.inl ⟨fault, rfl⟩)
    | none => exact Or.inr (Or.inr ⟨rfl, rfl⟩)

theorem Distinct.file {p : ChannelPool} (h : p.Distinct) {e : Endpoint}
    (hnone : p.find? e = none) : (p.file e).Distinct := by
  refine List.pairwise_append.mpr ⟨h, by simp, ?_⟩
  intro a ha b hb
  have hb : b = (e, ⟨p.opened + 1, e⟩) := by simpa using hb
  subst hb
  exact find?_eq_none_iff.mp hnone a ha

section Counts

variable (p : ChannelPool) (e : Endpoint) (r : Endpoint × Connection) (n : Nat)

@[simp] theorem timesOpened_file :
    (p.file e).timesOpened n = p.timesOpened n + (decide (p.opened + 1 = n)).toNat := by
  simp only [timesOpened, file, List.countP_cons, ChannelEvent.opens]
  by_cases h : p.opened + 1 = n <;> simp [h]

@[simp] theorem timesFiled_file :
    (p.file e).timesFiled n = p.timesFiled n + (decide (p.opened + 1 = n)).toNat := by
  simp only [timesFiled, file, List.countP_append, List.countP_cons, List.countP_nil, hasSerial]
  by_cases h : p.opened + 1 = n <;> simp [h]

@[simp] theorem timesClosed_file : (p.file e).timesClosed n = p.timesClosed n := by
  simp [timesClosed, file, ChannelEvent.closes]

@[simp] theorem timesOpened_close : (p.close r).timesOpened n = p.timesOpened n := by
  simp [timesOpened, close, ChannelEvent.opens]

@[simp] theorem timesClosed_close :
    (p.close r).timesClosed n = p.timesClosed n + (hasSerial n r).toNat := by
  simp only [timesClosed, close, List.countP_cons, ChannelEvent.closes, hasSerial]
  by_cases h : r.2.serial = n <;> simp [h]

@[simp] theorem timesFiled_close : (p.close r).timesFiled n = p.timesFiled n := rfl

@[simp] theorem timesOpened_evict : (p.evict e).timesOpened n = p.timesOpened n := rfl

@[simp] theorem timesClosed_evict : (p.evict e).timesClosed n = p.timesClosed n := rfl

end Counts

end ChannelPool

end ClusterTransport
