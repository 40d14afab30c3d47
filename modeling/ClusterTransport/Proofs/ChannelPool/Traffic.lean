import ClusterTransport.Proofs.ChannelPool.Entries
import ClusterTransport.Proofs.Runs

/-!
# Traffic on a channel pool

Any number of operations on one pool, each of which takes its steps while others take theirs. A
sweep visits keys one at a time, in any order: those that are there from its start until it comes
to them, and perhaps others. What a `retain` keeps may change while it sweeps, and what the factory
can connect to may change at any time.
-/

namespace ClusterTransport

/-- The connection that the operation has taken out and is to close. -/
def Getting.inHand : Getting → Option (Endpoint × Connection)
  | closing r => some r
  | _ => none

def Evicting.inHand : Evicting → Option (Endpoint × Connection)
  | closing r _ _ => some r
  | _ => none

namespace ChannelPool

/-- What the next step of an operation can do that most steps cannot. -/
inductive Power where
  | nothing
  | file
  | flag
deriving DecidableEq

/-- What a step can do to a pool, with what its operation has in hand before and after. -/
inductive Effect (p : ChannelPool) : Power →
    Option (Endpoint × Connection) → ChannelPool → Option (Endpoint × Connection) → Prop where
  | nothing {w : Power} : Effect p w none p none
  | filing (e : Endpoint) (h : p.find? e = none) : Effect p .file none (p.file e) none
  | taking {w : Power} (e : Endpoint) (r : Endpoint × Connection) (h : p.find? e = some r) :
      Effect p w none (p.evict e) (some r)
  | closing {w : Power} (r : Endpoint × Connection) : Effect p w (some r) (p.close r) none
  | flagging : Effect p .flag none { p with isShutdown := true } none

end ChannelPool

/-- Only an operation that is to open a connection can file one. -/
def Getting.power : Getting → ChannelPool.Power
  | opening => .file
  | _ => .nothing

/-- Only the first step of a shutdown can set the flag. -/
def Evicting.power : Evicting → ChannelPool.Power
  | shutting => .flag
  | _ => .nothing

open ChannelPool (Effect openFor_cases)

private theorem Getting.step_effect (reach : Reach) (e : Endpoint) (p : ChannelPool) (g : Getting) :
    Effect p g.power g.inHand (g.step reach e p).1 (g.step reach e p).2.inHand := by
  cases g with
  | begun =>
    simp only [step]
    split <;> exact .nothing
  | looking =>
    simp only [step]
    split <;> exact .nothing
  | opening =>
    rcases openFor_cases p reach e with ⟨r, _, hopen⟩ | ⟨fault, hopen⟩ | ⟨hnone, hopen⟩
    · simp only [step, hopen]
      exact .nothing
    · simp only [step, hopen]
      exact .nothing
    · simp only [step, hopen]
      exact .filing e hnone
  | checking c =>
    simp only [step]
    split <;> exact .nothing
  | withdrawing =>
    simp only [step]
    split
    next r hr => exact .taking e r hr
    next => exact .nothing
  | closing r => exact .closing r
  | done answer => exact .nothing

private theorem Evicting.step_effect (p : ChannelPool) (o : Evicting) :
    Effect p o.power o.inHand (o.step p).1 (o.step p).2.inHand := by
  cases o with
  | shutting =>
    simp only [step]
    split
    · exact .nothing
    · exact .flagging
  | surveying keep => exact .nothing
  | visiting keep ahead found =>
    cases ahead with
    | nil => exact .nothing
    | cons key ahead =>
      simp only [step]
      split <;> exact .nothing
  | removing keys count =>
    cases keys with
    | nil => exact .nothing
    | cons key keys =>
      simp only [step]
      split
      next r hr => exact .taking key r hr
      next => exact .nothing
  | closing r keys count => exact .closing r
  | done count => exact .nothing

namespace ChannelPool

inductive Request where
  | get (e : Endpoint)
  | remove (endpoints : List Endpoint)
  | retain (keep : Endpoint → Bool)
  | shutdown

/-- An operation in progress, or one that is over. -/
inductive Call where
  | getting (e : Endpoint) (g : Getting)
  | evicting (r : Request) (o : Evicting)

def Request.call : Request → Call
  | get e => .getting e .begun
  | remove endpoints => .evicting (.remove endpoints) (.removing endpoints 0)
  | retain keep => .evicting (.retain keep) (.surveying keep)
  | shutdown => .evicting .shutdown .shutting

namespace Call

def step (reach : Reach) (p : ChannelPool) : Call → ChannelPool × Call
  | getting e g => ((g.step reach e p).1, getting e (g.step reach e p).2)
  | evicting r o => ((o.step p).1, evicting r (o.step p).2)

def isOver : Call → Bool
  | getting _ (.done _) => true
  | evicting _ (.done _) => true
  | _ => false

def inHand : Call → Option (Endpoint × Connection)
  | getting _ g => g.inHand
  | evicting _ o => o.inHand

def power : Call → Power
  | getting _ g => g.power
  | evicting _ o => o.power

theorem step_effect (reach : Reach) (p : ChannelPool) (c : Call) :
    Effect p c.power c.inHand (c.step reach p).1 (c.step reach p).2.inHand := by
  cases c with
  | getting e g => exact g.step_effect reach e p
  | evicting r o => exact o.step_effect p

end Call

theorem Call.eq_done_of_isOver {c : Call} (h : c.isOver = true) :
    (∃ e answer, c = .getting e (.done answer)) ∨ ∃ q count, c = .evicting q (.done count) := by
  cases c with
  | getting e g =>
    cases g with
    | done answer => exact Or.inl ⟨e, answer, rfl⟩
    | _ => cases h
  | evicting q o =>
    cases o with
    | done count => exact Or.inr ⟨q, count, rfl⟩
    | _ => cases h

@[simp] theorem Request.inHand_call (r : Request) : r.call.inHand = none := by
  cases r <;> rfl

/-- How a sweep can change on its way. -/
inductive Call.Drifts (p : ChannelPool) : Call → Call → Prop where
  | reroute (r : Request) (keep : Endpoint → Bool) (old ahead found : List Endpoint)
      (h : ∀ k ∈ old, p.contains k = true → k ∈ ahead) :
      Drifts p (.evicting r (.visiting keep old found)) (.evicting r (.visiting keep ahead found))
  | rejudge (k old keep : Endpoint → Bool) (ahead found : List Endpoint) :
      Drifts p (.evicting (.retain k) (.visiting old ahead found))
        (.evicting (.retain k) (.visiting keep ahead found))

theorem Call.Drifts.inHand_eq {p : ChannelPool} {c d : Call} (h : Drifts p c d) :
    c.inHand = d.inHand := by
  cases h <;> rfl

/-- A pool with the operations on it, in the order in which they were begun. -/
structure Traffic where
  pool : ChannelPool := {}
  calls : List Call := []
  stopper : Option Nat := none

inductive Move where
  | begin (r : Request)
  | step (i : Nat) (reach : Reach)
  /-- A sweep comes to have other keys ahead. -/
  | reroute (i : Nat) (ahead : List Endpoint)
  /-- A `retain` comes to keep other keys. -/
  | rejudge (i : Nat) (keep : Endpoint → Bool)

namespace Traffic

/-- Makes one move; `none` if it cannot be made. A sweep may be rerouted past a key only while
nothing is filed under it. -/
def move (s : Traffic) : Move → Option Traffic
  | .begin r => some { s with calls := s.calls ++ [r.call] }
  | .step i reach =>
    s.calls[i]?.map fun c =>
      { pool := (c.step reach s.pool).1
        calls := s.calls.set i (c.step reach s.pool).2
        stopper := if (c.step reach s.pool).1.isShutdown && !s.pool.isShutdown then some i
          else s.stopper }
  | .reroute i ahead =>
    match s.calls[i]? with
    | some (.evicting r (.visiting keep old found)) =>
      if ∀ k ∈ old, s.pool.contains k = true → k ∈ ahead then
        some { s with calls := s.calls.set i (.evicting r (.visiting keep ahead found)) }
      else none
    | _ => none
  | .rejudge i keep =>
    match s.calls[i]? with
    | some (.evicting (.retain k) (.visiting _ ahead found)) =>
      some { s with calls := s.calls.set i (.evicting (.retain k) (.visiting keep ahead found)) }
    | _ => none

def run (s : Traffic) (ms : List Move) : Option Traffic :=
  ms.foldlM move s

theorem move_cases {s t : Traffic} {m : Move} (h : s.move m = some t) :
    (∃ r : Request, t = { s with calls := s.calls ++ [r.call] }) ∨
    (∃ i c reach, s.calls[i]? = some c ∧ t.pool = (c.step reach s.pool).1 ∧
      t.calls = s.calls.set i (c.step reach s.pool).2 ∧
      t.stopper = if (c.step reach s.pool).1.isShutdown && !s.pool.isShutdown then some i
        else s.stopper) ∨
    (∃ i c d, s.calls[i]? = some c ∧ Call.Drifts s.pool c d ∧
      t = { s with calls := s.calls.set i d }) := by
  cases m with
  | begin r => exact Or.inl ⟨r, (Option.some.inj h).symm⟩
  | step i reach =>
    obtain ⟨c, hc, rfl⟩ := Option.map_eq_some_iff.mp h
    exact Or.inr (Or.inl ⟨i, c, reach, hc, rfl, rfl, rfl⟩)
  | reroute i ahead =>
    simp only [move] at h
    split at h
    next r keep old found hc =>
      split at h
      next hall =>
        exact Or.inr (Or.inr ⟨i, _, _, hc, .reroute r keep old ahead found hall,
          (Option.some.inj h).symm⟩)
      next => cases h
    next => cases h
  | rejudge i keep =>
    simp only [move] at h
    split at h
    next k old ahead found hc =>
      exact Or.inr (Or.inr ⟨i, _, _, hc, .rejudge k old keep ahead found,
        (Option.some.inj h).symm⟩)
    next => cases h

end Traffic

end ChannelPool

end ClusterTransport
