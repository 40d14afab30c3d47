import ClusterTransport.Transport.Basic

/-!
# Preparing a call

All that can fail before an endpoint is contacted: the settings are checked, readiness is awaited,
the deadline is checked, and an endpoint is selected and connected to. None of it marks an endpoint.
-/

namespace ClusterTransport

/-- How far the preparation of a call is. -/
inductive Preparing where
  /-- The settings are to be checked. -/
  | begun
  /-- It is to be seen whether the transport is shut down. -/
  | entering
  /-- The call comes to the gate. -/
  | arriving
  | waiting (w : Readiness.Wait)
  /-- The gate did not open, and it is to be seen why. -/
  | refused
  /-- The deadline is to be checked. -/
  | timing
  /-- An endpoint is to be selected. -/
  | selecting
  | connecting (e : Endpoint) (g : Getting)
  | done (result : Except Error CallTarget)

namespace Preparing

/-- What the surroundings of a call are: its settings, what can be connected to, the words that a
selection draws, and time. -/
structure View where
  settings : CallSettings
  reach : Reach
  words : Balancing.Words
  /-- The time by which calls wait and expire. -/
  now : Instant
  timers : Timers := {}
  /-- The time by which endpoints are marked, on a clock of its own. -/
  markTime : Instant

def step (t : Transport) (v : View) : Preparing → Option (Transport × Preparing)
  | begun =>
    match v.settings.validate with
    | .error e => some (t, done (.error e))
    | .ok () => some (t, entering)
  | entering => some (t, if t.isShutdown then done (.error .shuttingDown) else arriving)
  | arriving =>
    let timeout := (v.settings.remaining v.now).getD t.defaultDeadline
    some (t, waiting (t.gate.arrive v.now (v.timers.run timeout)))
  | waiting (.over true) => some (t, timing)
  | waiting (.over false) => some (t, refused)
  | waiting (.until deadline) =>
    match t.gate.look v.now (.until deadline) with
    | .over opened => some (t, waiting (.over opened))
    | .until _ => none
  | refused => some (t, done (.error (if t.isShutdown then .shuttingDown else .notReady)))
  | timing =>
    some (t, if v.settings.isExpired v.now then done (.error (.timeout .deadline)) else selecting)
  | selecting =>
    match (t.endpoints.select v.settings.preferred v.words).1 with
    | .error e => some (t, done (.error e))
    | .ok e => some (t, connecting e .begun)
  | connecting e (.done answer) =>
    some (t, done (answer.map fun connection => ⟨e, connection⟩))
  | connecting e g =>
    let r := g.step v.reach e t.channels
    some ({ t with channels := r.1 }, connecting e r.2)
  | done _ => none

theorem step_connecting {t : Transport} {v : View} {e : Endpoint} {g : Getting}
    (h : ∀ answer, g ≠ .done answer) :
    (connecting e g).step t v =
      some ({ t with channels := (g.step v.reach e t.channels).1 },
        connecting e (g.step v.reach e t.channels).2) := by
  cases g with
  | done answer => exact absurd rfl (h answer)
  | _ => rfl

def due? : Preparing → Option Instant
  | waiting (.until deadline) => some deadline
  | _ => none

end Preparing

end ClusterTransport
