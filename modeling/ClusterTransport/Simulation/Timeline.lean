import ClusterTransport.Clock

/-!
# Simulated time

A clock that is moved by hand. On its way to the target it stops at every instant at which
something is due, and lets it run.
-/

namespace ClusterTransport.Simulation

/-- The first of some instants that lies after `now` and not after `target`. -/
def nextStop (now target : Instant) (dues : List Instant) : Option Instant :=
  (dues.filter fun t => now < t && t ≤ target).min?

/-- Moves a clock to a target. `dues` tells when something is due, and `runAt` lets it run. -/
def advance {σ : Type} (dues : σ → List Instant) (runAt : Instant → σ → σ) (target : Instant) :
    Nat → Instant → σ → σ
  | 0, _, s => s
  | fuel + 1, now, s =>
    match nextStop now target (dues s) with
    | none => s
    | some t => advance dues runAt target fuel t (runAt t s)

def timers : Timers := .bounded

/-- Moves a clock by a span, as far as a timer runs; every stop on the way is later than the one
before it. -/
def pass {σ : Type} (dues : σ → List Instant) (runAt : Instant → σ → σ) (now : Instant) (d : Span)
    (s : σ) : Instant × σ :=
  let target := now + timers.run d
  (target, advance dues runAt target (d + 1) now s)

end ClusterTransport.Simulation
