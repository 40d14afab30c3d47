import ClusterTransport.Transport.Preparation

/-!
# Unary calls

One request and one answer. The final status is reported before the caller is told.
-/

namespace ClusterTransport

/-- What a method does with a target at an instant: how long it takes and what it comes to, or
nothing at all. -/
abbrev Method (ρ : Type) := CallTarget → Instant → Option (Span × Except Status ρ)

def Method.end? {ρ : Type} (m : Method ρ) (target : CallTarget) (since : Instant) :
    Option Instant :=
  (m target since).map fun r => since + r.1

def Method.result? {ρ : Type} (m : Method ρ) (target : CallTarget) (since now : Instant) :
    Option (Except Status ρ) :=
  match m target since with
  | none => none
  | some (delay, result) => if since + delay ≤ now then some result else none

/-- How far a unary call is. -/
inductive UnaryCall (ρ : Type) where
  | preparing (p : Preparing)
  /-- The method is to be invoked. -/
  | invoking (target : CallTarget)
  | awaiting (target : CallTarget) (since : Instant)
  /-- The outcome is to be reported. -/
  | reporting (target : CallTarget) (answer : Except Status ρ)
  | done (result : Except Error ρ)

namespace UnaryCall

variable {ρ : Type}

def step (t : Transport) (v : Preparing.View) (m : Method ρ) :
    UnaryCall ρ → Option (Transport × UnaryCall ρ)
  | preparing (.done (.error e)) => some (t, done (.error e))
  | preparing (.done (.ok target)) => some (t, invoking target)
  | preparing p => (p.step t v).map fun r => (r.1, preparing r.2)
  | invoking target => some (t, awaiting target v.now)
  | awaiting target since =>
    (m.result? target since v.now).map fun answer => (t, reporting target answer)
  | reporting _ (.ok r) => some (t, done (.ok r))
  | reporting target (.error s) =>
    some (t.report v.markTime target.endpoint s, done (.error (.rpc s)))
  | done _ => none

def due? (m : Method ρ) : UnaryCall ρ → Option Instant
  | preparing p => p.due?
  | awaiting target since => m.end? target since
  | _ => none

end UnaryCall

end ClusterTransport
