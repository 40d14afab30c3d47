import ClusterTransport.Simulation.Timeline
import ClusterTransport.Transport.StreamCall

/-!
# Scripted methods

Methods that answer with the address they were called at and the request they were given, or fail
at some hosts.
-/

namespace ClusterTransport.Simulation

/-- What a scripted method does before it answers or opens a stream. -/
structure MethodScript where
  delay : Span := 0
  /-- The hosts at which it fails. -/
  failures : List (String × Status) := []
  request : String := ""

inductive ItemScript where
  | value (v : String)
  | failure (s : Status)
deriving DecidableEq, Repr

structure StreamScript where
  items : List (Span × ItemScript) := []
  /-- Whether nothing more comes after the items, not even the end. -/
  hangs : Bool := false

namespace MethodScript

def failure? (s : MethodScript) (target : CallTarget) : Option Status :=
  s.failures.lookup target.connection.target.host

def text (s : MethodScript) (target : CallTarget) : String :=
  target.connection.target.address ++ "|" ++ s.request

def unary (s : MethodScript) : Method String := fun target _ =>
  some (timers.run s.delay, match s.failure? target with
    | some status => .error status
    | none => .ok (s.text target))

def stream (s : MethodScript) (script : StreamScript) (target : CallTarget) :
    ResponseStream String :=
  (script.items.map fun i =>
    (timers.run i.1, match i.2 with
      | .value v => StreamItem.message (s.text target ++ "|" ++ v)
      | .failure status => .failure status)) ++
    if script.hangs then [] else [(0, .finish)]

def streaming (s : MethodScript) (script : StreamScript) : Method (ResponseStream String) :=
  fun target _ =>
    some (timers.run s.delay, match s.failure? target with
      | some status => .error status
      | none => .ok (s.stream script target))

end MethodScript

end ClusterTransport.Simulation
