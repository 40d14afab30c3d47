import ClusterTransport.ChannelPool.Basic

/-!
# Operations on channels

Getting and evicting connections, each as a sequence of steps that no other operation can
interrupt. Between two steps of one operation, others may take theirs.
-/

namespace ClusterTransport

/-- How far an operation is that gets the connection of an endpoint. -/
inductive Getting where
  /-- It is to look whether the pool is shut down. -/
  | begun
  /-- It is to look for a connection. -/
  | looking
  /-- It found none and is to open one, unless another operation has by now. -/
  | opening
  /-- It has a connection and is to look again whether the pool is shut down. -/
  | checking (c : Connection)
  /-- The pool was shut down meanwhile, and the connection is to be taken out. -/
  | withdrawing
  /-- The connection that it took out is to be closed. -/
  | closing (r : Endpoint × Connection)
  | done (answer : Except Error Connection)

namespace Getting

def step (reach : Reach) (e : Endpoint) (p : ChannelPool) : Getting → ChannelPool × Getting
  | begun => (p, if p.isShutdown then done (.error .shuttingDown) else looking)
  | looking =>
    match p.find? e with
    | some r => (p, done (.ok r.2))
    | none => (p, opening)
  | opening =>
    match p.openFor reach e with
    | (p', .ok c) => (p', checking c)
    | (p', .error fault) => (p', done (.error fault))
  | checking c => (p, if p.isShutdown then withdrawing else done (.ok c))
  | withdrawing =>
    match p.find? e with
    | some r => (p.evict e, closing r)
    | none => (p, done (.error .shuttingDown))
  | closing r => (p.close r, done (.error .shuttingDown))
  | done answer => (p, done answer)

def steps (reach : Reach) (e : Endpoint) : Nat → ChannelPool × Getting → ChannelPool × Getting
  | 0, s => s
  | n + 1, s => steps reach e n (step reach e s.1 s.2)

/-- The number of steps after which every operation is done. -/
def bound : Nat := 6

end Getting

/-- How far an operation is that evicts connections. -/
inductive Evicting where
  /-- The pool is to be shut down. -/
  | shutting
  /-- The keys are to be surveyed; those for which `keep` fails are to go. -/
  | surveying (keep : Endpoint → Bool)
  /-- Keys are visited one by one. -/
  | visiting (keep : Endpoint → Bool) (ahead found : List Endpoint)
  /-- The connections of these keys are to be taken out. `count` is the answer. -/
  | removing (keys : List Endpoint) (count : Nat)
  /-- The connection that was taken out last is to be closed. -/
  | closing (r : Endpoint × Connection) (keys : List Endpoint) (count : Nat)
  | done (count : Nat)

namespace Evicting

def step (p : ChannelPool) : Evicting → ChannelPool × Evicting
  | shutting =>
    if p.isShutdown then (p, done 0)
    else ({ p with isShutdown := true }, surveying fun _ => false)
  | surveying keep => (p, visiting keep p.keys [])
  | visiting _ [] found => (p, removing found found.length)
  | visiting keep (key :: ahead) found =>
    match p.find? key with
    | some r => (p, visiting keep ahead (if keep r.1 then found else found ++ [r.1]))
    | none => (p, visiting keep ahead found)
  | removing [] count => (p, done count)
  | removing (key :: keys) count =>
    match p.find? key with
    | some r => (p.evict key, closing r keys count)
    | none => (p, removing keys count)
  | closing r keys count => (p.close r, removing keys count)
  | done count => (p, done count)

def steps : Nat → ChannelPool × Evicting → ChannelPool × Evicting
  | 0, s => s
  | n + 1, s => steps n (step s.1 s.2)

/-- The number of steps after which an operation is done if no other one takes any. -/
def bound (p : ChannelPool) : Evicting → Nat
  | shutting => 3 * p.channels.length + 4
  | surveying _ => 3 * p.channels.length + 3
  | visiting _ ahead found => 3 * ahead.length + 2 * found.length + 2
  | removing keys _ => 2 * keys.length + 1
  | closing _ keys _ => 2 * keys.length + 2
  | done _ => 0

def run (p : ChannelPool) (o : Evicting) : ChannelPool × Nat :=
  match steps (bound p o) (p, o) with
  | (p', done count) => (p', count)
  | (p', _) => (p', 0)

end Evicting

namespace ChannelPool

/-- Gets the connection of an endpoint; on first use one is opened. -/
def get (p : ChannelPool) (reach : Reach) (e : Endpoint) : ChannelPool × Except Error Connection :=
  match Getting.steps reach e Getting.bound (p, .begun) with
  | (p', .done answer) => (p', answer)
  | (p', _) => (p', .error .shuttingDown)

def remove (p : ChannelPool) (endpoints : List Endpoint) : ChannelPool :=
  (Evicting.run p (.removing endpoints 0)).1

/-- Closes the connections whose keys fail `keep`, and counts them. -/
def retain (p : ChannelPool) (keep : Endpoint → Bool) : ChannelPool × Nat :=
  Evicting.run p (.surveying keep)

/-- Closes all connections, and opens no more. -/
def shutdown (p : ChannelPool) : ChannelPool :=
  (Evicting.run p .shutting).1

/-- Gets the connection of an endpoint while the pool is shut down by another operation, which
starts as soon as a connection is to be opened. -/
def getDuringShutdown (p : ChannelPool) (reach : Reach) (e : Endpoint) :
    ChannelPool × Except Error Connection :=
  match Getting.steps reach e 2 (p, .begun), reach e with
  | (q, .opening), none =>
    let flagged := (Evicting.step q .shutting).1
    let opened := Getting.step reach e flagged .opening
    let swept := (Evicting.run opened.1 (.surveying fun _ => false)).1
    match Getting.steps reach e Getting.bound (swept, opened.2) with
    | (q', .done answer) => (q', answer)
    | (q', _) => (q', .error .shuttingDown)
  | _, _ => p.get reach e

end ChannelPool

end ClusterTransport
