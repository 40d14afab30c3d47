import ClusterTransport.Endpoint
import ClusterTransport.Error

/-!
# Channels

The connections of a pool, at most one under each address, and the journal of the factory that
opens and closes them.
-/

namespace ClusterTransport

structure Connection where
  /-- Its number: connections are counted from 1 as they are opened. -/
  serial : Nat
  /-- The record that it was opened for. -/
  target : Endpoint
deriving DecidableEq, Repr

/-- What the factory did, with the key that the pool files the connection under. -/
inductive ChannelEvent where
  | opened (serial : Nat) (key : Endpoint)
  | closed (serial : Nat) (key : Endpoint)
deriving DecidableEq, Repr

structure ChannelPool where
  channels : List (Endpoint × Connection) := []
  isShutdown : Bool := false
  opened : Nat := 0
  /-- What the factory did, the latest first. -/
  journal : List ChannelEvent := []
deriving Repr

/-- Why the factory cannot connect to an endpoint, or `none` if it can. -/
abbrev Reach := Endpoint → Option Error

namespace ChannelPool

def find? (p : ChannelPool) (e : Endpoint) : Option (Endpoint × Connection) :=
  p.channels.find? fun r => r.1.same e

def contains (p : ChannelPool) (e : Endpoint) : Bool :=
  (p.find? e).isSome

def keys (p : ChannelPool) : List Endpoint :=
  p.channels.map Prod.fst

/-- The connection of an endpoint; if there is none, one is opened. -/
def openFor (p : ChannelPool) (reach : Reach) (e : Endpoint) :
    ChannelPool × Except Error Connection :=
  match p.find? e with
  | some r => (p, .ok r.2)
  | none =>
    match reach e with
    | some fault => (p, .error fault)
    | none =>
      let c : Connection := ⟨p.opened + 1, e⟩
      ({ p with
          channels := p.channels ++ [(e, c)]
          opened := c.serial
          journal := .opened c.serial e :: p.journal }, .ok c)

/-- Takes the connection of an endpoint out of the pool. It is not closed yet. -/
def evict (p : ChannelPool) (e : Endpoint) : ChannelPool :=
  { p with channels := p.channels.eraseP fun r => r.1.same e }

def close (p : ChannelPool) (r : Endpoint × Connection) : ChannelPool :=
  { p with journal := .closed r.2.serial r.1 :: p.journal }

end ChannelPool

end ClusterTransport
