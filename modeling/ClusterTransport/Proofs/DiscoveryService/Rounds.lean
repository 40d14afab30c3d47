import ClusterTransport.Discovery.Task
import ClusterTransport.DiscoveryService.Client
import ClusterTransport.Proofs.Call.Sending

/-!
# Rounds over a client

A loop of the discovery task whose calls are made by a client. The call sets its deadline as it
begins and sends what is left of it with the request, and either can be more than there is room for.
Then there is no call, and the loop is gone without a word.
-/

namespace ClusterTransport

namespace DiscoveryService.Client

/-- The call that lists the endpoints, with its deadline set at one instant and its request built at
another. -/
def call? (c : Client) (server : Server) (since built : Instant) :
    Option (CallOutcome ListEndpointsResponse) :=
  (({} : CallSettings).withTimeout? since c.timeout).bind fun settings =>
    let request : ListEndpointsRequest := { database := c.database }
    Call.run c.channel server settings listEndpointsPath request.encode
      (ServerReply.unary ListEndpointsResponse.decode) built 0

private theorem listEndpoints_eq (c : Client) (server : Server) (now : Instant) :
    c.listEndpoints server now =
      (c.call? server now now).map fun o => (result o.result, o.sent) := by
  rw [listEndpoints, call?, Option.map_bind]
  exact congrArg (Option.bind _) (funext fun settings => Option.map_eq_bind.symm)

private theorem timeout_of_ofConfig {read : String → Config.PathContent} {config : Config}
    {c : Client}
    (h : ofConfig read config = .ok c) :
    c.timeout = Span.seconds config.discovery.timeout.toNat := by
  simp only [ofConfig, bind, Except.bind, pure, Except.pure] at h
  split at h
  next => cases h
  next =>
    split at h
    next => cases h
    next =>
      split at h
      next => cases h
      next =>
        cases h
        rfl

private theorem isSome_call?_iff (c : Client) (server : Server) (since built : Instant) :
    (c.call? server since built).isSome = true ↔
      since + c.timeout < Instant.limit ∧
        since + c.timeout - built < Span.seconds 360000000000 := by
  have hpath : (Call.targetPath? listEndpointsPath).isSome = true := by decide
  rw [call?, CallSettings.withTimeout?, Instant.after?]
  by_cases hlimit : since + c.timeout < Instant.limit
  · rw [if_pos hlimit, Option.map_some, Option.bind_some, Call.isSome_run_iff _ _ _ _ _ _ rfl hpath]
    simp [CallSettings.remaining, hlimit]
  · simp [hlimit]

/-- The client of a configuration comes to something unless the timeout that is set leads beyond the
end of time, or is too long to be written. -/
theorem isSome_listEndpoints_iff {read : String → Config.PathContent} {config : Config} {c : Client}
    (h : ofConfig read config = .ok c) (server : Server) (now : Instant) :
    let timeout := Span.seconds config.discovery.timeout.toNat
    (c.listEndpoints server now).isSome = true ↔
      now + timeout < Instant.limit ∧ timeout < Span.seconds 360000000000 := by
  intro timeout
  have htimeout : c.timeout = timeout := timeout_of_ofConfig h
  rw [listEndpoints_eq, Option.isSome_map, isSome_call?_iff, htimeout, Nat.add_sub_cancel_left]

end DiscoveryService.Client

open DiscoveryService

namespace DiscoveryTask

/-- A step of a loop whose call a client began at an instant: the loop sees the answer once the call
is over. There is no step if the call was not made. -/
def stepCall (t : DiscoveryTask) (c : Client) (server : Server) (number : Nat)
    (since built : Instant) (v : RoundView) :
    Option (DiscoveryTask × Round × Option RoundAction) :=
  (c.call? server since built).bind fun o =>
    let answer := if o.finished ≤ v.now then some (Client.result o.result) else none
    t.stepRound { v with answer } (.awaiting number since)

/-- A round over a client ends, in a result or an error and in time, if the clock goes on until the
deadline of the call and what is left of it can be sent. Otherwise it never ends. -/
theorem round_over_client (t : DiscoveryTask) (channel : Channel) (database : String)
    (server : Server) (number : Nat) (since built : Instant) :
    let timeout := Span.seconds t.settings.timeout.toNat
    let c : Client := ⟨channel, database, timeout⟩
    let isMade := since + timeout < Instant.limit ∧
      since + timeout - built < Span.seconds 360000000000
    (isMade → ∀ v, since + t.timeout ≤ v.now → ∃ outcome,
      t.stepCall c server number since built v = some (t, .answered outcome, none)) ∧
    (¬ isMade → ∀ v, t.stepCall c server number since built v = none) := by
  intro timeout c isMade
  have hmade := c.isSome_call?_iff server since built
  refine ⟨?_, ?_⟩
  · intro h v hlate
    obtain ⟨o, ho⟩ := Option.isSome_iff_exists.mp (hmade.mpr h)
    have houtcome : ∀ answer, ∃ outcome, t.outcome? { v with answer } since = some outcome := by
      intro answer
      cases answer with
      | some answer => exact ⟨_, rfl⟩
      | none => exact ⟨_, if_pos hlate⟩
    obtain ⟨outcome, hover⟩ :=
      houtcome (if o.finished ≤ v.now then some (Client.result o.result) else none)
    exact ⟨outcome, by rw [stepCall, ho, Option.bind_some, stepRound, hover]; rfl⟩
  · intro h v
    have hnone : c.call? server since built = none := by
      simpa using mt hmade.mp h
    rw [stepCall, hnone]
    rfl

/-- A server that does not answer for an hour: the round ends after ten seconds. -/
theorem round_over_client_of_slow_server :
    let t : DiscoveryTask := {}
    let channel : Channel := ⟨⟨some "/local", "sdk"⟩, 67108864⟩
    let server : Server := { replies := [(Span.seconds 3600, {})] }
    let v : RoundView := ⟨Span.seconds 10, none, false, false, false⟩
    let c : Client := ⟨channel, "/local", Span.seconds t.settings.timeout.toNat⟩
    ∃ outcome, t.stepCall c server 0 0 0 v = some (t, .answered outcome, none) := by
  intro t channel server v c
  have hover : 0 + t.timeout ≤ v.now := by decide
  exact (round_over_client t channel "/local" server 0 0 0).1 ⟨by decide, by decide⟩ v hover

/-- With the longest timeout that can be set, not even the first round ends. -/
theorem round_over_client_of_longest_timeout :
    let t : DiscoveryTask := { settings := { timeout := 0xFFFFFFFFFFFFFFFF } }
    let channel : Channel := ⟨⟨some "/local", "sdk"⟩, 67108864⟩
    let c : Client := ⟨channel, "/local", Span.seconds t.settings.timeout.toNat⟩
    ∀ v, t.stepCall c {} 0 0 0 v = none := by
  intro t channel c v
  have hnone : c.call? {} 0 0 = none := by
    simpa using mt (c.isSome_call?_iff {} 0 0).mp (by decide)
  rw [stepCall, hnone]
  rfl

end DiscoveryTask

end ClusterTransport
