import ClusterTransport.Proofs.Balancing
import ClusterTransport.Proofs.Balancing.Loads

/-!
# Weighted picks

Weights laid end to end part the numbers below their total into intervals, one for each, and the
index of a pick is that of the interval where the drawn point lies. With the exact weights of loads,
no endpoint is left out but those of infinite load; if there are no others, the pick is uniform.
-/

namespace ClusterTransport

namespace Balancing

section Intervals

variable {α : Type} [AddCommMonoid α] {start x w : α} {weights : List α}

variable [LinearOrder α]

variable [IsOrderedAddMonoid α]

end Intervals

section ExactWeights

variable {endpoints : List Endpoint}

end ExactWeights

end Balancing

namespace BalancingSettings

open Balancing

variable {s : BalancingSettings} {selfLocation : String} {candidates : List Endpoint}

end BalancingSettings

end ClusterTransport
