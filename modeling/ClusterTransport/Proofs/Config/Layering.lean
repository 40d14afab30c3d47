import ClusterTransport.Proofs.Config.Layers

/-!
# Loading by layers

Each setting of a loaded configuration is what the environment alone makes of it, if a variable
names it, and else what the file alone makes of it. A part that the file writes as a list is the
exception: a variable for one of its settings puts a table in its place, and the others are lost.
-/

namespace ClusterTransport.Config

variable {fields : List (String × Json)} {environment : List (String × String)}
  {file : Option FileText} {c d : Config}

end ClusterTransport.Config
