import ClusterTransport.DomainName.Direction
import ClusterTransport.DomainName.Label

/-!
# Domain names

Names of hosts in any script: characters are replaced and composed, and then every label is
checked, and all of them together.
-/

namespace ClusterTransport.DomainName

open Text

/-- Reads a domain name; `none` if it is not valid. -/
def read? (name : List Char) : Option (List Char) := do
  let replaced ← replaceAll name
  let labels ← (splitAll '.' (compose replaced)).mapM readLabel?
  if directionsFit labels then some (['.'].intercalate labels) else none

end ClusterTransport.DomainName
