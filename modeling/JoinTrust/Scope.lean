import JoinTrust.Text.Blank
import JoinTrust.Text.Case

set_option autoImplicit false

/-! The two kinds of join token, and what depends on the kind alone. -/

namespace JoinTrust

inductive Scope where
  /-- A token of the cluster: used as given, and never sent along with a resource request. -/
  | cluster
  /-- A token of one machine: it may be sealed in hardware, and it authorises resource requests. -/
  | machine
deriving DecidableEq, Repr

namespace Scope

def name : Scope → String
  | .cluster => "CLUSTER"
  | .machine => "MACHINE"

def endpoint : Scope → String
  | .cluster => "/cacerts"
  | .machine => "/v1-rancheros/cacerts"

/-- The scope that a configured word selects. Blanks at its ends and the case of its letters do not
count; every word but the two for a machine selects the cluster. -/
def ofWord (word : Option String) : Scope :=
  let letters := Text.upperChars (Text.trimChars (word.getD "").toList)
  if letters = "MACHINE".toList ∨ letters = "NODE".toList then .machine else .cluster

end Scope

end JoinTrust
