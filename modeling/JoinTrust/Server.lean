import JoinTrust.Failure
import JoinTrust.Scope
import JoinTrust.Url.Parser

set_option autoImplicit false

/-!
The address of a management server, and the URLs derived from it. The CA endpoint uses the host and
the port alone, always over https; a resource keeps everything but the path.
-/

namespace JoinTrust.Server

/-- The address of a server: a URL that names a host. -/
def parse (address : String) : Except Failure Url :=
  match Url.parse? address with
  | none => .error (.invalidServer address)
  | some url => if url.hostChars.isEmpty then .error (.serverWithoutHost address) else .ok url

def caUrl (address : String) (scope : Scope) : Except Failure String :=
  (parse address).map fun url => "https://" ++ url.hostText ++ scope.endpoint

def resourceUrl (address path : String) : Except Failure String :=
  (parse address).map fun url => (url.setPath path).href

end JoinTrust.Server
