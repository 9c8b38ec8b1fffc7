import JoinTrust.Command

set_option autoImplicit false

/-!
Turning a machine token into the one that is used. A token that begins with the marker is a reference
to one sealed in hardware; what the hardware answers is used and never looked at again. Without a
source of sealed tokens a reference is refused, so that it is never sent as if it were a token.
-/

namespace JoinTrust

inductive Resolver where
  /-- References begin with `marker`; `hasSource` tells whether there is something to unseal them. -/
  | hardware (marker : String) (hasSource : Bool)
  | external
deriving DecidableEq, Repr

namespace Resolver

/-- The marker of references unless another one is given. -/
def defaultMarker : String := "tpm://"

/-- The resolver that is used unless another one is given: it refuses every reference. -/
def plain : Resolver := .hardware defaultMarker false

def reference? (marker token : String) : Option String :=
  if marker.toList.isPrefixOf token.toList then
    some (String.ofList (token.toList.drop marker.toList.length))
  else none

def unsealed (reference : String) : Procedure ResolvedToken := do
  let token ← (Procedure.perform (.unsealToken reference)).recover fun thrown =>
    Procedure.telling thrown (Procedure.reject (.unsealing thrown))
  if token.isEmpty then Procedure.reject .emptyUnsealed
  else .done ⟨true, token⟩

/-- The token that is used in place of the one given. -/
def resolve (resolver : Resolver) (token : String) : Procedure ResolvedToken :=
  match resolver with
  | .external => Procedure.perform (.resolve token)
  | .hardware marker hasSource =>
    match reference? marker token with
    | none => .done ⟨false, token⟩
    | some reference =>
      if hasSource then unsealed reference
      else Procedure.reject (.hardwareSourceMissing marker)

end Resolver

end JoinTrust
