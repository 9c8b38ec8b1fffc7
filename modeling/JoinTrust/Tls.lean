import JoinTrust.Http
import JoinTrust.Text.Utf8

set_option autoImplicit false

/-! What a trust means to the layer that checks certificates. -/

namespace JoinTrust

structure TlsOptions where
  rejectUnauthorized : Bool
  roots : Option String
deriving DecidableEq, Repr

def Trust.tlsOptions : Trust → TlsOptions
  | .system => ⟨true, none⟩
  | .insecure => ⟨false, none⟩
  | .pinned bundle => ⟨true, some (Text.Utf8.decode bundle)⟩

end JoinTrust
