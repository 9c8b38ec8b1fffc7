set_option autoImplicit false

/-! Byte strings: bodies, bundles and keys are plain lists of octets. -/

namespace JoinTrust

abbrev Bytes : Type := List UInt8

end JoinTrust
