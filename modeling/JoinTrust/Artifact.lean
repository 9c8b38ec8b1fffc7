import JoinTrust.Bootstrap

set_option autoImplicit false

/-!
Descriptors for the agent that provisions a node. They say what to write and what to run; nothing here
does either.
-/

namespace JoinTrust

structure Instruction where
  name : String
  saveOutput : Bool
  command : String
deriving DecidableEq, Repr

structure FileArtifact where
  /-- The content in base 64; empty when no bundle is needed. -/
  content : String
  path : String
  permissions : String
deriving DecidableEq, Repr

namespace Artifact

def anchorPath : String := "/etc/pki/trust/anchors/additional-ca.pem"

def anchorPermissions : String := "0644"

def updateCommand : String := "update-ca-certificates"

def updateInstruction : Instruction := ⟨updateCommand, true, updateCommand⟩

def ofBundle (bundle : Option Bytes) : FileArtifact where
  content := (bundle.map Text.Base64.encode).getD ""
  path := anchorPath
  permissions := anchorPermissions

def anchor (bootstrapper : Bootstrapper) (server token : String) : Procedure FileArtifact := do
  let trusted ← bootstrapper.caCerts server token .cluster
  .done (ofBundle trusted.bundle)

end Artifact

end JoinTrust
