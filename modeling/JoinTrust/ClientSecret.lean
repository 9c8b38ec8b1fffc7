import JoinTrust.Audit
import JoinTrust.ClusterStore
import JoinTrust.Integrity
import JoinTrust.Program

set_option autoImplicit false

/-!
Keeping a cluster's client secret in step with the settings that it is made of. Both settings must say
something; then the address and the roots of the server are set in the secret, whose other keys stay
as they are, and one audit entry tells what was set.
-/

namespace JoinTrust.ClientSecret

def serverUrlSetting : String := "internal-server-url"

def rootsSetting : String := "internal-cacerts"

def space : String := "fleet-local"

def name : String := "local-kubeconfig"

inductive Operation where
  | setting (name : String)
  | secret (space name : String)
  | updateSecret (space name : String) (data : SecretData)
  | audit (entry : Audit.Entry)

@[reducible] def Operation.Answer : Operation → Type
  | .setting _ => String
  | .secret _ _ => SecretData
  | .updateSecret _ _ _ => Unit
  | .audit _ => Unit

def perform (operation : Operation) : Program Operation Operation.Answer operation.Answer :=
  Program.perform operation

def updated (data : SecretData) (serverUrl roots : String) : SecretData :=
  (data.insert "apiServerURL" (Text.Utf8.encode serverUrl)).insert "apiServerCA"
    (Text.Utf8.encode roots)

def entry (serverUrl roots : String) : Audit.Entry :=
  .clientSecretUpdated (ClusterStore.secretKey space name) serverUrl
    (Integrity.checksum (Text.Utf8.encode roots))

def update : Program Operation Operation.Answer Unit := do
  let serverUrl ← perform (.setting serverUrlSetting)
  let roots ← perform (.setting rootsSetting)
  if serverUrl.isEmpty ∨ roots.isEmpty then .fail (.failure .clientSettingsMissing)
  else
    let data ← perform (.secret space name)
    perform (.updateSecret space name (updated data serverUrl roots))
    perform (.audit (entry serverUrl roots))

/-- Answers operations from a store. `sink` tells what the audit trail throws at an entry. -/
def handler (sink : Audit.Entry → Option Thrown) :
    Handler Operation Operation.Answer ClusterStore where
  answer store
    | .setting name => (store, store.setting name)
    | .secret space name => (store, store.secret space name)
    | .updateSecret space name data =>
      match store.updateSecret space name data with
      | .ok updated => (updated, .ok ())
      | .error thrown => (store, .error thrown)
    | .audit entry =>
      match sink entry with
      | some thrown => (store, .error thrown)
      | none => (store, .ok ())

def entries (events : List (Event Operation Operation.Answer)) : List Audit.Entry :=
  events.filterMap fun
    | ⟨.audit entry, _⟩ => some entry
    | _ => none

end JoinTrust.ClientSecret
