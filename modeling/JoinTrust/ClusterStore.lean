import JoinTrust.Assoc
import JoinTrust.Bytes
import JoinTrust.Failure

set_option autoImplicit false

/-!
The settings and secrets of a cluster, held in memory. What is missing is an error of its own, never
an empty value. Secrets lie under one key made of namespace and name with a slash between.
-/

namespace JoinTrust

abbrev SecretData : Type := Assoc Bytes

structure ClusterStore where
  settings : Assoc String := []
  secrets : Assoc SecretData := []

namespace ClusterStore

def secretKey (space name : String) : String :=
  space ++ "/" ++ name

def missingSetting (name : String) : Thrown :=
  .error "Error" ("settings.management.cattle.io \"" ++ name ++ "\" not found")

def missingSecret (space name : String) : Thrown :=
  .error "Error" ("secrets \"" ++ name ++ "\" not found in namespace \"" ++ space ++ "\"")

def setSetting (store : ClusterStore) (name value : String) : ClusterStore :=
  { store with settings := store.settings.insert name value }

def setting (store : ClusterStore) (name : String) : Except Thrown String :=
  match store.settings.get? name with
  | some value => .ok value
  | none => .error (missingSetting name)

def putSecret (store : ClusterStore) (space name : String) (data : SecretData) : ClusterStore :=
  { store with secrets := store.secrets.insert (secretKey space name) data }

def secret (store : ClusterStore) (space name : String) : Except Thrown SecretData :=
  match store.secrets.get? (secretKey space name) with
  | some data => .ok data
  | none => .error (missingSecret space name)

def updateSecret (store : ClusterStore) (space name : String) (data : SecretData) :
    Except Thrown ClusterStore :=
  match store.secrets.get? (secretKey space name) with
  | some _ => .ok (store.putSecret space name data)
  | none => .error (missingSecret space name)

end ClusterStore

end JoinTrust
