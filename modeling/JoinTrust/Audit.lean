import JoinTrust.Failure
import JoinTrust.Scope

set_option autoImplicit false

/-!
The audit trail: one entry for every decision about trust. No entry has room for a token or for
anything that is derived from one.
-/

namespace JoinTrust.Audit

inductive Kind where
  | probeTrusted
  | probeUntrusted
  | bootstrapVerified
  | bootstrapEmpty
  | bootstrapFailed
  | fetchOk
  | fetchHardware
  | fetchFailed
  | clientSecretUpdated
deriving DecidableEq, Repr

def Kind.name : Kind → String
  | .probeTrusted => "PROBE_TRUSTED"
  | .probeUntrusted => "PROBE_UNTRUSTED"
  | .bootstrapVerified => "BOOTSTRAP_VERIFIED"
  | .bootstrapEmpty => "BOOTSTRAP_EMPTY"
  | .bootstrapFailed => "BOOTSTRAP_FAILED"
  | .fetchOk => "FETCH_OK"
  | .fetchHardware => "FETCH_HARDWARE"
  | .fetchFailed => "FETCH_FAILED"
  | .clientSecretUpdated => "CLIENT_SECRET_UPDATED"

/-- An entry. Those of a bootstrap name the CA endpoint and the scope, those of a fetch the
resource. -/
inductive Entry where
  | probeTrusted (url : String) (scope : Scope) (status : Int)
  | probeUntrusted (url : String) (scope : Scope) (reason : String)
  | bootstrapVerified (url : String) (scope : Scope) (checksum : String) (bytes : Nat)
  | bootstrapEmpty (url : String) (scope : Scope)
  | bootstrapFailed (url : String) (scope : Scope) (kind : FailureKind) (reason : Sentence)
      (status : Option Int)
  | fetchOk (url : String) (scope : Scope) (pinned : Bool) (checksum : String) (bytes : Nat)
  | fetchHardware (url checksum : String) (bytes : Nat)
  | fetchFailed (url : String) (kind : FailureKind) (reason : Sentence) (status : Option Int)
  | clientSecretUpdated (secret serverUrl checksum : String)
deriving DecidableEq, Repr

/-- What a field of an entry holds: a plain value, or the sentence that tells of a failure. -/
inductive Content where
  | plain (value : Json)
  | told (sentence : Sentence)

namespace Content

def value : Content → Json
  | .plain value => value
  | .told sentence => .str sentence.text

def chars : Content → List Char
  | .plain value => value.chars
  | .told sentence => sentence.jsonChars

end Content

abbrev Record : Type := Assoc Content

def Record.ofFields (fields : Json.Fields) : Record :=
  fields.map fun field => (field.1, .plain field.2)

/-- The line of a record at a time. The time takes the place of a field of that name, and otherwise
comes last. -/
def Record.line (record : Record) (timestamp : String) : String :=
  let stamped := record.insert "timestamp" (.plain (.str timestamp))
  String.ofList (Json.objectChars (stamped.map fun field => (field.1, field.2.chars)) ++ ['\n'])

namespace Entry

def kind : Entry → Kind
  | .probeTrusted _ _ _ => .probeTrusted
  | .probeUntrusted _ _ _ => .probeUntrusted
  | .bootstrapVerified _ _ _ _ => .bootstrapVerified
  | .bootstrapEmpty _ _ => .bootstrapEmpty
  | .bootstrapFailed _ _ _ _ _ => .bootstrapFailed
  | .fetchOk _ _ _ _ _ => .fetchOk
  | .fetchHardware _ _ _ => .fetchHardware
  | .fetchFailed _ _ _ _ => .fetchFailed
  | .clientSecretUpdated _ _ _ => .clientSecretUpdated

def statusField (status : Option Int) : Json.Fields :=
  match status with
  | some status => [("status", .int status)]
  | none => []

def failureRecord (kind : FailureKind) (reason : Sentence) (status : Option Int) : Record :=
  ("error_type", .plain (.str kind.code)) :: ("reason", .told reason) ::
    Record.ofFields (statusField status)

def bootstrapFields (url : String) (scope : Scope) (kind : Kind) : Json.Fields :=
  [("url", .str url), ("scope", .str scope.name), ("event", .str kind.name)]

def fetchFields (url : String) (kind : Kind) : Json.Fields :=
  [("event", .str kind.name), ("url", .str url)]

def record : Entry → Record
  | .probeTrusted url scope status =>
    Record.ofFields (bootstrapFields url scope .probeTrusted ++ [("status", .int status)])
  | .probeUntrusted url scope reason =>
    Record.ofFields (bootstrapFields url scope .probeUntrusted ++ [("reason", .str reason)])
  | .bootstrapVerified url scope checksum bytes =>
    Record.ofFields (bootstrapFields url scope .bootstrapVerified ++
      [("checksum", .str checksum), ("bytes", .int bytes)])
  | .bootstrapEmpty url scope => Record.ofFields (bootstrapFields url scope .bootstrapEmpty)
  | .bootstrapFailed url scope kind reason status =>
    Record.ofFields (bootstrapFields url scope .bootstrapFailed) ++ failureRecord kind reason status
  | .fetchOk url scope pinned checksum bytes =>
    Record.ofFields (fetchFields url .fetchOk ++
      [("scope", .str scope.name), ("pinned", .bool pinned), ("checksum", .str checksum),
        ("bytes", .int bytes)])
  | .fetchHardware url checksum bytes =>
    Record.ofFields (fetchFields url .fetchHardware ++
      [("checksum", .str checksum), ("bytes", .int bytes)])
  | .fetchFailed url kind reason status =>
    Record.ofFields (fetchFields url .fetchFailed) ++ failureRecord kind reason status
  | .clientSecretUpdated secret serverUrl checksum =>
    Record.ofFields
      [("event", .str Kind.clientSecretUpdated.name), ("secret", .str secret),
        ("api_server_url", .str serverUrl), ("api_server_ca_checksum", .str checksum)]

def fields (entry : Entry) : Json.Fields :=
  entry.record.map fun field => (field.1, field.2.value)

def line (entry : Entry) (timestamp : String) : String :=
  entry.record.line timestamp

end Entry

end JoinTrust.Audit
