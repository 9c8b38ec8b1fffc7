import JoinTrust.Excerpt
import JoinTrust.Integrity
import JoinTrust.Nonce
import JoinTrust.Server

set_option autoImplicit false

/-!
Bootstrapping trust from a join token. A probe over the roots of the host comes first: any reply to it
shows that no bundle is needed. Otherwise the bundle is downloaded without verification and becomes
trusted only through the response hash, which nobody can compute without the token. There is one
attempt, and every failure ends it.
-/

namespace JoinTrust

def nonceHeader : String := "X-Cattle-Nonce"

def hashHeader : String := "X-Cattle-Hash"

def hashHeaderKey : String := Text.lower hashHeader

def credentialHeader : String := "Authorization"

/-- The deadline of a request unless another one is given, in milliseconds. -/
def defaultTimeout : Nat := 5000

structure CaCerts where
  /-- The verified bundle; none when the roots of the host are enough. -/
  bundle : Option Bytes
  checksum : String
deriving DecidableEq, Repr

namespace CaCerts

/-- The outcome that leaves the roots of the host in force. -/
def noOverride : CaCerts := ⟨none, ""⟩

/-- The outcome for a verified body: an empty one overrides nothing. -/
def ofBody (body : Bytes) : CaCerts :=
  if body.isEmpty then noOverride else ⟨some body, Integrity.checksum body⟩

end CaCerts

/-- Judges the reply to an unverified download. The status is looked at first and the body last, so
that a body shows in a message only under a status that already failed. -/
def Reply.judge (token nonce : String) (reply : Reply) : Except Failure CaCerts :=
  let received := reply.headers.get? hashHeaderKey
  if reply.status ≠ 200 then
    .error (.downloadStatus reply.status reply.statusText (Excerpt.ofBody reply.body))
  else if Integrity.verify token nonce reply.body received = false then
    .error (.hashMismatch received nonce)
  else .ok (.ofBody reply.body)

structure Bootstrapper where
  nonces : Nonce.Source := .generated
  timeout : Nat := defaultTimeout
deriving DecidableEq, Repr

namespace Bootstrapper

def nextNonce (bootstrapper : Bootstrapper) : Procedure String :=
  bootstrapper.nonces.next.recover fun thrown =>
    Procedure.telling thrown (Procedure.reject (.nonceGeneration thrown))

/-- Whether the roots of the host already verify the server: any reply shows it. Should the trusted
probe not get into the audit trail, it does not count. -/
def probe (bootstrapper : Bootstrapper) (url : String) (scope : Scope) : Procedure Bool :=
  Procedure.withClient ⟨.system, bootstrapper.timeout⟩ fun client =>
    Program.recover
      (do
        let reply ← Procedure.get client { url }
        Procedure.audit (.probeTrusted url scope reply.status)
        .done true)
      fun thrown => Procedure.telling thrown do
        Procedure.audit (.probeUntrusted url scope thrown.message)
        .done false

def refuse {α : Type} (url : String) (scope : Scope) (failure : Failure) (status : Option Int) :
    Procedure α := do
  Procedure.audit (.bootstrapFailed url scope failure.kind failure.sentence status)
  Procedure.reject failure

def downloadRequest (url nonce token : String) : Request where
  url := url
  headers := [(nonceHeader, nonce), (credentialHeader, Integrity.bootstrapCredential token)]

def download (bootstrapper : Bootstrapper) (url : String) (scope : Scope) (nonce token : String) :
    Procedure Reply :=
  Procedure.withClient ⟨.insecure, bootstrapper.timeout⟩ fun client =>
    (Procedure.get client (downloadRequest url nonce token)).recover fun thrown =>
      Procedure.telling thrown (refuse url scope (.download url thrown) none)

def conclude (url : String) (scope : Scope) (status : Int) :
    Except Failure CaCerts → Procedure CaCerts
  | .error failure => refuse url scope failure (some status)
  | .ok trusted => do
    match trusted.bundle with
    | none => Procedure.audit (.bootstrapEmpty url scope)
    | some bundle =>
      Procedure.audit (.bootstrapVerified url scope trusted.checksum bundle.length)
    .done trusted

def caCerts (bootstrapper : Bootstrapper) (server token : String) (scope : Scope := .cluster) :
    Procedure CaCerts := do
  let nonce ← bootstrapper.nextNonce
  let url ← Procedure.ofResult (Server.caUrl server scope)
  let trusted ← bootstrapper.probe url scope
  if trusted then .done .noOverride
  else
    let reply ← bootstrapper.download url scope nonce token
    conclude url scope reply.status (reply.judge token nonce)

end Bootstrapper

end JoinTrust
