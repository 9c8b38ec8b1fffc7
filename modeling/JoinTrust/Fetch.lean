import JoinTrust.Bootstrap
import JoinTrust.Resolver

set_option autoImplicit false

/-!
Fetching a protected resource: trust is bootstrapped with the token that is really used, and the
request then goes over a client that trusts the verified bundle alone, or through hardware when the
token stays there. Only a machine token is sent along. Nothing is kept between fetches.
-/

namespace JoinTrust

structure Fetcher where
  timeout : Nat := defaultTimeout
  bootstrapper : Bootstrapper := { timeout }
  resolver : Resolver := .plain
  hasHardware : Bool := false
deriving DecidableEq, Repr

structure Fetched where
  body : Bytes
  bundle : Option Bytes
  checksum : String
deriving DecidableEq, Repr

structure Established where
  resolved : ResolvedToken
  trusted : CaCerts
deriving DecidableEq, Repr

namespace Fetcher

/-- The token that is used: a machine token is resolved, a cluster token is used as given. A failure
that is classified already stays as it is. -/
def usedToken (fetcher : Fetcher) (token : String) : Scope → Procedure ResolvedToken
  | .cluster => .done ⟨false, token⟩
  | .machine =>
    (fetcher.resolver.resolve token).recover fun
      | .failure failure => Procedure.reject failure
      | thrown => Procedure.telling thrown (Procedure.reject (.resolution thrown))

def establish (fetcher : Fetcher) (server token : String) (scope : Scope) :
    Procedure Established := do
  let resolved ← fetcher.usedToken token scope
  let trusted ← fetcher.bootstrapper.caCerts server resolved.token scope
  .done ⟨resolved, trusted⟩

def caCerts (fetcher : Fetcher) (server token : String) (scope : Scope) : Procedure CaCerts := do
  let established ← fetcher.establish server token scope
  .done established.trusted

def refuse {α : Type} (url : String) (failure : Failure) (status : Option Int) : Procedure α := do
  Procedure.audit (.fetchFailed url failure.kind failure.sentence status)
  Procedure.reject failure

def hardwareGet (fetcher : Fetcher) (url : String) (trusted : CaCerts) : Procedure Fetched := do
  if fetcher.hasHardware then
    let body ← (Procedure.perform (.fetchHardware trusted.bundle url)).recover fun thrown =>
      Procedure.telling thrown (refuse url (.hardwareFetch url thrown) none)
    Procedure.audit (.fetchHardware url trusted.checksum body.length)
    .done ⟨body, trusted.bundle, trusted.checksum⟩
  else Procedure.reject .hardwareFetcherMissing

def resourceHeaders (token : String) : Scope → Headers
  | .cluster => []
  | .machine => [(credentialHeader, Integrity.resourceCredential token)]

def plainGet (fetcher : Fetcher) (url token : String) (scope : Scope) (trusted : CaCerts) :
    Procedure Fetched := do
  let trust := Trust.ofBundle trusted.bundle
  let reply ← Procedure.withClient ⟨trust, fetcher.timeout⟩ fun client =>
    (Procedure.get client { url, headers := resourceHeaders token scope }).recover fun thrown =>
      Procedure.telling thrown (refuse url (.resource url thrown) none)
  if reply.status ≠ 200 then
    refuse url (.resourceStatus url reply.status reply.statusText (Excerpt.ofBody reply.body))
      (some reply.status)
  else
    Procedure.audit
      (.fetchOk url scope trust.isPinned trusted.checksum reply.body.length)
    .done ⟨reply.body, trusted.bundle, trusted.checksum⟩

def get (fetcher : Fetcher) (server token path : String) (scope : Scope) : Procedure Fetched := do
  let url ← Procedure.ofResult (Server.resourceUrl server path)
  let established ← fetcher.establish server token scope
  if established.resolved.hardwareBacked then fetcher.hardwareGet url established.trusted
  else fetcher.plainGet url established.resolved.token scope established.trusted

end Fetcher

end JoinTrust
