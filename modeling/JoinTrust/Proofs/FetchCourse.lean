import JoinTrust.Fetch
import JoinTrust.Proofs.BootstrapCourse

set_option autoImplicit false

/-!
The courses that a fetch can take. A fetch resolves its token, bootstraps trust with what the token was
resolved to, and goes on through hardware or over one more client. Every conversation of
`Fetcher.get` is one of four courses, and the course of its bootstrap is a part of it.
-/

namespace JoinTrust

open Program (closedWith)

/-!
## Tokens
-/

namespace Resolver

variable {resolver : Resolver} {marker token reference : String} {events : Transcript}
  {resolved : ResolvedToken}

theorem unsealed_keepsTo (reference : String) : (unsealed reference).KeepsTo [.lookup] := by
  refine .bind (.recover (.perform (List.mem_singleton_self _)) fun thrown => .telling trivial) fun token => ?_
  by_cases empty : token.isEmpty = true
  · rw [if_pos empty]
    trivial
  · rw [if_neg empty]
    trivial

theorem resolve_keepsTo (resolver : Resolver) (token : String) :
    (resolver.resolve token).KeepsTo [.lookup] := by
  cases resolver with
  | external => exact .perform (List.mem_singleton_self _)
  | hardware marker hasSource =>
      simp only [resolve]
      split
      · trivial
      · next reference found =>
          cases hasSource with
          | true => exact unsealed_keepsTo reference
          | false => trivial

/-- What follows on the answer of a source: a failure of it is told, and a token is gone on with. -/
def unsealedThen {α : Type} (tell : Thrown → Thrown) (next : String → Procedure α) :
    Except Thrown String → Procedure α
  | .error thrown => .fail (tell thrown)
  | .ok token => if token.isEmpty then Procedure.reject .emptyUnsealed else next token

theorem unsealed_eq (reference : String) :
    unsealed reference =
      .ask (.unsealToken reference)
        (unsealedThen (Thrown.toldAs · .unsealing) fun token => .done ⟨true, token⟩) := by
  refine congrArg (Program.ask (Command.unsealToken reference)) (funext fun answer => ?_)
  cases answer with
  | ok token => rfl
  | error thrown =>
      rw [unsealedThen, ← Procedure.telling_reject]
      unfold Procedure.telling
      cases silent : thrown.silence? with
      | none => simp [Program.ofExcept, Program.attempt, Program.bind, silent, Procedure.reject]
      | some raised => simp [Program.ofExcept, Program.attempt, Program.bind, silent]

/-- The answer of a source is a token to go on with, or it is a reason to end the call. -/
theorem unsealedThen_cases (tell : Thrown → Thrown) (answer : Except Thrown String) :
    (∃ token, answer = .ok token ∧
      ∀ {α : Type} (next : String → Procedure α), unsealedThen tell next answer = next token) ∨
    ∃ thrown, ∀ {α : Type} (next : String → Procedure α),
      unsealedThen tell next answer = .fail thrown := by
  cases answer with
  | error thrown => exact .inr ⟨_, fun _ => rfl⟩
  | ok token =>
      by_cases empty : token.isEmpty = true
      · exact .inr ⟨_, fun _ => if_pos empty⟩
      · exact .inl ⟨token, rfl, fun _ => if_neg empty⟩

theorem answeredToken?_of_runs_unsealed (runs : (unsealed reference).Runs events (.ok resolved)) :
    Transcript.answeredToken? events = some resolved.token := by
  rw [unsealed_eq] at runs
  obtain ⟨answer, rest, rfl, continued⟩ := Program.runs_ask_iff.mp runs
  rcases unsealedThen_cases _ answer with ⟨token, rfl, kept⟩ | ⟨thrown, rejected⟩
  · rw [kept] at continued
    obtain ⟨rfl, same⟩ := Program.runs_done_iff.mp continued
    cases same
    rfl
  · rw [rejected] at continued
    cases (Program.runs_fail_iff.mp continued).2

/-- A token is resolved to the answer, or to itself when nobody was asked. -/
theorem answeredToken?_of_runs (runs : (resolver.resolve token).Runs events (.ok resolved)) :
    (Transcript.answeredToken? events).getD token = resolved.token := by
  cases resolver with
  | external =>
      obtain rfl := Procedure.runs_perform_iff.mp runs
      rfl
  | hardware marker hasSource =>
      simp only [resolve] at runs
      split at runs
      · obtain ⟨rfl, same⟩ := Program.runs_done_iff.mp runs
        cases same
        rfl
      · next reference found =>
          cases hasSource with
          | true => rw [answeredToken?_of_runs_unsealed runs, Option.getD_some]
          | false => cases (Procedure.runs_reject_iff.mp runs).2

end Resolver

namespace Fetcher

variable {fetcher : Fetcher} {server token path url : String} {scope : Scope} {trusted : CaCerts}
  {events : Transcript}

/-- How a failed resolution is told: a failure that has its class already stays as it is. -/
def unresolved : Thrown → Thrown
  | .failure failure => .failure failure
  | thrown => thrown.toldAs .resolution

theorem usedToken_machine (fetcher : Fetcher) (token : String) :
    fetcher.usedToken token .machine =
      (fetcher.resolver.resolve token).recover fun thrown => .fail (unresolved thrown) := by
  refine congrArg (Program.recover _) (funext fun thrown => ?_)
  cases thrown with
  | failure failure => rfl
  | _ => exact Procedure.telling_reject _ .resolution

theorem usedToken_keepsTo (fetcher : Fetcher) (token : String) (scope : Scope) :
    (fetcher.usedToken token scope).KeepsTo [.lookup] := by
  cases scope with
  | cluster => trivial
  | machine =>
      rw [usedToken_machine]
      exact .recover (fetcher.resolver.resolve_keepsTo token) fun thrown => trivial

/-- The token that is used is the one that the transcript of its resolution shows. -/
theorem usedToken_of_runs {resolved : ResolvedToken}
    (runs : (fetcher.usedToken token scope).Runs events (.ok resolved)) :
    Transcript.usedToken token scope events = resolved.token := by
  cases scope with
  | cluster =>
      obtain ⟨_, same⟩ := Program.runs_done_iff.mp runs
      cases same
      rfl
  | machine =>
      rw [usedToken_machine] at runs
      rcases Program.runs_recover_iff.mp runs with ⟨_, ran, same⟩ | ⟨thrown, _, _, _, failed, _⟩
      · cases same
        exact Resolver.answeredToken?_of_runs ran
      · cases (Program.runs_fail_iff.mp failed).2

/-!
## Steps
-/

/-- What comes before a fetch: the token is resolved, and then trust is bootstrapped with it. -/
inductive Establishing (fetcher : Fetcher) (server token : String) (scope : Scope) :
    Transcript → Except Thrown Established → Prop where
  | unresolved {lookup : Transcript} {thrown : Thrown} :
      (fetcher.usedToken token scope).Runs lookup (.error thrown) →
      Establishing fetcher server token scope lookup (.error thrown)
  | bootstrapped {lookup bootstrap : Transcript} {resolved : ResolvedToken}
      {outcome : Except Thrown CaCerts} :
      (fetcher.usedToken token scope).Runs lookup (.ok resolved) →
      (fetcher.bootstrapper.caCerts server resolved.token scope).Runs bootstrap outcome →
      Establishing fetcher server token scope (lookup ++ bootstrap)
        (outcome.map fun trusted => ⟨resolved, trusted⟩)

theorem establishing_of_runs {outcome : Except Thrown Established}
    (runs : (fetcher.establish server token scope).Runs events outcome) :
    Establishing fetcher server token scope events outcome := by
  rcases Program.runs_bind_iff.mp runs with ⟨resolved, lookup, _, looked, rest, rfl⟩ | ⟨_, looked, rfl⟩
  · rcases Program.runs_bind_iff.mp rest with ⟨trusted, _, _, bootstrapped, ended, rfl⟩ |
      ⟨_, bootstrapped, rfl⟩
    · obtain ⟨rfl, rfl⟩ := Program.runs_done_iff.mp ended
      rw [List.append_nil]
      exact .bootstrapped looked bootstrapped
    · exact .bootstrapped looked bootstrapped
  · exact .unresolved looked

def hardwareFailure (url : String) (thrown : Thrown) : Audit.Entry :=
  .fetchFailed url .hardwareFetch (Failure.hardwareFetch url thrown).sentence none

/-- A fetch through hardware. Nothing is asked for when there is nothing to fetch with. -/
inductive HardwareFetched (fetcher : Fetcher) (url : String) (trusted : CaCerts) :
    Transcript → Except Thrown Fetched → Prop where
  | missing :
      fetcher.hasHardware = false →
      HardwareFetched fetcher url trusted [] (.error (.failure .hardwareFetcherMissing))
  | failed {thrown : Thrown} {answer : Except Thrown Unit} :
      fetcher.hasHardware = true →
      thrown.silence? = none →
      HardwareFetched fetcher url trusted
        [⟨.fetchHardware trusted.bundle url, .error thrown⟩, ⟨.audit (hardwareFailure url thrown), answer⟩]
        (closedWith answer (.error (.failure (.hardwareFetch url thrown))))
  | untold {thrown raised : Thrown} :
      fetcher.hasHardware = true →
      thrown.silence? = some raised →
      HardwareFetched fetcher url trusted [⟨.fetchHardware trusted.bundle url, .error thrown⟩] (.error raised)
  | fetched {body : Bytes} {answer : Except Thrown Unit} :
      fetcher.hasHardware = true →
      HardwareFetched fetcher url trusted
        [⟨.fetchHardware trusted.bundle url, .ok body⟩,
          ⟨.audit (.fetchHardware url trusted.checksum body.length), answer⟩]
        (closedWith answer (.ok ⟨body, trusted.bundle, trusted.checksum⟩))

theorem hardwareFetched_of_runs {outcome : Except Thrown Fetched}
    (runs : (fetcher.hardwareGet url trusted).Runs events outcome) :
    HardwareFetched fetcher url trusted events outcome := by
  cases has : fetcher.hasHardware with
  | false =>
      simp only [hardwareGet, has, Bool.false_eq_true, if_false] at runs
      obtain ⟨rfl, rfl⟩ := Procedure.runs_reject_iff.mp runs
      exact .missing has
  | true =>
      simp only [hardwareGet, has, if_true] at runs
      rcases Program.runs_bind_iff.mp runs with ⟨body, _, _, asked, recorded, rfl⟩ | ⟨_, asked, rfl⟩
      · obtain ⟨_, _, rfl, told⟩ := Procedure.told_of_runs asked
        obtain ⟨rfl, rfl⟩ := told.eq_of_ok rfl
        obtain ⟨answer, rfl, rfl⟩ := Procedure.closedWith_of_runs_audit_done recorded
        exact .fetched has
      · obtain ⟨_, _, rfl, told⟩ := Procedure.told_of_runs asked
        generalize ended : (Except.error _ : Except Thrown Bytes) = outcome at told
        cases told with
        | answered => cases ended
        | @refused thrown answer spoken =>
            cases answer with
            | ok recorded =>
                cases ended
                exact .failed has spoken
            | error unrecorded =>
                cases ended
                exact .failed has spoken
        | untold silent =>
            cases ended
            exact .untold has silent

def resourceRequest (url token : String) (scope : Scope) : Request where
  url := url
  headers := resourceHeaders token scope

def resourceFailure (url : String) (thrown : Thrown) : Audit.Entry :=
  .fetchFailed url .transport (Failure.resource url thrown).sentence none

/-- What a reply to the request for a resource amounts to. -/
def received (url : String) (trusted : CaCerts) (reply : Reply) : Except Failure Fetched :=
  if reply.status ≠ 200 then
    .error (.resourceStatus url reply.status reply.statusText (Excerpt.ofBody reply.body))
  else .ok ⟨reply.body, trusted.bundle, trusted.checksum⟩

def receipt (url : String) (scope : Scope) (trusted : CaCerts) (status : Int) :
    Except Failure Fetched → Audit.Entry
  | .error failure => .fetchFailed url failure.kind failure.sentence (some status)
  | .ok fetched =>
    .fetchOk url scope (Trust.ofBundle trusted.bundle).isPinned trusted.checksum fetched.body.length

/-- A fetch over a client that trusts the bundle alone, or the roots of the host. -/
inductive PlainFetched (fetcher : Fetcher) (url token : String) (scope : Scope) (trusted : CaCerts) :
    Transcript → Except Thrown Fetched → Prop where
  | failed {exchange : Transcript} {thrown : Thrown} :
      Procedure.Exchanged ⟨.ofBundle trusted.bundle, fetcher.timeout⟩ (resourceRequest url token scope)
        (Procedure.Told (resourceFailure url) (Failure.resource url)) exchange
        (.error thrown : Except Thrown Reply) →
      PlainFetched fetcher url token scope trusted exchange (.error thrown)
  | answered {exchange : Transcript} {reply : Reply} {answer : Except Thrown Unit} :
      Procedure.Exchanged ⟨.ofBundle trusted.bundle, fetcher.timeout⟩ (resourceRequest url token scope)
        (Procedure.Told (resourceFailure url) (Failure.resource url)) exchange (.ok reply) →
      PlainFetched fetcher url token scope trusted
        (exchange ++
          [⟨.audit (receipt url scope trusted reply.status (received url trusted reply)), answer⟩])
        (closedWith answer ((received url trusted reply).mapError .failure))

private theorem received_of_runs {reply : Reply} {outcome : Except Thrown Fetched}
    (runs : Program.Runs (if reply.status ≠ 200 then
        refuse url (.resourceStatus url reply.status reply.statusText (Excerpt.ofBody reply.body))
          (some reply.status)
      else
        (Procedure.audit (.fetchOk url scope (Trust.ofBundle trusted.bundle).isPinned trusted.checksum
          reply.body.length)).bind fun _ => .done ⟨reply.body, trusted.bundle, trusted.checksum⟩)
      events outcome) :
    ∃ answer, events =
        [⟨.audit (receipt url scope trusted reply.status (received url trusted reply)), answer⟩] ∧
      outcome = closedWith answer ((received url trusted reply).mapError .failure) := by
  by_cases refused : reply.status ≠ 200
  · rw [if_pos refused] at runs
    rw [received, if_pos refused]
    exact Procedure.closedWith_of_runs_audit_reject runs
  · rw [if_neg refused] at runs
    rw [received, if_neg refused]
    exact Procedure.closedWith_of_runs_audit_done runs

theorem plainFetched_of_runs {outcome : Except Thrown Fetched}
    (runs : (fetcher.plainGet url token scope trusted).Runs events outcome) :
    PlainFetched fetcher url token scope trusted events outcome := by
  have exchanged {inner : Transcript} {result : Except Thrown Reply} :=
    @Procedure.exchanged_of_runs_withClient Reply
      ⟨.ofBundle trusted.bundle, fetcher.timeout⟩ (resourceRequest url token scope)
      (Procedure.Told (resourceFailure url) (Failure.resource url)) _ inner result
      fun _ _ _ used => Procedure.told_of_runs used
  rcases Program.runs_bind_iff.mp runs with ⟨reply, _, _, replied, recorded, rfl⟩ | ⟨_, failed, rfl⟩
  · obtain ⟨answer, rfl, rfl⟩ := received_of_runs recorded
    exact .answered (exchanged replied)
  · exact .failed (exchanged failed)

/-- What follows on a bootstrap in a fetch. -/
def fetchUnder (fetcher : Fetcher) (url : String) (scope : Scope) (resolved : ResolvedToken)
    (trusted : CaCerts) : Procedure Fetched :=
  if resolved.hardwareBacked then fetcher.hardwareGet url trusted
  else fetcher.plainGet url resolved.token scope trusted

/-- A fetch goes through hardware exactly if the token stays there. -/
theorem fetchUnder_cases {resolved : ResolvedToken} {outcome : Except Thrown Fetched}
    (runs : (fetcher.fetchUnder url scope resolved trusted).Runs events outcome) :
    (resolved.hardwareBacked = true ∧ HardwareFetched fetcher url trusted events outcome) ∨
      resolved.hardwareBacked = false ∧
        PlainFetched fetcher url resolved.token scope trusted events outcome := by
  cases backed : resolved.hardwareBacked with
  | true =>
      rw [fetchUnder, backed, if_pos rfl] at runs
      exact .inl ⟨rfl, hardwareFetched_of_runs runs⟩
  | false =>
      rw [fetchUnder, backed, if_neg Bool.false_ne_true] at runs
      exact .inr ⟨rfl, plainFetched_of_runs runs⟩

theorem caCerts_eq (fetcher : Fetcher) (server token : String) (scope : Scope) :
    fetcher.caCerts server token scope = (fetcher.usedToken token scope).bind fun resolved =>
      fetcher.bootstrapper.caCerts server resolved.token scope := by
  simp only [caCerts, establish, Program.bind_eq, Program.bind_assoc, Program.bind]
  congr 1
  funext resolved
  exact Program.bind_done _

theorem get_eq_reject {failure : Failure} (rejected : Server.resourceUrl server path = .error failure) :
    fetcher.get server token path scope = Procedure.reject failure := by
  rw [get, rejected]
  rfl

theorem get_eq (offered : Server.resourceUrl server path = .ok url) :
    fetcher.get server token path scope = (fetcher.usedToken token scope).bind fun resolved =>
      (fetcher.bootstrapper.caCerts server resolved.token scope).bind
        (fetcher.fetchUnder url scope resolved) := by
  simp only [get, offered, establish, Procedure.ofResult, Program.bind_eq, Program.bind_assoc,
    Program.bind]
  rfl

/-!
## Courses
-/

/-- The courses of a fetch. The address is looked at before anything is asked for. -/
inductive Course (fetcher : Fetcher) (server token path : String) (scope : Scope) :
    Transcript → Except Thrown Fetched → Prop where
  | rejected {failure : Failure} :
      Server.resourceUrl server path = .error failure →
      Course fetcher server token path scope [] (.error (.failure failure))
  | unestablished {url : String} {establishing : Transcript} {thrown : Thrown} :
      Server.resourceUrl server path = .ok url →
      Establishing fetcher server token scope establishing (.error thrown) →
      Course fetcher server token path scope establishing (.error thrown)
  | hardware {url : String} {establishing fetching : Transcript} {established : Established}
      {outcome : Except Thrown Fetched} :
      Server.resourceUrl server path = .ok url →
      Establishing fetcher server token scope establishing (.ok established) →
      established.resolved.hardwareBacked = true →
      HardwareFetched fetcher url established.trusted fetching outcome →
      Course fetcher server token path scope (establishing ++ fetching) outcome
  | plain {url : String} {establishing fetching : Transcript} {established : Established}
      {outcome : Except Thrown Fetched} :
      Server.resourceUrl server path = .ok url →
      Establishing fetcher server token scope establishing (.ok established) →
      established.resolved.hardwareBacked = false →
      PlainFetched fetcher url established.resolved.token scope established.trusted fetching outcome →
      Course fetcher server token path scope (establishing ++ fetching) outcome

/-- Every conversation of a fetch takes one of the courses. -/
theorem course_of_runs {outcome : Except Thrown Fetched}
    (runs : (fetcher.get server token path scope).Runs events outcome) :
    Course fetcher server token path scope events outcome := by
  rcases Procedure.runs_ofResult_bind_iff.mp runs with ⟨url, accepted, went⟩ | ⟨failure, rejected, rfl, rfl⟩
  · rcases Program.runs_bind_iff.mp went with ⟨established, _, _, first, fetched, rfl⟩ | ⟨_, failed, rfl⟩
    · have establishing := establishing_of_runs first
      rcases fetchUnder_cases fetched with ⟨backed, fetching⟩ | ⟨backed, fetching⟩
      · exact .hardware accepted establishing backed fetching
      · exact .plain accepted establishing backed fetching
    · exact .unestablished accepted (establishing_of_runs failed)
  · exact .rejected rejected

end Fetcher

end JoinTrust
