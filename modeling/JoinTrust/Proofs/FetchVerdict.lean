import JoinTrust.Proofs.FetchEvidence
import JoinTrust.Proofs.Verdict

set_option autoImplicit false

/-!
The exact end of a fetch whose conversation is calm. The address is looked at first, then the token is
resolved, then trust is bootstrapped with what it was resolved to, and only then is anything fetched. A
step that fails ends the fetch: some failures pass as they are and others are told under a class, and
nothing that comes later in this order is asked for.
-/

namespace JoinTrust

def Transcript.hardwareAnswers (transcript : Transcript) : List (Except Thrown Bytes) :=
  transcript.filterMap fun
    | ⟨.fetchHardware _ _, answer⟩ => some answer
    | _ => none

/-- The questions to a resolver of the caller's own. -/
def Command.isResolve : Command → Bool
  | .resolve _ => true
  | _ => false

namespace Fetcher

variable {fetcher : Fetcher} {server token path url : String} {scope : Scope} {trusted : CaCerts}
  {events : Transcript}

/-- Who is asked for the token that is used: nobody for a cluster token, and the resolver for the token
of a machine. -/
def lookup (fetcher : Fetcher) (token : String) : Scope → Procedure ResolvedToken
  | .cluster => .done ⟨false, token⟩
  | .machine => fetcher.resolver.resolve token

/-- What a fetch through hardware comes to. No client has a part in it. -/
def SettlesThroughHardware (fetcher : Fetcher) (trusted : CaCerts) (fetching : Transcript)
    (outcome : Except Thrown Fetched) : Prop :=
  fetching.Lacks .client ∧
    if fetcher.hasHardware then
      match fetching.hardwareAnswers with
      | [.error thrown] => RejectedFor .hardwareFetch thrown outcome
      | [.ok body] => outcome = .ok ⟨body, trusted.bundle, trusted.checksum⟩
      | _ => False
    else RejectedAs .configuration outcome ∧ fetching = []

/-- What a fetch over a client comes to. The hardware has no part in it. -/
def SettlesOverClient (trusted : CaCerts) (fetching : Transcript) (outcome : Except Thrown Fetched) :
    Prop :=
  fetching.Lacks .hardware ∧
    match fetching.replies with
    | [.error thrown] => RejectedFor .transport thrown outcome
    | [.ok reply] =>
      if reply.status ≠ 200 then RejectedAs .badStatus outcome
      else outcome = .ok ⟨reply.body, trusted.bundle, trusted.checksum⟩
    | _ => False

/-- What a fetch comes to, in the order in which it decides. What a resolver and a bootstrap do is what
they do on their own, one after the other, in the same world. -/
def Settles {σ : Type} (fetcher : Fetcher) (server token : String) (scope : Scope)
    (handler : Handler Command Command.Answer σ) (state : σ) (transcript : Transcript)
    (outcome : Except Thrown Fetched) : Prop :=
  match Server.parse server with
  | .error _ => RejectedAs .configuration outcome ∧ transcript = []
  | .ok _ =>
    let looked := (fetcher.lookup token scope).run handler state
    match looked.outcome with
    | .error (.failure failure) =>
      outcome = .error (.failure failure) ∧ transcript = looked.events ∧ transcript.Lacks .client
    | .error thrown =>
      RejectedFor .tokenResolution thrown outcome ∧ transcript = looked.events ∧ transcript.Lacks .client
    | .ok resolved =>
      let bootstrapped := (fetcher.bootstrapper.caCerts server resolved.token scope).run handler looked.state
      match bootstrapped.outcome with
      | .error thrown => outcome = .error thrown ∧ transcript = looked.events ++ bootstrapped.events
      | .ok trusted =>
        ∃ fetching, transcript = looked.events ++ bootstrapped.events ++ fetching ∧
          if resolved.hardwareBacked then fetcher.SettlesThroughHardware trusted fetching outcome
          else SettlesOverClient trusted fetching outcome

/-!
## Steps
-/

theorem lookup_keepsTo (fetcher : Fetcher) (token : String) (scope : Scope) :
    (fetcher.lookup token scope).KeepsTo [.lookup] := by
  cases scope with
  | cluster => trivial
  | machine => exact fetcher.resolver.resolve_keepsTo token

theorem run_usedToken {σ : Type} (handler : Handler Command Command.Answer σ) (state : σ)
    (fetcher : Fetcher) (token : String) (scope : Scope) :
    (fetcher.usedToken token scope).run handler state =
      let looked := (fetcher.lookup token scope).run handler state
      ⟨looked.state, looked.events, looked.outcome.mapError unresolved⟩ := by
  cases scope with
  | cluster => rfl
  | machine =>
      rw [usedToken_machine, Program.run_recover, lookup]
      cases looked : (fetcher.resolver.resolve token).run handler state with
      | mk next events outcome =>
          cases outcome with
          | ok resolved => rfl
          | error thrown => simp [Program.run, Except.mapError]

theorem HardwareFetched.settles {outcome : Except Thrown Fetched}
    (fetched : HardwareFetched fetcher url trusted events outcome) (calm : Transcript.Calm events) :
    fetcher.SettlesThroughHardware trusted events outcome := by
  refine ⟨fetched.lacks (by decide) (by decide), ?_⟩
  cases fetched with
  | missing has =>
      rw [has, if_neg Bool.false_ne_true]
      exact ⟨⟨_, rfl, rfl⟩, rfl⟩
  | @failed thrown answer has spoken =>
      obtain ⟨_, calm⟩ := Transcript.calm_cons_iff.mp calm
      obtain ⟨taken, _⟩ := Transcript.calm_cons_iff.mp calm
      cases taken
      rw [has, if_pos rfl]
      have rejected := rejectedFor_toldAs (α := Fetched) thrown (.hardwareFetch url) rfl
      rw [Thrown.toldAs, spoken] at rejected
      exact rejected
  | @untold thrown raised has silent =>
      rw [has, if_pos rfl]
      change RejectedFor .hardwareFetch thrown _
      unfold RejectedFor
      rw [silent]
  | fetched has =>
      obtain ⟨_, calm⟩ := Transcript.calm_cons_iff.mp calm
      obtain ⟨taken, _⟩ := Transcript.calm_cons_iff.mp calm
      cases taken
      rw [has, if_pos rfl]
      rfl

theorem PlainFetched.settles {outcome : Except Thrown Fetched}
    (fetched : PlainFetched fetcher url token scope trusted events outcome)
    (calm : Transcript.Calm events) : SettlesOverClient trusted events outcome := by
  refine ⟨fetched.lacks (by decide) (by decide), ?_⟩
  cases fetched with
  | failed exchanged =>
      obtain ⟨thrown, replied, _, rfl⟩ := exchanged.told_of_calm calm
      rw [replied]
      exact rejectedFor_toldAs thrown (.resource url) rfl
  | @answered exchange reply answer exchanged =>
      obtain ⟨calmExchange, last⟩ := Transcript.calm_append_iff.mp calm
      obtain ⟨taken, _⟩ := Transcript.calm_cons_iff.mp last
      cases taken
      obtain ⟨replied, _⟩ := exchanged.told_of_calm calmExchange
      rw [Transcript.replies_append, replied]
      change if reply.status ≠ 200 then _ else _
      by_cases refused : reply.status ≠ 200
      · rw [if_pos refused, received, if_pos refused]
        exact ⟨_, rfl, rfl⟩
      · rw [if_neg refused, received, if_neg refused]
        rfl

theorem fetchUnder_settles {resolved : ResolvedToken} {outcome : Except Thrown Fetched}
    (runs : (fetcher.fetchUnder url scope resolved trusted).Runs events outcome)
    (calm : Transcript.Calm events) :
    if resolved.hardwareBacked then fetcher.SettlesThroughHardware trusted events outcome
    else SettlesOverClient trusted events outcome := by
  rcases fetchUnder_cases runs with ⟨backed, fetching⟩ | ⟨backed, fetching⟩
  · rw [backed, if_pos rfl]
    exact fetching.settles calm
  · rw [backed, if_neg Bool.false_ne_true]
    exact fetching.settles calm

/-- A calm conversation ends exactly as the address, the resolver, the bootstrap and the answer to the
fetch decide, in this order. -/
theorem get_settles {σ : Type} (handler : Handler Command Command.Answer σ) (state : σ)
    (fetcher : Fetcher) (server token path : String) (scope : Scope)
    (calm : Transcript.Calm ((fetcher.get server token path scope).run handler state).events) :
    let call := (fetcher.get server token path scope).run handler state
    fetcher.Settles server token scope handler state call.events call.outcome := by
  intro call
  cases parsed : Server.parse server with
  | error failure =>
      have rejected : Server.resourceUrl server path = .error failure := by
        rw [Server.resourceUrl, parsed]
        rfl
      have ended : call = ⟨state, [], .error (.failure failure)⟩ := by
        simp only [call, get_eq_reject rejected]
        rfl
      rw [Settles, parsed, ended]
      exact ⟨⟨failure, rfl, Server.kind_of_parse parsed⟩, rfl⟩
  | ok address =>
      have offered : Server.resourceUrl server path = .ok (address.setPath path).href := by
        rw [Server.resourceUrl, parsed]
        rfl
      have ran : call = ((fetcher.usedToken token scope).bind fun resolved =>
          (fetcher.bootstrapper.caCerts server resolved.token scope).bind
            (fetcher.fetchUnder (address.setPath path).href scope resolved)).run handler state := by
        rw [← get_eq offered]
      change Transcript.Calm call.events at calm
      rw [Program.run_bind, run_usedToken] at ran
      rw [ran] at calm
      rw [Settles, parsed, ran]
      cases looked : (fetcher.lookup token scope).run handler state with
      | mk after lookup outcome =>
          have spoke := Program.runs_run handler state (fetcher.lookup token scope)
          rw [looked] at spoke calm
          cases outcome with
          | error thrown =>
              have unasked : Transcript.Lacks .client lookup :=
                Transcript.lacks_of_keepsTo spoke (fetcher.lookup_keepsTo token scope) (by decide)
              cases thrown with
              | failure failure => exact ⟨rfl, rfl, unasked⟩
              | _ => exact ⟨rejectedFor_toldAs _ .resolution rfl, rfl, unasked⟩
          | ok resolved =>
              simp only [Except.mapError, Program.run_bind] at calm ⊢
              cases bootstrapped : (fetcher.bootstrapper.caCerts server resolved.token scope).run handler after with
              | mk next bootstrap outcome =>
                  rw [bootstrapped] at calm
                  cases outcome with
                  | error thrown => exact ⟨rfl, rfl⟩
                  | ok trusted =>
                      obtain ⟨_, calm⟩ := Transcript.calm_append_iff.mp calm
                      obtain ⟨_, calm⟩ := Transcript.calm_append_iff.mp calm
                      refine ⟨_, (List.append_assoc _ _ _).symm, ?_⟩
                      exact fetchUnder_settles (Program.runs_run handler next _) calm

theorem get_settles_genuine :
    let fetcher : Fetcher := { resolver := .external }
    let world := GenuineServer.handler "token" [1] [2]
    let call := (fetcher.get GenuineServer.address "sealed" "/v3/import" .machine).run world ()
    Transcript.Calm call.events ∧
      fetcher.Settles GenuineServer.address "sealed" .machine world () call.events call.outcome := by
  have calm : Transcript.Calm ((get { resolver := .external } GenuineServer.address "sealed" "/v3/import"
      .machine).run (GenuineServer.handler "token" [1] [2]) ()).events :=
    Program.calm_run (GenuineServer.calm "token" [1] [2]) () _
  exact ⟨calm, get_settles (GenuineServer.handler "token" [1] [2]) () { resolver := .external }
    GenuineServer.address "sealed" "/v3/import" .machine calm⟩

/-- A resolver that fails with something of no message has the fetch rejected with no failure at all. -/
theorem speechless_resolver_untyped :
    let fetcher : Fetcher := { resolver := .external }
    let world := (GenuineServer.handler "token" [1] [2]).failing Command.isResolve .speechless
    let call := (fetcher.get GenuineServer.address "sealed" "/v3/import" .machine).run world ()
    Transcript.Calm call.events ∧ call.events = [⟨.resolve "sealed", .error .speechless⟩] ∧
      call.outcome = .error (.error "TypeError" "Cannot convert object to primitive value") ∧
      ¬ RejectedAs .tokenResolution call.outcome := by
  intro fetcher world call
  have ran : call = ⟨(), [⟨.resolve "sealed", .error .speechless⟩],
      .error (.error "TypeError" "Cannot convert object to primitive value")⟩ := by
    simp only [call, get_eq GenuineServer.resourceUrl_address]
    rfl
  rw [ran]
  refine ⟨?_, rfl, rfl, ?_⟩
  · intro event member
    cases List.mem_singleton.mp member
    trivial
  · intro rejected
    obtain ⟨failure, same, _⟩ := rejected
    cases same

end Fetcher

end JoinTrust
