import JoinTrust.Proofs.Blindness
import JoinTrust.Proofs.GenuineServer
import JoinTrust.Proofs.RunEvidence

set_option autoImplicit false

/-!
What nobody has verified has no influence. The content of a reply to the probe, and the body of a reply
whose response hash is wrong, change nothing of what a bootstrap, a fetch or a run does: not an
operation, not a word of a message, and not the end.
-/

namespace JoinTrust

open Procedure (BlindTo Indifferent AlikeOn)

/-!
## Bootstraps
-/

namespace Bootstrapper

variable {β : Type} {bootstrapper : Bootstrapper} {server url nonce token : String} {scope : Scope}

theorem blindTo_probe_bind {first : Bool} {next : Bool → Procedure β}
    (rest : ∀ trusted, BlindTo token false (next trusted)) :
    BlindTo token first ((bootstrapper.probe url scope).bind next) := by
  refine Procedure.blindTo_withClient (fun client => rfl) ?_ ?_ rest
  · intro client same left right alike
    cases alike with
    | same => rfl
    -- The status goes into the audit trail, and nothing else of the reply is looked at.
    | @probe left right begins status =>
        obtain ⟨status, _, _, _⟩ := left
        obtain ⟨_, _, _, _⟩ := right
        cases status
        rfl
    | unverified insecure =>
        rw [same] at insecure
        cases insecure
  · intro client answer
    refine .recover (.bind (.ofExcept answer) fun reply => ?_) fun thrown => ?_
    · exact .bind (.perform rfl) fun _ => trivial
    · exact .telling (.bind (.perform rfl) fun _ => trivial)

private theorem judge_eq_of_unverified {reply : Reply} (ok : reply.status = 200)
    (wrong : Integrity.verify token nonce reply.body (reply.headers.get? "x-cattle-hash") = false) :
    reply.judge token nonce = .error (.hashMismatch (reply.headers.get? "x-cattle-hash") nonce) := by
  simp only [Reply.judge, hashHeaderKey_eq]
  rw [if_neg (not_not_intro ok), if_pos wrong]

/-- A download that is not the first request goes on alike with bodies that fail the check. -/
theorem blindTo_download_bind {next : CaCerts → Procedure β}
    (rest : ∀ trusted, BlindTo token false (next trusted)) :
    BlindTo token false (((bootstrapper.download url scope nonce token).bind fun reply =>
      conclude url scope reply.status (reply.judge token nonce)).bind next) := by
  rw [Program.bind_assoc]
  refine Procedure.blindTo_exchange ?_ ?_ ?_
  · intro client same left right alike
    cases alike with
    | same => rfl
    | probe begins => cases begins
    | unverified insecure carried ok alsoOk headers wrong alsoWrong =>
        -- The failure quotes the header and the nonce, which both replies share, but no body.
        cases carried
        rw [judge_eq_of_unverified ok wrong, judge_eq_of_unverified alsoOk alsoWrong, headers, ok, alsoOk]
  · intro thrown
    exact .telling (.bind (.perform rfl) fun _ => trivial)
  · intro reply
    refine Procedure.Silent.blindTo_bind ?_ rest
    exact Procedure.silent_of_keepsTo (conclude_keepsTo _) (by decide)

/-- A bootstrap is blind to what it has not verified. -/
theorem blindTo_caCerts_bind {next : CaCerts → Procedure β}
    (rest : ∀ trusted, BlindTo token false (next trusted)) :
    BlindTo token true ((bootstrapper.caCerts server token scope).bind next) := by
  simp only [caCerts, Program.bind_eq, Program.bind_assoc]
  refine Procedure.Silent.blindTo_bind
    (Procedure.silent_of_keepsTo bootstrapper.nextNonce_keepsTo (by decide)) fun nonce => ?_
  refine Procedure.Silent.blindTo_bind (Procedure.silent_ofResult _) fun url => ?_
  refine blindTo_probe_bind fun trusted => ?_
  cases trusted with
  | true => exact rest .noOverride
  | false =>
      rw [if_neg Bool.false_ne_true]
      exact blindTo_download_bind rest

end Bootstrapper

/-!
## Fetches
-/

namespace Fetcher

variable {α β : Type} {fetcher : Fetcher} {server token path url used : String} {scope : Scope}

/-- A client that verifies its server may be answered anything: no two replies to it are alike. -/
theorem blindTo_plainGet_bind {trusted : CaCerts} {next : Fetched → Procedure β}
    (rest : ∀ fetched, BlindTo used false (next fetched)) :
    BlindTo used false ((fetcher.plainGet url token scope trusted).bind next) := by
  rw [plainGet, Program.bind_eq, Program.bind_assoc]
  refine Procedure.blindTo_exchange ?_ ?_ ?_
  · intro client same left right alike
    cases alike with
    | same => rfl
    | probe begins => cases begins
    | unverified insecure =>
        rw [same] at insecure
        cases bundle : trusted.bundle with
        | none =>
            rw [bundle] at insecure
            cases insecure
        | some content =>
            rw [bundle] at insecure
            cases insecure
  · intro thrown
    exact .telling (.bind (.perform rfl) fun _ => trivial)
  · intro reply
    refine Procedure.Silent.blindTo_bind ?_ rest
    by_cases refused : reply.status ≠ 200
    · rw [if_pos refused]
      exact .bind (.perform rfl) fun _ => trivial
    · rw [if_neg refused]
      exact .bind (.perform rfl) fun _ => trivial

theorem blindTo_fetchUnder_bind {resolved : ResolvedToken} {trusted : CaCerts}
    {next : Fetched → Procedure β} (rest : ∀ fetched, BlindTo used false (next fetched)) :
    BlindTo used false ((fetcher.fetchUnder url scope resolved trusted).bind next) := by
  cases backed : resolved.hardwareBacked with
  | true =>
      rw [fetchUnder, backed, if_pos rfl]
      refine Procedure.Silent.blindTo_bind ?_ rest
      exact Procedure.silent_of_keepsTo (hardwareGet_keepsTo fetcher url trusted) (by decide)
  | false =>
      rw [fetchUnder, backed, if_neg Bool.false_ne_true]
      exact blindTo_plainGet_bind rest

/-- A bootstrap under the token that was found, and what follows on it, is indifferent if what follows
is blind and looks up no other token. -/
theorem indifferent_bootstrapped {finding : Procedure ResolvedToken}
    {after : ResolvedToken → CaCerts → Procedure α}
    (finds : finding.KeepsTo [.line, .lookup])
    (shows : ∀ events resolved, finding.Runs events (.ok resolved) →
      Transcript.usedToken token scope events = resolved.token)
    (keeps : ∀ resolved trusted, (after resolved trusted).KeepsTo [.client, .hardware, .audit, .line, .file])
    (blind : ∀ resolved trusted, BlindTo resolved.token false (after resolved trusted)) :
    Indifferent (Transcript.usedToken token scope) (finding.bind fun resolved =>
      (fetcher.bootstrapper.caCerts server resolved.token scope).bind (after resolved)) := by
  refine Procedure.indifferent_bind ResolvedToken.token
    (Procedure.silent_of_keepsTo finds (by decide)) ?_ ?_
  · intro events resolved rest outcome found continued
    have keepsOff : Procedure.KeepsTo [.nonce, .client, .hardware, .audit, .line, .file]
        ((fetcher.bootstrapper.caCerts server resolved.token scope).bind (after resolved)) := by
      refine .bind (fetcher.bootstrapper.caCerts_keepsTo.wider (by simp)) fun trusted => ?_
      exact (keeps resolved trusted).wider (List.subset_cons_self _ _)
    rw [Transcript.usedToken_append_left
      (Transcript.lacks_of_keepsTo continued keepsOff (by decide))]
    exact shows events resolved found
  · intro resolved
    exact Bootstrapper.blindTo_caCerts_bind (blind resolved)

/-- A fetch is indifferent to what nobody has verified. -/
theorem indifferent_get (fetcher : Fetcher) (server token path : String) (scope : Scope) :
    Indifferent (Transcript.usedToken token scope) (fetcher.get server token path scope) := by
  cases offered : Server.resourceUrl server path with
  | error failure =>
      rw [get_eq_reject offered]
      exact Procedure.indifferent_of_blind fun _ => trivial
  | ok url =>
      rw [get_eq offered]
      refine indifferent_bootstrapped ((fetcher.usedToken_keepsTo token scope).wider (by simp)) ?_ ?_ ?_
      · intro events resolved found
        exact usedToken_of_runs found
      · intro resolved trusted
        exact (fetcher.fetchUnder_keepsTo url scope resolved trusted).wider (by simp)
      · intro resolved trusted
        rw [← Program.bind_done (fetcher.fetchUnder url scope resolved trusted)]
        exact blindTo_fetchUnder_bind fun fetched => trivial

end Fetcher

/-!
## Runs
-/

namespace Run

variable {fetcher : Fetcher} {settings : Settings}

private theorem deliver_blindTo {used : String} {gathered : Gathered} :
    BlindTo used false (deliver settings gathered) :=
  (Procedure.silent_of_keepsTo (deliver_keepsTo settings gathered) (by decide)).blindTo

private theorem masked_keepsTo (fetcher : Fetcher) (settings : Settings) :
    Procedure.KeepsTo [.line, .lookup] ((Procedure.print (.mask settings.token)).bind fun _ =>
      fetcher.usedToken settings.token settings.scope) :=
  .bind (.perform List.mem_cons_self) fun _ =>
    (fetcher.usedToken_keepsTo settings.token settings.scope).wider (by simp)

private theorem usedToken_masked {events : Transcript} {resolved : ResolvedToken}
    (runs : Program.Runs ((Procedure.print (.mask settings.token)).bind fun _ =>
      fetcher.usedToken settings.token settings.scope) events (.ok resolved)) :
    Transcript.usedToken settings.token settings.scope events = resolved.token := by
  rcases Program.runs_bind_iff.mp runs with ⟨_, first, rest, masked, found, rfl⟩ | ⟨_, _, same⟩
  · obtain rfl := Procedure.runs_perform_iff.mp masked
    rw [Transcript.usedToken_append_right, Fetcher.usedToken_of_runs found]
    exact Transcript.lacks_singleton Topic.noConfusion
  · cases same

/-- A run is indifferent to what nobody has verified. -/
theorem indifferent_withSettings (fetcher : Fetcher) (settings : Settings) :
    Indifferent (Transcript.usedToken settings.token settings.scope) (withSettings fetcher settings) := by
  cases empty : settings.path.isEmpty with
  | true =>
      rw [withSettings_eq_of_bundle empty]
      refine Fetcher.indifferent_bootstrapped (masked_keepsTo fetcher settings) ?_ ?_ ?_
      · intro events resolved found
        exact usedToken_masked found
      · intro resolved trusted
        exact (deliver_keepsTo settings _).wider (by simp)
      · intro resolved trusted
        exact deliver_blindTo
  | false =>
      cases offered : Server.resourceUrl settings.server settings.path with
      | error failure =>
          rw [withSettings_eq_of_rejected empty offered]
          refine Procedure.indifferent_of_blind fun token => ?_
          exact Procedure.Silent.blindTo_bind (Program.AsksOnly.perform rfl) fun _ => trivial
      | ok url =>
          rw [withSettings_eq_of_resource empty offered]
          refine Fetcher.indifferent_bootstrapped (masked_keepsTo fetcher settings) ?_ ?_ ?_
          · intro events resolved found
            exact usedToken_masked found
          · intro resolved trusted
            refine .bind ((fetcher.fetchUnder_keepsTo url settings.scope resolved trusted).wider (by simp)) ?_
            exact fun fetched => (deliver_keepsTo settings _).wider (by simp)
          · intro resolved trusted
            exact Fetcher.blindTo_fetchUnder_bind fun fetched => deliver_blindTo

end Run

/-- Replies that nobody has verified have no influence. Whatever the others do, and whatever the rest of
the script says: two scripts that are alike on the requests of a call differ in nothing that the call
asks for, in nothing that it leaves behind and in nothing that it ends with. -/
theorem unverified_replies_indifferent (bootstrapper : Bootstrapper) (fetcher : Fetcher)
    (server token path : String) (scope : Scope) (loaded : Except Failure Settings) :
    Indifferent (fun _ => token) (bootstrapper.caCerts server token scope) ∧
    Indifferent (Transcript.usedToken token scope) (fetcher.get server token path scope) ∧
    Indifferent
      (match loaded with
        | .ok settings => Transcript.usedToken settings.token settings.scope
        | .error _ => fun _ => token)
      (Run.start fetcher loaded) := by
  refine ⟨?bootstrap, ?fetch, ?run⟩
  case bootstrap =>
    have blind : BlindTo token true ((bootstrapper.caCerts server token scope).bind .done) :=
      Bootstrapper.blindTo_caCerts_bind fun trusted => trivial
    rw [Program.bind_done] at blind
    intro σ others state left right call alike
    exact blind.run_matches alike
  case fetch => exact Fetcher.indifferent_get fetcher server token path scope
  case run =>
    cases loaded with
    | error failure => exact Procedure.indifferent_of_blind fun _ => trivial
    | ok settings => exact Run.indifferent_withSettings fetcher settings

/-- A server that does not hold the token: its certificate is not verified, and it offers a bundle
without a response hash. -/
def forgedScript (bundle : Bytes) (number : Nat) (_ : Client) (_ : Request) : Except Thrown Reply :=
  if number = 0 then .error (.error "Error" "self-signed certificate") else .ok ⟨200, "OK", [], bundle⟩

/-- Bundles without a response hash are alike in every bootstrap. -/
theorem alikeOn_forged {bootstrapper : Bootstrapper} {server token : String} {scope : Scope}
    {events : Transcript} {outcome : Except Thrown CaCerts} (left right : Bytes)
    (runs : (bootstrapper.caCerts server token scope).Runs events outcome) :
    AlikeOn token (forgedScript left) (forgedScript right) 0 events := by
  intro index client request asked
  have shown := congrArg (Option.map fun sender => (sender.1.options.trust, sender.2)) asked
  rw [← List.getElem?_map] at shown
  change (Transcript.sent events)[index]? = some (client.options.trust, request) at shown
  have download (url nonce : String)
      (sent : (Trust.insecure, Bootstrapper.downloadRequest url nonce token) =
        (client.options.trust, request)) :
      AlikeReplies token false client request (.ok ⟨200, "OK", [], left⟩) (.ok ⟨200, "OK", [], right⟩) := by
    obtain ⟨insecure, rfl⟩ := Prod.mk.inj sent
    exact .unverified insecure.symm rfl rfl rfl rfl rfl rfl
  -- The first request meets one answer, and the second is the only one that nobody verifies.
  cases index with
  | zero => exact .same
  | succ index =>
      rcases (Bootstrapper.course_of_runs runs).sent_eq with ⟨silent, _⟩ | ⟨url, _, probed | downloaded⟩
      · rw [silent] at shown
        cases shown
      · rw [probed] at shown
        cases shown
      · rw [downloaded] at shown
        cases index with
        | zero => exact download _ _ (Option.some.inj shown)
        | succ index => cases shown

/-- Whatever bundle it offers, nobody can tell. -/
theorem unverified_replies_indifferent_forged :
    let call (bundle : Bytes) := (Bootstrapper.caCerts {} GenuineServer.address "token" .cluster).run
      ((GenuineServer.handler "token" [] []).answering (forgedScript bundle)) (0, ())
    (call [1]).Matches (call [2]) := by
  have indifferent := (unverified_replies_indifferent {} {} GenuineServer.address "token" "" .cluster
    (.error .serverMissing)).1
  apply indifferent
  exact alikeOn_forged [1] [2] (Program.runs_run _ _ _)

end JoinTrust
