import JoinTrust.Fetch
import JoinTrust.Proofs.Calm

set_option autoImplicit false

/-!
A server that holds the token and that the roots of the host do not verify. Every bootstrap against it
succeeds with the bundle that it offers, and every fetch gets its resource under that bundle, so that
the premises of later statements about verified bundles can be met.
-/

namespace JoinTrust

/-- The reply of a server that holds the token: the bundle, under the response hash for the nonce of
the request. -/
def GenuineServer.reply (token : String) (bundle : Bytes) (request : Request) : Reply where
  status := 200
  statusText := "OK"
  headers := [("x-cattle-hash",
    Integrity.responseHash token ((request.headers.get? "X-Cattle-Nonce").getD "") bundle)]
  body := bundle

/-- The world of a server that holds the token. The roots of the host do not verify it; whoever pins a
bundle gets the resource. -/
def GenuineServer.handler (token : String) (bundle resource : Bytes) :
    Handler Command Command.Answer Unit where
  answer _
    | .nonce => ((), .ok "nonce")
    | .draw _ => ((), .ok 0)
    | .create _ => ((), .ok 0)
    | .get client request =>
      match client.options.trust with
      | .system => ((), .error (.error "Error" "self-signed certificate"))
      | .insecure => ((), .ok (reply token bundle request))
      | .pinned _ => ((), .ok ⟨200, "OK", [], resource⟩)
    | .close _ => ((), .ok ())
    | .resolve _ => ((), .ok ⟨false, token⟩)
    | .unsealToken _ => ((), .ok token)
    | .fetchHardware _ _ => ((), .ok resource)
    | .audit _ => ((), .ok ())
    | .write _ _ _ => ((), .ok ())
    | .print _ => ((), .ok ())

/-!
## Worlds with a fault
-/

/-- The world in which these operations fail with this, and everything else is as it was. -/
def Handler.failing {σ : Type} (others : Handler Command Command.Answer σ) (fails : Command → Bool)
    (thrown : Thrown) : Handler Command Command.Answer σ where
  answer state command :=
    if fails command then (state, .error thrown) else others.answer state command

theorem Handler.calm_failing {σ : Type} {others : Handler Command Command.Answer σ} {fails : Command → Bool}
    {thrown : Thrown} (calm : ∀ state op, Event.Calm ⟨op, (others.answer state op).2⟩)
    (spares : ∀ op answer, fails op = true → Event.Calm ⟨op, answer⟩) (state : σ) (op : Command) :
    Event.Calm ⟨op, ((others.failing fails thrown).answer state op).2⟩ := by
  cases faulty : fails op with
  | true => exact spares op _ faulty
  | false =>
      simp only [failing, faulty, Bool.false_eq_true, if_false]
      exact calm state op

/-- The requests of clients with this trust. -/
def Command.getsUnder (trust : Trust) : Command → Bool
  | .get client _ => client.options.trust = trust
  | _ => false

theorem Command.calm_of_getsUnder {trust : Trust} (op : Command) (answer : Except Thrown op.Answer)
    (gets : op.getsUnder trust = true) : Event.Calm ⟨op, answer⟩ := by
  cases op with
  | get client request => trivial
  | _ => cases gets

/-- An object that has a field in place of the way it reads, and so no message. -/
def Thrown.speechless : Thrown :=
  .value (.obj [("toString", .str "")])

/-!
## The genuine server
-/

namespace GenuineServer

variable {server token path url resourceUrl nonce : String} {scope : Scope} {bundle resource : Bytes}

theorem calm (token : String) (bundle resource : Bytes) (state : Unit) (op : Command) :
    Event.Calm ⟨op, ((handler token bundle resource).answer state op).2⟩ := by
  cases op with
  | create options => exact ⟨0, rfl⟩
  | close client => rfl
  | audit entry => rfl
  | _ => trivial

private theorem drawLetters_succeeds (token : String) (bundle resource : Bytes) (count : Nat) :
    ∃ letters, ((Nonce.drawLetters count).run (handler token bundle resource) ()).outcome = .ok letters := by
  induction count with
  | zero => exact ⟨[], rfl⟩
  | succ count ih =>
      obtain ⟨letters, drawn⟩ := ih
      refine ⟨Nonce.letter 0 :: letters, ?_⟩
      exact Program.outcome_bind_of_ok drawn

private theorem nextNonce_succeeds (token : String) (bundle resource : Bytes)
    (bootstrapper : Bootstrapper) :
    ∃ nonce, (bootstrapper.nextNonce.run (handler token bundle resource) ()).outcome = .ok nonce := by
  have drawn : ∃ nonce,
      (bootstrapper.nonces.next.run (handler token bundle resource) ()).outcome = .ok nonce := by
    cases bootstrapper.nonces with
    | generated =>
        obtain ⟨letters, drawn⟩ := drawLetters_succeeds token bundle resource Nonce.length
        exact ⟨String.ofList letters, Program.outcome_bind_of_ok drawn⟩
    | supplied => exact ⟨"nonce", rfl⟩
  obtain ⟨nonce, succeeded⟩ := drawn
  refine ⟨nonce, ?_⟩
  rw [Bootstrapper.nextNonce, Program.run_recover, succeeded]
  exact succeeded

theorem judge_reply (token nonce : String) (bundle : Bytes) :
    (reply token bundle (Bootstrapper.downloadRequest url nonce token)).judge token nonce =
      .ok (CaCerts.ofBody bundle) :=
  Reply.judge_eq_ok_iff.mpr ⟨rfl, rfl, rfl⟩

/-- A server that holds the token gets its bundle through, whatever the roots of the host say. -/
theorem caCerts_succeeds (bootstrapper : Bootstrapper) (accepted : Server.caUrl server scope = .ok url) :
    ((bootstrapper.caCerts server token scope).run (handler token bundle resource) ()).outcome =
      .ok (CaCerts.ofBody bundle) := by
  obtain ⟨nonce, drawn⟩ := nextNonce_succeeds token bundle resource bootstrapper
  have probed : ((bootstrapper.probe url scope).run (handler token bundle resource) ()).outcome =
      .ok false := rfl
  have downloaded : ((bootstrapper.download url scope nonce token).run
      (handler token bundle resource) ()).outcome =
      .ok (reply token bundle (Bootstrapper.downloadRequest url nonce token)) := rfl
  refine (Program.outcome_bind_of_ok drawn).trans ?_
  rw [accepted]
  refine (Program.outcome_bind_of_ok probed).trans ?_
  refine (Program.outcome_bind_of_ok downloaded).trans ?_
  rw [judge_reply]
  cases bundle <;> rfl

/-- A resource is fetched under the bundle of the server. -/
theorem get_succeeds (fetcher : Fetcher) {content : Bytes} (nonempty : content ≠ [])
    (accepted : Server.caUrl server .cluster = .ok url)
    (offered : Server.resourceUrl server path = .ok resourceUrl) :
    ((fetcher.get server token path .cluster).run (handler token content resource) ()).outcome =
      .ok ⟨resource, some content, Integrity.checksum content⟩ := by
  have bootstrapped : ((fetcher.bootstrapper.caCerts server token .cluster).run
      (handler token content resource) ()).outcome = .ok (CaCerts.ofBody content) :=
    caCerts_succeeds fetcher.bootstrapper accepted
  have established : ((fetcher.establish server token .cluster).run
      (handler token content resource) ()).outcome =
      .ok ⟨⟨false, token⟩, CaCerts.ofBody content⟩ := Program.outcome_bind_of_ok bootstrapped
  rw [Fetcher.get, offered]
  refine (Program.outcome_bind_of_ok established).trans ?_
  cases content with
  | nil => exact absurd rfl nonempty
  | cons octet rest => rfl

def address : String := "https://rancher.local"

theorem eq_ok_of_toOption {α : Type} {result : Except Failure α} {value : α}
    (same : result.toOption = some value) : result = .ok value := by
  cases result with
  | error failure => cases same
  | ok other =>
      cases same
      rfl

theorem caUrl_address : Server.caUrl address .cluster = .ok "https://rancher.local/cacerts" :=
  eq_ok_of_toOption (by decide +kernel)

theorem parse_address : ∃ url, Server.parse address = .ok url := by
  cases parsed : Server.parse address with
  | ok url => exact ⟨url, rfl⟩
  | error failure =>
      have rejected : Server.caUrl address .cluster = .error failure := by
        rw [Server.caUrl, parsed]
        rfl
      cases caUrl_address.symm.trans rejected

theorem resourceUrl_address :
    Server.resourceUrl address "/v3/import" = .ok "https://rancher.local/v3/import" :=
  eq_ok_of_toOption (by decide +kernel)

end GenuineServer

end JoinTrust
