import JoinTrust.Proofs.GenuineServer

set_option autoImplicit false

/-!
The exact end of a bootstrap whose conversation is calm. The nonce, the address and the replies decide
it: the first of the checks that fails names the failure, and emptiness of a body is looked at after
everything else. The cases leave nothing out.
-/

namespace JoinTrust

/-- A call ends with a failure of this class. -/
def RejectedAs {α : Type} (kind : FailureKind) (outcome : Except Thrown α) : Prop :=
  ∃ failure, outcome = .error (.failure failure) ∧ failure.kind = kind

/-- A call ends with a failure of this class that has what was thrown as its cause. If nothing was
thrown, it has none, and if what was thrown has no message, asking for that is how the call ends. -/
def RejectedFor {α : Type} (kind : FailureKind) (thrown : Thrown) (outcome : Except Thrown α) : Prop :=
  match thrown.silence? with
  | some raised => outcome = .error raised
  | none => ∃ failure, outcome = .error (.failure failure) ∧ failure.kind = kind ∧
      failure.cause? = match thrown with
        | .undefined => none
        | thrown => some thrown

/-- What the reply to the request for a bundle comes to: first its status counts, then its response
hash, and last whether there is anything in it. -/
def Reply.Settles (token nonce : String) (reply : Reply) (outcome : Except Thrown CaCerts) : Prop :=
  if reply.status ≠ 200 then RejectedAs .badStatus outcome
  else if reply.headers.get? "x-cattle-hash" ≠
      some (Integrity.responseHash token nonce reply.body) then
    RejectedAs .integrityMismatch outcome
  else if reply.body = [] then outcome = .ok ⟨none, ""⟩
  else outcome = .ok ⟨some reply.body, Text.Hex.encode (Digest.Sha256.hash reply.body)⟩

/-- What a bootstrap comes to. Without a nonce or an address there is no client. A reply to the probe is
the only one, and a failed request for the bundle leaves what it failed with as the cause. A probe that
failed with something of no message is the end. -/
def Bootstrapper.Settles (token : String) (drawn : Except Thrown String)
    (address : Except Failure String) (transcript : Transcript) (outcome : Except Thrown CaCerts) : Prop :=
  match drawn, address with
  | .error thrown, _ => RejectedFor .configuration thrown outcome ∧ transcript.Lacks .client
  | .ok _, .error _ => RejectedAs .configuration outcome ∧ transcript.Lacks .client
  | .ok nonce, .ok _ =>
    match transcript.replies with
    | [.ok _] => outcome = .ok ⟨none, ""⟩
    | [.error thrown] => ∃ raised, thrown.silence? = some raised ∧ outcome = .error raised
    | [.error probe, .error thrown] => probe.silence? = none ∧ RejectedFor .transport thrown outcome
    | [.error probe, .ok reply] => probe.silence? = none ∧ reply.Settles token nonce outcome
    | _ => False

/-- What was thrown on account of something is a failure for it. -/
theorem rejectedFor_toldAs {α : Type} (thrown : Thrown) (failure : Thrown → Failure)
    (caused : (failure thrown).underlying = thrown) :
    RejectedFor (failure thrown).kind thrown (.error (thrown.toldAs failure) : Except Thrown α) := by
  unfold RejectedFor Thrown.toldAs
  cases silent : thrown.silence? with
  | some raised => rfl
  | none =>
      refine ⟨failure thrown, rfl, rfl, ?_⟩
      unfold Failure.cause?
      generalize (failure thrown).underlying = underlying at caused
      subst caused
      cases underlying <;> rfl

theorem Server.kind_of_parse {address : String} {failure : Failure}
    (rejected : Server.parse address = .error failure) : failure.kind = .configuration := by
  unfold Server.parse at rejected
  split at rejected
  · cases rejected
    rfl
  · split at rejected
    · cases rejected
      rfl
    · cases rejected

theorem Server.kind_of_map_parse {β : Type} {derive : Url → β} {address : String} {failure : Failure}
    (rejected : (Server.parse address).map derive = .error failure) : failure.kind = .configuration := by
  cases parsed : Server.parse address with
  | ok url =>
      rw [parsed] at rejected
      cases rejected
  | error cause =>
      rw [parsed] at rejected
      cases rejected
      exact Server.kind_of_parse parsed

theorem Server.kind_of_caUrl {address : String} {scope : Scope} {failure : Failure}
    (rejected : Server.caUrl address scope = .error failure) : failure.kind = .configuration :=
  Server.kind_of_map_parse rejected

theorem Reply.settles_judge (token nonce : String) (reply : Reply) :
    reply.Settles token nonce ((reply.judge token nonce).mapError .failure) := by
  simp only [Reply.Settles, Reply.judge, hashHeaderKey_eq]
  by_cases status : reply.status ≠ 200
  · rw [if_pos status, if_pos status]
    exact ⟨_, rfl, rfl⟩
  · rw [if_neg status, if_neg status]
    by_cases hash : reply.headers.get? "x-cattle-hash" =
        some (Integrity.responseHash token nonce reply.body)
    · rw [if_neg (not_not_intro hash), Integrity.verify_eq_true_iff.mpr hash, if_neg (by decide : ¬true = false)]
      cases body : reply.body with
      | nil =>
          rw [if_pos rfl]
          rfl
      | cons octet rest =>
          rw [if_neg (List.cons_ne_nil octet rest)]
          rfl
    · have unverified : Integrity.verify token nonce reply.body
          (reply.headers.get? "x-cattle-hash") = false := by
        rw [← Bool.not_eq_true, Integrity.verify_eq_true_iff]
        exact hash
      rw [if_pos hash, unverified, if_pos rfl]
      exact ⟨_, rfl, rfl⟩

namespace Bootstrapper

variable {bootstrapper : Bootstrapper} {server token : String} {scope : Scope} {events : Transcript}

/-- The source of nonces speaks first, whatever comes of a bootstrap. -/
private theorem drawn_first {σ : Type} (handler : Handler Command Command.Answer σ) (state : σ)
    (bootstrapper : Bootstrapper) (server token : String) (scope : Scope) :
    ∃ rest, ((bootstrapper.caCerts server token scope).run handler state).events =
      (bootstrapper.nonces.next.run handler state).events ++ rest := by
  obtain ⟨later, bound⟩ := Program.events_bind handler state bootstrapper.nextNonce
    (bootstrapper.proceed server token scope)
  obtain ⟨told, recovered⟩ := Program.events_recover handler state bootstrapper.nonces.next
    fun thrown => Procedure.telling thrown (Procedure.reject (.nonceGeneration thrown))
  refine ⟨told ++ later, ?_⟩
  rw [← List.append_assoc, ← recovered, caCerts_eq]
  exact bound

private theorem undrawn_replies {source : Nonce.Source} {drawn : Except Thrown String}
    (drew : source.next.Runs events drawn) : Transcript.replies events = [] :=
  Transcript.replies_eq_nil (drawing_lacks drew (by decide))

/-- A calm course ends as the nonce that it drew, the address and its replies decide. -/
theorem Course.settles {outcome : Except Thrown CaCerts}
    (course : Course bootstrapper server token scope events outcome) (calm : Transcript.Calm events) :
    ∃ drawing rest drawn, bootstrapper.nonces.next.Runs drawing drawn ∧ events = drawing ++ rest ∧
      Settles token drawn (Server.caUrl server scope) events outcome := by
  cases course with
  | @nonceFailed _ thrown drew =>
      refine ⟨events, [], .error thrown, drew, (List.append_nil _).symm, rejectedFor_toldAs thrown .nonceGeneration rfl, ?_⟩
      exact drawing_lacks drew (by decide)
  | @serverRejected _ nonce failure drew rejected =>
      refine ⟨events, [], .ok nonce, drew, (List.append_nil _).symm, ?_⟩
      rw [rejected]
      refine ⟨⟨_, rfl, Server.kind_of_caUrl rejected⟩, ?_⟩
      exact drawing_lacks drew (by decide)
  | @probeFailed drawing probing nonce url thrown drew accepted probed =>
      obtain ⟨_, calm⟩ := Transcript.calm_append_iff.mp calm
      refine ⟨drawing, probing, .ok nonce, drew, rfl, ?_⟩
      obtain ⟨cause, replies, silent, _⟩ := probed_of_calm probed calm
      simp only [Settles, accepted, Transcript.replies_append, undrawn_replies drew, replies]
      exact ⟨thrown, silent, rfl⟩
  | @trusted drawing probing nonce url drew accepted probed =>
      obtain ⟨_, calm⟩ := Transcript.calm_append_iff.mp calm
      refine ⟨drawing, probing, .ok nonce, drew, rfl, ?_⟩
      obtain ⟨reply, replies, _⟩ := probed_of_calm probed calm
      simp only [Settles, accepted, Transcript.replies_append, undrawn_replies drew, replies]
      rfl
  | @downloadFailed drawing probing download nonce url thrown drew accepted probed downloaded =>
      obtain ⟨_, calm⟩ := Transcript.calm_append_iff.mp calm
      obtain ⟨calmProbing, calmDownload⟩ := Transcript.calm_append_iff.mp calm
      refine ⟨drawing, probing ++ download, .ok nonce, drew, rfl, ?_⟩
      obtain ⟨cause, replies, spoken, _⟩ := probed_of_calm probed calmProbing
      obtain ⟨refusal, replied, _, rfl⟩ := downloaded.told_of_calm calmDownload
      simp only [Settles, accepted, Transcript.replies_append, undrawn_replies drew, replies, replied]
      exact ⟨spoken, rejectedFor_toldAs refusal (.download url) rfl⟩
  | @judged drawing probing download nonce url reply answer drew accepted probed downloaded =>
      obtain ⟨_, calm⟩ := Transcript.calm_append_iff.mp calm
      obtain ⟨calmProbing, calm⟩ := Transcript.calm_append_iff.mp calm
      obtain ⟨calmDownload, calm⟩ := Transcript.calm_append_iff.mp calm
      obtain ⟨taken, _⟩ := Transcript.calm_cons_iff.mp calm
      cases taken
      refine ⟨drawing, _, .ok nonce, drew, rfl, ?_⟩
      obtain ⟨cause, replies, spoken, _⟩ := probed_of_calm probed calmProbing
      obtain ⟨replied, _⟩ := downloaded.told_of_calm calmDownload
      simp only [Settles, accepted, Transcript.replies_append, undrawn_replies drew, replies, replied]
      exact ⟨spoken, reply.settles_judge token nonce⟩

/-- In a calm conversation a bootstrap ends exactly as its nonce, its address and its replies decide. -/
theorem caCerts_settles {σ : Type} (handler : Handler Command Command.Answer σ) (state : σ)
    (bootstrapper : Bootstrapper) (server token : String) (scope : Scope)
    (calm : Transcript.Calm ((bootstrapper.caCerts server token scope).run handler state).events) :
    let call := (bootstrapper.caCerts server token scope).run handler state
    Settles token (bootstrapper.nonces.next.run handler state).outcome (Server.caUrl server scope)
      call.events call.outcome := by
  obtain ⟨drawing, rest, drawn, drew, same, settles⟩ :=
    (course_of_runs (Program.runs_run handler state _)).settles calm
  obtain ⟨others, first⟩ := drawn_first handler state bootstrapper server token scope
  -- The source of nonces holds one conversation, so that what it yielded here is what it yields alone.
  obtain ⟨_, rfl⟩ := (Program.runs_run handler state bootstrapper.nonces.next).unique drew
    (first.symm.trans same)
  exact settles

theorem caCerts_settles_genuine :
    let call := (caCerts {} GenuineServer.address "token" .cluster).run
      (GenuineServer.handler "token" [1] [2]) ()
    Transcript.Calm call.events ∧
      Settles "token" (Nonce.Source.generated.next.run (GenuineServer.handler "token" [1] [2]) ()).outcome
        (Server.caUrl GenuineServer.address .cluster) call.events call.outcome := by
  have calm : Transcript.Calm ((caCerts {} GenuineServer.address "token" .cluster).run
      (GenuineServer.handler "token" [1] [2]) ()).events :=
    Program.calm_run (GenuineServer.calm "token" [1] [2]) () _
  exact ⟨calm, caCerts_settles (GenuineServer.handler "token" [1] [2]) () {} GenuineServer.address
    "token" .cluster calm⟩

/-- A download that fails with something of no message is rejected with no failure at all. -/
theorem speechless_download_untyped :
    let world := (GenuineServer.handler "token" [1] [2]).failing (Command.getsUnder .insecure) .speechless
    let call := (caCerts { nonces := .supplied } GenuineServer.address "token" .cluster).run world ()
    Transcript.Calm call.events ∧
      Transcript.replies call.events =
        [.error (.error "Error" "self-signed certificate"), .error .speechless] ∧
      call.outcome = .error (.error "TypeError" "Cannot convert object to primitive value") ∧
      ¬ RejectedAs .transport call.outcome := by
  intro world call
  have ran : Transcript.replies call.events =
        [.error (.error "Error" "self-signed certificate"), .error .speechless] ∧
      call.outcome = .error (.error "TypeError" "Cannot convert object to primitive value") := by
    simp only [call, caCerts, GenuineServer.caUrl_address, Procedure.ofResult]
    exact ⟨rfl, rfl⟩
  refine ⟨?_, ran.1, ran.2, ?_⟩
  · exact Program.calm_run
      (Handler.calm_failing (GenuineServer.calm "token" [1] [2]) Command.calm_of_getsUnder) () _
  · rw [ran.2]
    intro rejected
    obtain ⟨failure, same, _⟩ := rejected
    cases same

end Bootstrapper

end JoinTrust
