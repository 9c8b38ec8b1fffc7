import JoinTrust.Proofs.Exchanges
import JoinTrust.Proofs.ResponseHash

set_option autoImplicit false

/-!
The courses that a bootstrap can take. Every conversation of `Bootstrapper.caCerts` is one of six
courses, whatever is answered and whatever throws. Facts about bootstraps are read off the courses; no
later module opens the procedures of a bootstrap again.
-/

namespace JoinTrust

open Program (closedWith)

namespace Bootstrapper

variable {url server nonce token : String} {scope : Scope}

/-!
## Steps
-/

/-- What a probe does about what was thrown: it is recorded and counts as no reply. What has no message
gets nowhere. -/
inductive Doubted (url : String) (scope : Scope) (thrown : Thrown) :
    Transcript → Except Thrown Bool → Prop where
  | recorded {answer : Except Thrown Unit} :
      thrown.silence? = none →
      Doubted url scope thrown [⟨.audit (.probeUntrusted url scope thrown.message), answer⟩]
        (closedWith answer (.ok false))
  | untold {raised : Thrown} :
      thrown.silence? = some raised → Doubted url scope thrown [] (.error raised)

/-- What a probe hears. A reply that does not get into the audit trail counts as none. -/
inductive Probed (url : String) (scope : Scope) :
    Except Thrown Reply → Transcript → Except Thrown Bool → Prop where
  | trusted {reply : Reply} :
      Probed url scope (.ok reply) [⟨.audit (.probeTrusted url scope reply.status), .ok ()⟩] (.ok true)
  | unrecorded {reply : Reply} {thrown : Thrown} {rest : Transcript} {result : Except Thrown Bool} :
      Doubted url scope thrown rest result →
      Probed url scope (.ok reply)
        (⟨.audit (.probeTrusted url scope reply.status), .error thrown⟩ :: rest) result
  | untrusted {thrown : Thrown} {rest : Transcript} {result : Except Thrown Bool} :
      Doubted url scope thrown rest result → Probed url scope (.error thrown) rest result

theorem doubted_of_runs {thrown : Thrown} {events : Transcript} {outcome : Except Thrown Bool}
    (runs : (Procedure.telling thrown ((Procedure.audit (.probeUntrusted url scope thrown.message)).bind
      fun _ => .done false)).Runs events outcome) : Doubted url scope thrown events outcome := by
  rcases Procedure.runs_telling_iff.mp runs with ⟨spoken, told⟩ | ⟨raised, silent, rfl, rfl⟩
  · obtain ⟨answer, rfl, rfl⟩ := Procedure.closedWith_of_runs_audit_done told
    exact .recorded spoken
  · exact .untold silent

theorem probed_of_runs {bootstrapper : Bootstrapper} {events : Transcript}
    {outcome : Except Thrown Bool} (runs : (bootstrapper.probe url scope).Runs events outcome) :
    Procedure.Exchanged ⟨.system, bootstrapper.timeout⟩ { url } (Probed url scope) events outcome := by
  refine Procedure.exchanged_of_runs_withClient (fun client inner result used => ?_) runs
  rcases Program.runs_recover_iff.mp used with ⟨value, tried, rfl⟩ | ⟨thrown, _, _, tried, handled, rfl⟩
  · rcases Program.runs_bind_iff.mp tried with ⟨reply, _, _, got, recorded, rfl⟩ | ⟨_, _, same⟩
    · obtain rfl := Procedure.runs_get_iff.mp got
      rcases Procedure.runs_audit_bind_iff.mp recorded with ⟨_, rfl, ran⟩ | ⟨_, _, same⟩
      · obtain ⟨rfl, same⟩ := Program.runs_done_iff.mp ran
        cases same
        exact ⟨.ok reply, _, rfl, .trusted⟩
      · cases same
    · cases same
  -- What was thrown is what the request threw, or what the trail threw at a reply.
  · have doubted := doubted_of_runs handled
    rcases Program.runs_bind_iff.mp tried with ⟨reply, _, _, got, recorded, rfl⟩ | ⟨_, got, same⟩
    · obtain rfl := Procedure.runs_get_iff.mp got
      rcases Procedure.runs_audit_bind_iff.mp recorded with ⟨_, _, ran⟩ | ⟨_, rfl, same⟩
      · cases (Program.runs_done_iff.mp ran).2
      · cases same
        exact ⟨.ok reply, _, rfl, .unrecorded doubted⟩
    · cases same
      obtain rfl := Procedure.runs_get_iff.mp got
      exact ⟨.error thrown, _, rfl, .untrusted doubted⟩

def downloadFailure (url : String) (scope : Scope) (thrown : Thrown) : Audit.Entry :=
  .bootstrapFailed url scope .transport (Failure.download url thrown).sentence none

abbrev Downloaded (url : String) (scope : Scope) :
    Except Thrown Reply → Transcript → Except Thrown Reply → Prop :=
  Procedure.Told (downloadFailure url scope) (Failure.download url)

theorem downloaded_of_runs {bootstrapper : Bootstrapper} {events : Transcript}
    {outcome : Except Thrown Reply}
    (runs : (bootstrapper.download url scope nonce token).Runs events outcome) :
    Procedure.Exchanged ⟨.insecure, bootstrapper.timeout⟩ (downloadRequest url nonce token)
      (Downloaded url scope) events outcome :=
  Procedure.exchanged_of_runs_withClient (fun _ _ _ used => Procedure.told_of_runs used) runs

def conclusion (url : String) (scope : Scope) (status : Int) : Except Failure CaCerts → Audit.Entry
  | .error failure => .bootstrapFailed url scope failure.kind failure.sentence (some status)
  | .ok trusted =>
    match trusted.bundle with
    | none => .bootstrapEmpty url scope
    | some bundle => .bootstrapVerified url scope trusted.checksum bundle.length

/-- A judgement is recorded once, and only a trail that does not take it changes the end. -/
theorem concluded_of_runs {status : Int} {judgement : Except Failure CaCerts} {events : Transcript}
    {outcome : Except Thrown CaCerts} (runs : (conclude url scope status judgement).Runs events outcome) :
    ∃ answer, events = [⟨.audit (conclusion url scope status judgement), answer⟩] ∧
      outcome = closedWith answer (judgement.mapError .failure) := by
  cases judgement with
  | error failure => exact Procedure.closedWith_of_runs_audit_reject runs
  | ok trusted =>
      obtain ⟨bundle, checksum⟩ := trusted
      cases bundle with
      | none => exact Procedure.closedWith_of_runs_audit_done runs
      | some bundle => exact Procedure.closedWith_of_runs_audit_done runs

/-- A nonce that cannot be had is told of; a nonce that can is used as it comes. -/
theorem nonce_of_runs_nextNonce {bootstrapper : Bootstrapper} {events : Transcript}
    {outcome : Except Thrown String} (runs : bootstrapper.nextNonce.Runs events outcome) :
    ∃ drawn, bootstrapper.nonces.next.Runs events drawn ∧
      outcome = drawn.mapError fun thrown => thrown.toldAs .nonceGeneration := by
  rcases Program.runs_recover_iff.mp runs with ⟨nonce, ran, rfl⟩ | ⟨thrown, _, _, ran, rejected, rfl⟩
  · exact ⟨.ok nonce, ran, rfl⟩
  · rw [Procedure.telling_reject] at rejected
    obtain ⟨rfl, rfl⟩ := Program.runs_fail_iff.mp rejected
    exact ⟨.error thrown, by simpa using ran, rfl⟩

/-!
## Courses
-/

/-- The courses of a bootstrap, one for every step at which it can end. -/
inductive Course (bootstrapper : Bootstrapper) (server token : String) (scope : Scope) :
    Transcript → Except Thrown CaCerts → Prop where
  | nonceFailed {drawing : Transcript} {thrown : Thrown} :
      bootstrapper.nonces.next.Runs drawing (.error thrown) →
      Course bootstrapper server token scope drawing (.error (thrown.toldAs .nonceGeneration))
  | serverRejected {drawing : Transcript} {nonce : String} {failure : Failure} :
      bootstrapper.nonces.next.Runs drawing (.ok nonce) →
      Server.caUrl server scope = .error failure →
      Course bootstrapper server token scope drawing (.error (.failure failure))
  | probeFailed {drawing probing : Transcript} {nonce url : String} {thrown : Thrown} :
      bootstrapper.nonces.next.Runs drawing (.ok nonce) →
      Server.caUrl server scope = .ok url →
      Procedure.Exchanged ⟨.system, bootstrapper.timeout⟩ { url } (Probed url scope) probing
        (.error thrown) →
      Course bootstrapper server token scope (drawing ++ probing) (.error thrown)
  | trusted {drawing probing : Transcript} {nonce url : String} :
      bootstrapper.nonces.next.Runs drawing (.ok nonce) →
      Server.caUrl server scope = .ok url →
      Procedure.Exchanged ⟨.system, bootstrapper.timeout⟩ { url } (Probed url scope) probing
        (.ok true) →
      Course bootstrapper server token scope (drawing ++ probing) (.ok .noOverride)
  | downloadFailed {drawing probing download : Transcript} {nonce url : String} {thrown : Thrown} :
      bootstrapper.nonces.next.Runs drawing (.ok nonce) →
      Server.caUrl server scope = .ok url →
      Procedure.Exchanged ⟨.system, bootstrapper.timeout⟩ { url } (Probed url scope) probing
        (.ok false) →
      Procedure.Exchanged ⟨.insecure, bootstrapper.timeout⟩ (downloadRequest url nonce token)
        (Downloaded url scope) download (.error thrown) →
      Course bootstrapper server token scope (drawing ++ (probing ++ download)) (.error thrown)
  | judged {drawing probing download : Transcript} {nonce url : String} {reply : Reply}
      {answer : Except Thrown Unit} :
      bootstrapper.nonces.next.Runs drawing (.ok nonce) →
      Server.caUrl server scope = .ok url →
      Procedure.Exchanged ⟨.system, bootstrapper.timeout⟩ { url } (Probed url scope) probing
        (.ok false) →
      Procedure.Exchanged ⟨.insecure, bootstrapper.timeout⟩ (downloadRequest url nonce token)
        (Downloaded url scope) download (.ok reply) →
      Course bootstrapper server token scope
        (drawing ++ (probing ++ (download ++
          [⟨.audit (conclusion url scope reply.status (reply.judge token nonce)), answer⟩])))
        (closedWith answer ((reply.judge token nonce).mapError .failure))

private theorem course_of_runs_probe {bootstrapper : Bootstrapper} {drawing events : Transcript}
    {outcome : Except Thrown CaCerts} (drew : bootstrapper.nonces.next.Runs drawing (.ok nonce))
    (accepted : Server.caUrl server scope = .ok url)
    (runs : Program.Runs ((bootstrapper.probe url scope).bind fun trusted =>
      if trusted then .done .noOverride
      else (bootstrapper.download url scope nonce token).bind fun reply =>
        conclude url scope reply.status (reply.judge token nonce)) events outcome) :
    Course bootstrapper server token scope (drawing ++ events) outcome := by
  rcases Program.runs_bind_iff.mp runs with ⟨trusted, probing, _, probed, went, rfl⟩ |
    ⟨thrown, probed, rfl⟩
  · have probed := probed_of_runs probed
    cases trusted with
    | true =>
        obtain ⟨rfl, rfl⟩ := Program.runs_done_iff.mp went
        rw [List.append_nil]
        exact .trusted drew accepted probed
    | false =>
        rcases Program.runs_bind_iff.mp went with ⟨reply, download, _, replied, judged, rfl⟩ |
          ⟨thrown, failed, rfl⟩
        · obtain ⟨answer, rfl, rfl⟩ := concluded_of_runs judged
          exact .judged drew accepted probed (downloaded_of_runs replied)
        · exact .downloadFailed drew accepted probed (downloaded_of_runs failed)
  · exact .probeFailed drew accepted (probed_of_runs probed)

/-- Every conversation of a bootstrap takes one of the courses. -/
theorem course_of_runs {bootstrapper : Bootstrapper} {events : Transcript}
    {outcome : Except Thrown CaCerts}
    (runs : (bootstrapper.caCerts server token scope).Runs events outcome) :
    Course bootstrapper server token scope events outcome := by
  rcases Program.runs_bind_iff.mp runs with ⟨nonce, drawing, _, next, went, rfl⟩ | ⟨_, next, rfl⟩
  · obtain ⟨drawn, drew, same⟩ := nonce_of_runs_nextNonce next
    cases drawn with
    | error thrown => cases same
    | ok drawn =>
        cases same
        rcases Procedure.runs_ofResult_bind_iff.mp went with ⟨url, accepted, went⟩ | ⟨failure, rejected, rfl, rfl⟩
        · exact course_of_runs_probe drew accepted went
        · rw [List.append_nil]
          exact .serverRejected drew rejected
  · obtain ⟨drawn, drew, same⟩ := nonce_of_runs_nextNonce next
    cases drawn with
    | ok drawn => cases same
    | error thrown =>
        cases same
        exact .nonceFailed drew

/-!
## Topics
-/

theorem doubted_lacks {thrown : Thrown} {rest : Transcript} {result : Except Thrown Bool} {topic : Topic}
    (doubted : Doubted url scope thrown rest result) (other : topic ≠ .audit) :
    Transcript.Lacks topic rest := by
  cases doubted with
  | recorded => exact Transcript.lacks_singleton other
  | untold => exact Transcript.lacks_nil

theorem probed_lacks {heard : Except Thrown Reply} {inner : Transcript}
    {result : Except Thrown Bool} {topic : Topic} (probed : Probed url scope heard inner result)
    (other : topic ≠ .audit) : Transcript.Lacks topic inner := by
  cases probed with
  | trusted => exact Transcript.lacks_singleton other
  | unrecorded doubted => exact Transcript.lacks_cons_iff.mpr ⟨other.symm, doubted_lacks doubted other⟩
  | untrusted doubted => exact doubted_lacks doubted other

theorem drawLetters_keepsTo (count : Nat) : (Nonce.drawLetters count).KeepsTo [.nonce] := by
  induction count with
  | zero => trivial
  | succ count ih => exact .bind (.perform (by decide)) fun draw => .bind ih fun rest => trivial

theorem next_keepsTo (source : Nonce.Source) : source.next.KeepsTo [.nonce] := by
  cases source with
  | generated => exact .bind (drawLetters_keepsTo _) fun letters => trivial
  | supplied => exact .perform (by decide)

theorem nextNonce_keepsTo (bootstrapper : Bootstrapper) : bootstrapper.nextNonce.KeepsTo [.nonce] :=
  .recover (next_keepsTo _) fun _ => .telling trivial

theorem refuse_keepsTo {α : Type} {topics : List Topic} {failure : Failure} {status : Option Int}
    (among : .audit ∈ topics) : (refuse url scope failure status : Procedure α).KeepsTo topics :=
  .bind (.audit among) fun _ => trivial

theorem probe_keepsTo (bootstrapper : Bootstrapper) :
    (bootstrapper.probe url scope).KeepsTo [.client, .audit] := by
  refine .withClient (by decide) fun client => .recover ?_ fun thrown => ?_
  · exact .bind (.get (by decide)) fun reply => .bind (.audit (by decide)) fun _ => trivial
  · exact .telling (.bind (.audit (by decide)) fun _ => trivial)

theorem download_keepsTo (bootstrapper : Bootstrapper) :
    (bootstrapper.download url scope nonce token).KeepsTo [.client, .audit] :=
  .withClient (by decide) fun client =>
    .recover (.get (by decide)) fun thrown => .telling (refuse_keepsTo (by decide))

theorem conclude_keepsTo {status : Int} (judgement : Except Failure CaCerts) :
    (conclude url scope status judgement).KeepsTo [.audit] := by
  cases judgement with
  | error failure => exact refuse_keepsTo (by decide)
  | ok trusted =>
      obtain ⟨bundle, checksum⟩ := trusted
      cases bundle <;> exact .bind (.audit (by decide)) fun _ => trivial

/-- What follows on a nonce in a bootstrap. -/
def proceed (bootstrapper : Bootstrapper) (server token : String) (scope : Scope) (nonce : String) :
    Procedure CaCerts :=
  (Procedure.ofResult (Server.caUrl server scope)).bind fun url =>
    (bootstrapper.probe url scope).bind fun trusted =>
      if trusted then .done .noOverride
      else (bootstrapper.download url scope nonce token).bind fun reply =>
        conclude url scope reply.status (reply.judge token nonce)

theorem caCerts_eq (bootstrapper : Bootstrapper) (server token : String) (scope : Scope) :
    bootstrapper.caCerts server token scope =
      bootstrapper.nextNonce.bind (bootstrapper.proceed server token scope) := rfl

theorem proceed_keepsTo (bootstrapper : Bootstrapper) (nonce : String) :
    (bootstrapper.proceed server token scope nonce).KeepsTo [.client, .audit] := by
  refine .bind (.ofResult _) fun url => .bind bootstrapper.probe_keepsTo fun trusted => ?_
  cases trusted with
  | true => trivial
  | false => exact .bind bootstrapper.download_keepsTo fun reply => (conclude_keepsTo _).wider (by simp)

theorem caCerts_keepsTo (bootstrapper : Bootstrapper) :
    (bootstrapper.caCerts server token scope).KeepsTo [.nonce, .client, .audit] :=
  .bind (bootstrapper.nextNonce_keepsTo.wider (by simp)) fun nonce =>
    (bootstrapper.proceed_keepsTo nonce).wider (by simp)

end Bootstrapper

end JoinTrust
