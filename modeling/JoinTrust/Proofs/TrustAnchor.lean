import JoinTrust.Artifact
import JoinTrust.Proofs.Base64Form
import JoinTrust.Proofs.BootstrapEvidence
import JoinTrust.Proofs.GenuineServer

set_option autoImplicit false

/-!
The file that makes a bundle a trust anchor. It is a bootstrap with its bundle written down in base 64. Empty content
can say that there is no bundle because no bundle is empty.
-/

namespace JoinTrust

open Transcript (Authenticates)

variable {σ : Type} {handler : Handler Command Command.Answer σ} {state : σ} {bootstrapper : Bootstrapper}
  {server token : String} {scope : Scope} {trusted : CaCerts} {bundle : Bytes}

/-- The bundle that a bootstrap comes to is authenticated by it. -/
theorem Bootstrapper.authenticates_of_run
    (succeeded : ((bootstrapper.caCerts server token scope).run handler state).outcome = .ok trusted)
    (present : trusted.bundle = some bundle) :
    Authenticates ((bootstrapper.caCerts server token scope).run handler state).events token bundle := by
  apply Transcript.authenticates_of_verifiedBundle?
  rw [← present]
  exact ((Bootstrapper.course_of_runs (Program.runs_run handler state _)).bundle_eq succeeded).symm

namespace Artifact

/-- A trust anchor says what its bootstrap says, and ends as that does. -/
theorem run_anchor (handler : Handler Command Command.Answer σ) (state : σ) (bootstrapper : Bootstrapper)
    (server token : String) :
    (anchor bootstrapper server token).run handler state =
      ⟨((bootstrapper.caCerts server token .cluster).run handler state).state,
        ((bootstrapper.caCerts server token .cluster).run handler state).events,
        ((bootstrapper.caCerts server token .cluster).run handler state).outcome.map fun trusted =>
          ofBundle trusted.bundle⟩ := by
  rw [anchor, Program.bind_eq, Program.run_bind]
  cases ((bootstrapper.caCerts server token .cluster).run handler state).outcome with
  | error thrown => rfl
  | ok trusted => simp [Program.run, Except.map]

theorem decode?_content_ofBundle (bundle : Bytes) :
    Text.Base64.decode? (ofBundle (some bundle)).content = some bundle :=
  Text.Base64.decode?_encode bundle

/-- Without empty bundles, empty content tells that there is none. -/
theorem content_ofBundle_eq_empty_iff {bundle : Option Bytes} (full : ∀ octets, bundle = some octets → octets ≠ []) :
    (ofBundle bundle).content = "" ↔ bundle = none := by
  cases bundle with
  | none => exact ⟨fun _ => rfl, fun _ => rfl⟩
  | some octets =>
      constructor
      · intro blank
        exact absurd (Text.Base64.encode_eq_empty_iff.mp blank) (full octets rfl)
      · intro absent
        cases absent

/-- Whatever answers and whatever throws, a trust anchor takes the same course as its bootstrap and is rejected with it;
otherwise its content is empty exactly when there is no bundle, and reads back as the authenticated one when there
is. -/
theorem anchors_carry_bundles (handler : Handler Command Command.Answer σ) (state : σ) (bootstrapper : Bootstrapper)
    (server token : String) :
    let call := (anchor bootstrapper server token).run handler state
    let bootstrap := (bootstrapper.caCerts server token .cluster).run handler state
    call.events = bootstrap.events ∧ call.state = bootstrap.state ∧
    (∀ thrown, call.outcome = .error thrown ↔ bootstrap.outcome = .error thrown) ∧
    ∀ trusted, bootstrap.outcome = .ok trusted → ∃ file, call.outcome = .ok file ∧
      (file.content = "" ↔ trusted.bundle = none) ∧
      (∀ bundle, trusted.bundle = some bundle →
        Text.Base64.decode? file.content = some bundle ∧ Authenticates call.events token bundle) ∧
      file.path = "/etc/pki/trust/anchors/additional-ca.pem" ∧ file.permissions = "0644" := by
  intro call bootstrap
  have ran : call = ⟨bootstrap.state, bootstrap.events, bootstrap.outcome.map fun trusted => ofBundle trusted.bundle⟩ :=
    run_anchor handler state bootstrapper server token
  refine ⟨congrArg Execution.events ran, congrArg Execution.state ran, ?_, ?_⟩
  · intro thrown
    rw [ran]
    cases bootstrap.outcome <;> simp [Except.map]
  · intro trusted succeeded
    have authentic : ∀ bundle, trusted.bundle = some bundle → Authenticates call.events token bundle := by
      intro bundle present
      rw [ran]
      exact Bootstrapper.authenticates_of_run succeeded present
    refine ⟨ofBundle trusted.bundle, ?_, ?_, ?_, rfl, rfl⟩
    · rw [ran, succeeded]
      rfl
    · exact content_ofBundle_eq_empty_iff fun bundle present => (authentic bundle present).1
    · intro bundle present
      rw [present]
      exact ⟨decode?_content_ofBundle bundle, authentic bundle present⟩

theorem anchors_carry_bundles_genuine :
    let call := (anchor {} GenuineServer.address "token").run (GenuineServer.handler "token" [1] [2]) ()
    ∃ file, call.outcome = .ok file ∧ file.content ≠ "" ∧ Text.Base64.decode? file.content = some [1] ∧
      Authenticates call.events "token" [1] := by
  intro call
  have succeeded : ((Bootstrapper.caCerts {} GenuineServer.address "token" .cluster).run
      (GenuineServer.handler "token" [1] [2]) ()).outcome = .ok (CaCerts.ofBody [1]) :=
    GenuineServer.caCerts_succeeds {} GenuineServer.caUrl_address
  obtain ⟨_, _, _, carries⟩ :=
    anchors_carry_bundles (GenuineServer.handler "token" [1] [2]) () {} GenuineServer.address "token"
  obtain ⟨file, done, blank, reads, _, _⟩ := carries _ succeeded
  have present : (CaCerts.ofBody [1]).bundle = some [1] := rfl
  refine ⟨file, done, ?_, reads [1] present⟩
  intro empty
  cases (blank.mp empty).symm.trans present

end Artifact

end JoinTrust
