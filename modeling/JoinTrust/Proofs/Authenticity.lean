import JoinTrust.Artifact
import JoinTrust.Proofs.BundleUse
import JoinTrust.Proofs.GenuineServer

set_option autoImplicit false

/-!
Only authenticated bytes become a bundle. The statement ranges over every handler: clients, generators,
resolvers, hardware, files and the audit trail may answer anything and throw anywhere.
-/

namespace JoinTrust

open Transcript (Authenticates UsesAuthenticated WritesAuthenticated)

/-- A call vouches for its bundles: the one that it returns, if it returns one, is authenticated by its
transcript, and every one that it puts to use is authenticated by what came before. -/
structure Vouched {α : Type} (used : Transcript → String) (yielded : α → Option Bytes)
    (transcript : Transcript) (outcome : Except Thrown α) : Prop where
  returned : ∀ value bundle, outcome = .ok value → yielded value = some bundle →
    Authenticates transcript (used transcript) bundle
  put : UsesAuthenticated used transcript

variable {events : Transcript} {server token path : String} {scope : Scope}

theorem Bootstrapper.Course.vouched {bootstrapper : Bootstrapper} {outcome : Except Thrown CaCerts}
    (course : Course bootstrapper server token scope events outcome) :
    Vouched (fun _ => token) CaCerts.bundle events outcome := by
  constructor
  · intro trusted bundle succeeded yields
    have verified := course.bundle_eq succeeded
    rw [yields] at verified
    exact Transcript.authenticates_of_verifiedBundle? verified.symm
  · exact Transcript.usesAuthenticated_of_usesOnly_none course.usesOnly

theorem Fetcher.Establishing.vouched {fetcher : Fetcher} {outcome : Except Thrown Established}
    (establishing : Establishing fetcher server token scope events outcome) :
    Vouched (Transcript.usedToken token scope) CaCerts.bundle events
      (outcome.map Established.trusted) := by
  constructor
  · intro trusted bundle succeeded yields
    cases outcome with
    | error thrown => cases succeeded
    | ok established =>
        cases succeeded
        have verified := establishing.bundle_eq rfl
        rw [yields] at verified
        exact Transcript.authenticates_of_verifiedBundle? verified.symm
  · exact Transcript.usesAuthenticated_of_usesOnly_none establishing.usesOnly

theorem Fetcher.Course.vouched {fetcher : Fetcher} {outcome : Except Thrown Fetched}
    (course : Course fetcher server token path scope events outcome) :
    Vouched (Transcript.usedToken token scope) Fetched.bundle events outcome := by
  constructor
  · intro fetched bundle succeeded yields
    have verified := course.bundle_eq succeeded
    rw [yields] at verified
    exact Transcript.authenticates_of_verifiedBundle? verified.symm
  · exact course.usesAuthenticated

/-- A trust anchor holds a bundle that the bootstrap behind it returned, or none. -/
theorem Artifact.vouched_of_runs {bootstrapper : Bootstrapper} {outcome : Except Thrown FileArtifact}
    (runs : (Artifact.anchor bootstrapper server token).Runs events outcome) :
    UsesAuthenticated (fun _ => token) events ∧
      ∀ file, outcome = .ok file → ∃ bundle, file = Artifact.ofBundle bundle ∧
        ∀ encoded, bundle = some encoded → Authenticates events token encoded := by
  rcases Program.runs_bind_iff.mp runs with ⟨trusted, _, _, ran, ended, rfl⟩ | ⟨thrown, ran, rfl⟩
  · obtain ⟨rfl, rfl⟩ := Program.runs_done_iff.mp ended
    have vouched := (Bootstrapper.course_of_runs ran).vouched
    rw [List.append_nil]
    refine ⟨vouched.put, ?_⟩
    intro file same
    cases same
    exact ⟨trusted.bundle, rfl, fun encoded holds => vouched.returned trusted encoded rfl holds⟩
  · refine ⟨(Bootstrapper.course_of_runs ran).vouched.put, ?_⟩
    intro file same
    cases same

private theorem Run.told_vouched {settings : Settings} {told : Transcript}
    (tells : told = [] ∨ ∃ text answer, told = [⟨.print (.failure text), answer⟩])
    (uses : UsesAuthenticated (Transcript.usedToken settings.token settings.scope) events)
    (writes : WritesAuthenticated settings events) :
    UsesAuthenticated (Transcript.usedToken settings.token settings.scope) (events ++ told) ∧
      WritesAuthenticated settings (events ++ told) := by
  have quiet {event : Event Command Command.Answer} (member : event ∈ told) :
      ∃ line, event.op = .print line := by
    rcases tells with rfl | ⟨text, answer, rfl⟩
    · cases member
    · cases List.mem_singleton.mp member
      exact ⟨_, rfl⟩
  constructor
  · refine uses.append ?_
    intro before event after content same puts
    subst same
    obtain ⟨line, prints⟩ := quiet (List.mem_append_right before List.mem_cons_self)
    rw [prints] at puts
    cases puts
  · intro before event after path content permissions same wrote
    rcases split_append_cons same with ⟨middle, inRun⟩ | ⟨middle, rfl, rfl⟩
    · exact writes before event middle path content permissions inRun wrote
    · obtain ⟨line, prints⟩ := quiet (List.mem_append_right middle List.mem_cons_self)
      rw [prints] at wrote
      cases wrote

theorem Run.vouched_of_runs {fetcher : Fetcher} {settings : Settings} {outcome : Except Thrown ExitCode}
    (runs : (Run.finish (Run.start fetcher (.ok settings))).Runs events outcome) :
    UsesAuthenticated (Transcript.usedToken settings.token settings.scope) events ∧
      WritesAuthenticated settings events := by
  obtain ⟨run, told, rfl, tells, known⟩ := Run.finish_split runs
  rcases known with ⟨_, same, _⟩ | ⟨settings, _, same, course⟩
  · cases same
  · cases same
    exact Run.told_vouched tells course.usesAuthenticated course.writesAuthenticated

/-- Whatever answers and whatever throws, a bundle that is returned, made the roots of a client, handed
to hardware, encoded into a trust anchor or written for a run is authenticated by the transcript of the
call that does so. A bootstrapper uses its token as given, and everything on top of it the token that
was resolved. -/
theorem bundles_authenticated {σ : Type} (handler : Handler Command Command.Answer σ) (state : σ)
    (bootstrapper : Bootstrapper) (fetcher : Fetcher) (server token path : String) (scope : Scope)
    (loaded : Except Failure Settings) :
    (let call := (bootstrapper.caCerts server token scope).run handler state
     Vouched (fun _ => token) CaCerts.bundle call.events call.outcome) ∧
    (let call := (Artifact.anchor bootstrapper server token).run handler state
     UsesAuthenticated (fun _ => token) call.events ∧
      ∀ file, call.outcome = .ok file → ∃ bundle, file = Artifact.ofBundle bundle ∧
        ∀ encoded, bundle = some encoded → Authenticates call.events token encoded) ∧
    (let call := (fetcher.caCerts server token scope).run handler state
     Vouched (Transcript.usedToken token scope) CaCerts.bundle call.events call.outcome) ∧
    (let call := (fetcher.get server token path scope).run handler state
     Vouched (Transcript.usedToken token scope) Fetched.bundle call.events call.outcome) ∧
    (let call := (Run.finish (Run.start fetcher loaded)).run handler state
     match loaded with
     | .ok settings =>
       UsesAuthenticated (Transcript.usedToken settings.token settings.scope) call.events ∧
         WritesAuthenticated settings call.events
     | .error _ => ∀ event ∈ call.events, event.op.topic = .line) := by
  refine ⟨?bootstrap, ?anchor, ?establish, ?fetch, ?run⟩
  case bootstrap => exact (Bootstrapper.course_of_runs (Program.runs_run handler state _)).vouched
  case anchor => exact Artifact.vouched_of_runs (Program.runs_run handler state _)
  case establish =>
    obtain ⟨established, establishing, same⟩ := Fetcher.establishing_of_runs_caCerts
      (Program.runs_run handler state (fetcher.caCerts server token scope))
    simp only [same]
    exact establishing.vouched
  case fetch => exact (Fetcher.course_of_runs (Program.runs_run handler state _)).vouched
  case run =>
    cases loaded with
    | ok settings => exact Run.vouched_of_runs (Program.runs_run handler state _)
    | error failure => exact Run.lines_of_runs (Program.runs_run handler state _)

theorem bundles_authenticated_genuine :
    let call := (Fetcher.get {} GenuineServer.address "token" "/v3/import" .cluster).run
      (GenuineServer.handler "token" [1] [2]) ()
    call.outcome = .ok ⟨[2], some [1], Integrity.checksum [1]⟩ ∧
      Authenticates call.events "token" [1] := by
  have served : ((Fetcher.get {} GenuineServer.address "token" "/v3/import" .cluster).run
      (GenuineServer.handler "token" [1] [2]) ()).outcome = .ok ⟨[2], some [1], Integrity.checksum [1]⟩ :=
    GenuineServer.get_succeeds {} (List.cons_ne_nil 1 []) GenuineServer.caUrl_address
      GenuineServer.resourceUrl_address
  have vouched := (bundles_authenticated (GenuineServer.handler "token" [1] [2]) () {} {}
    GenuineServer.address "token" "/v3/import" .cluster (.error .serverMissing)).2.2.2.1
  exact ⟨served, vouched.returned _ [1] served rfl⟩

end JoinTrust
