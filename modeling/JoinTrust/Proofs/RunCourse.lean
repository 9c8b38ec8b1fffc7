import JoinTrust.Proofs.FetchCourse
import JoinTrust.Run

set_option autoImplicit false

/-!
The courses that a run can take. A run hides its token, gathers a bundle and perhaps a resource, and
delivers what it gathered. Nothing is delivered unless everything was gathered.
-/

namespace JoinTrust

open Program (closedWith)

namespace Fetcher

/-- A bootstrap through a fetcher is what comes before a fetch, and nothing else. -/
theorem establishing_of_runs_caCerts {fetcher : Fetcher} {server token : String} {scope : Scope}
    {events : Transcript} {outcome : Except Thrown CaCerts}
    (runs : (fetcher.caCerts server token scope).Runs events outcome) :
    ∃ established, Establishing fetcher server token scope events established ∧
      outcome = established.map Established.trusted := by
  rcases Program.runs_bind_iff.mp runs with ⟨established, _, _, ran, ended, rfl⟩ | ⟨_, ran, rfl⟩
  · obtain ⟨rfl, rfl⟩ := Program.runs_done_iff.mp ended
    rw [List.append_nil]
    exact ⟨.ok established, establishing_of_runs ran, rfl⟩
  · exact ⟨_, establishing_of_runs ran, rfl⟩

end Fetcher

namespace Run

variable {fetcher : Fetcher} {settings : Settings} {events : Transcript}

/-!
## Gathering
-/

/-- What a run gathers: a bundle alone, or a resource with the bundle that it was fetched under. -/
inductive Gathering (fetcher : Fetcher) (settings : Settings) :
    Transcript → Except Thrown Gathered → Prop where
  | bundle {gathering : Transcript} {established : Except Thrown Established} :
      settings.path.isEmpty = true →
      Fetcher.Establishing fetcher settings.server settings.token settings.scope gathering established →
      Gathering fetcher settings gathering
        (established.map fun established => ⟨established.trusted, none⟩)
  | resource {gathering : Transcript} {fetched : Except Thrown Fetched} :
      settings.path.isEmpty = false →
      Fetcher.Course fetcher settings.server settings.token settings.path settings.scope gathering fetched →
      Gathering fetcher settings gathering
        (fetched.map fun fetched => ⟨⟨fetched.bundle, fetched.checksum⟩, some fetched.body⟩)

theorem gathering_of_runs {outcome : Except Thrown Gathered}
    (runs : (gather fetcher settings).Runs events outcome) :
    Gathering fetcher settings events outcome := by
  cases empty : settings.path.isEmpty with
  | true =>
      rw [gather, empty, if_pos rfl] at runs
      rcases Program.runs_bind_iff.mp runs with ⟨trusted, _, _, ran, ended, rfl⟩ | ⟨thrown, ran, rfl⟩
      · obtain ⟨rfl, rfl⟩ := Program.runs_done_iff.mp ended
        obtain ⟨established, establishing, same⟩ := Fetcher.establishing_of_runs_caCerts ran
        cases established with
        | error thrown => cases same
        | ok established =>
            cases same
            rw [List.append_nil]
            exact .bundle empty establishing
      · obtain ⟨established, establishing, same⟩ := Fetcher.establishing_of_runs_caCerts ran
        cases established with
        | error thrown =>
            cases same
            exact .bundle empty establishing
        | ok established => cases same
  | false =>
      rw [gather, empty, if_neg Bool.false_ne_true] at runs
      rcases Program.runs_bind_iff.mp runs with ⟨fetched, _, _, ran, ended, rfl⟩ | ⟨thrown, ran, rfl⟩
      · obtain ⟨rfl, rfl⟩ := Program.runs_done_iff.mp ended
        rw [List.append_nil]
        exact .resource empty (Fetcher.course_of_runs ran)
      · exact .resource empty (Fetcher.course_of_runs ran)

/-!
## Delivery
-/

/-- Delivers what a run gathered: reports and files for the bundle, and then for the resource. -/
def deliver (settings : Settings) (gathered : Gathered) : Procedure Summary := do
  let trusted := gathered.trusted
  let caFileWritten ← deliverBundle settings trusted
  match gathered.body with
  | none => .done ⟨trusted.bundle.isSome, trusted.checksum, caFileWritten, none⟩
  | some body =>
    deliverBody settings trusted.checksum body
    .done ⟨trusted.bundle.isSome, trusted.checksum, caFileWritten, some body.length⟩

theorem withSettings_eq (fetcher : Fetcher) (settings : Settings) :
    withSettings fetcher settings = (Procedure.print (.mask settings.token)).bind fun _ =>
      (gather fetcher settings).bind (deliver settings) := rfl

/-!
## Sequences
-/

theorem withSettings_eq_of_bundle (empty : settings.path.isEmpty = true) :
    withSettings fetcher settings =
      ((Procedure.print (.mask settings.token)).bind fun _ =>
        fetcher.usedToken settings.token settings.scope).bind fun resolved =>
          (fetcher.bootstrapper.caCerts settings.server resolved.token settings.scope).bind
            fun trusted => deliver settings ⟨trusted, none⟩ := by
  simp only [withSettings_eq, gather, empty, if_true, Fetcher.caCerts_eq, Program.bind_eq,
    Program.bind_assoc, Program.bind]

theorem withSettings_eq_of_rejected {failure : Failure} (nonempty : settings.path.isEmpty = false)
    (rejected : Server.resourceUrl settings.server settings.path = .error failure) :
    withSettings fetcher settings =
      (Procedure.print (.mask settings.token)).bind fun _ => Procedure.reject failure := by
  rw [withSettings_eq, gather, nonempty, if_neg Bool.false_ne_true, Fetcher.get_eq_reject rejected]
  rfl

theorem withSettings_eq_of_resource {url : String} (nonempty : settings.path.isEmpty = false)
    (offered : Server.resourceUrl settings.server settings.path = .ok url) :
    withSettings fetcher settings =
      ((Procedure.print (.mask settings.token)).bind fun _ =>
        fetcher.usedToken settings.token settings.scope).bind fun resolved =>
          (fetcher.bootstrapper.caCerts settings.server resolved.token settings.scope).bind
            fun trusted => (fetcher.fetchUnder url settings.scope resolved trusted).bind
              fun fetched => deliver settings
                ⟨⟨fetched.bundle, fetched.checksum⟩, some fetched.body⟩ := by
  rw [withSettings_eq, gather, nonempty, if_neg Bool.false_ne_true, Fetcher.get_eq offered]
  simp only [Program.bind_eq, Program.bind_assoc, Program.bind]

/-!
## Courses
-/

/-- The courses of a run with settings that are known. -/
inductive Course (fetcher : Fetcher) (settings : Settings) :
    Transcript → Except Thrown Summary → Prop where
  | exposed {thrown : Thrown} :
      Course fetcher settings [⟨.print (.mask settings.token), .error thrown⟩] (.error thrown)
  | ungathered {gathering : Transcript} {thrown : Thrown} :
      Gathering fetcher settings gathering (.error thrown) →
      Course fetcher settings (⟨.print (.mask settings.token), .ok ()⟩ :: gathering) (.error thrown)
  | gathered {gathering delivery : Transcript} {gathered : Gathered} {outcome : Except Thrown Summary} :
      Gathering fetcher settings gathering (.ok gathered) →
      (deliver settings gathered).Runs delivery outcome →
      Course fetcher settings
        (⟨.print (.mask settings.token), .ok ()⟩ :: (gathering ++ delivery)) outcome

theorem course_of_runs {outcome : Except Thrown Summary}
    (runs : (withSettings fetcher settings).Runs events outcome) :
    Course fetcher settings events outcome := by
  rw [withSettings_eq] at runs
  rcases Program.runs_bind_iff.mp runs with ⟨_, _, _, masked, went, rfl⟩ | ⟨thrown, masked, rfl⟩
  · obtain rfl := Procedure.runs_perform_iff.mp masked
    rcases Program.runs_bind_iff.mp went with ⟨gathered, _, _, ran, delivered, rfl⟩ | ⟨_, ran, rfl⟩
    · rw [List.singleton_append]
      exact .gathered (gathering_of_runs ran) delivered
    · exact .ungathered (gathering_of_runs ran)
  · obtain rfl := Procedure.runs_perform_iff.mp masked
    exact .exposed

/-- A run to its exit code is a run with known settings, unless these could not be had, and at most
one more line that tells of a failure. -/
theorem finish_split {loaded : Except Failure Settings} {outcome : Except Thrown ExitCode}
    (runs : (finish (start fetcher loaded)).Runs events outcome) :
    ∃ run told, events = run ++ told ∧
      (told = [] ∨ ∃ text answer, told = [⟨.print (.failure text), answer⟩]) ∧
      ((∃ failure, loaded = .error failure ∧ run = []) ∨
        ∃ settings summary, loaded = .ok settings ∧ Course fetcher settings run summary) := by
  have started {run : Transcript} {summary : Except Thrown Summary}
      (ran : (start fetcher loaded).Runs run summary) :
      (∃ failure, loaded = .error failure ∧ run = []) ∨
        ∃ settings summary, loaded = .ok settings ∧ Course fetcher settings run summary := by
    rcases Procedure.runs_ofResult_bind_iff.mp ran with ⟨settings, known, went⟩ | ⟨failure, unknown, rfl, _⟩
    · exact .inr ⟨settings, summary, known, course_of_runs went⟩
    · exact .inl ⟨failure, unknown, rfl⟩
  rcases Program.runs_recover_iff.mp runs with ⟨code, ran, rfl⟩ | ⟨thrown, run, _, ran, told, rfl⟩
  · rcases Program.runs_bind_iff.mp ran with ⟨summary, run, _, summarized, ended, rfl⟩ | ⟨_, _, same⟩
    · obtain ⟨rfl, _⟩ := Program.runs_done_iff.mp ended
      exact ⟨run, [], rfl, .inl rfl, started summarized⟩
    · cases same
  · rcases Program.runs_bind_iff.mp ran with ⟨_, _, _, _, ended, _⟩ | ⟨_, ran, _⟩
    · cases (Program.runs_done_iff.mp ended).2
    · refine ⟨run, _, rfl, ?_, started ran⟩
      rcases Procedure.runs_telling_iff.mp told with ⟨_, told⟩ | ⟨_, _, rfl, _⟩
      · right
        rcases Program.runs_bind_iff.mp told with ⟨_, _, _, printed, ended, rfl⟩ | ⟨_, printed, _⟩
        · obtain ⟨rfl, _⟩ := Program.runs_done_iff.mp ended
          obtain rfl := Procedure.runs_perform_iff.mp printed
          exact ⟨_, _, rfl⟩
        · obtain rfl := Procedure.runs_perform_iff.mp printed
          exact ⟨_, _, rfl⟩
      · exact .inl rfl

end Run

end JoinTrust
