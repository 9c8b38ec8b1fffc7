import JoinTrust.Proofs.Evidence

set_option autoImplicit false

/-!
The parts that the procedures of this library are made of: an exchange over a client of its own, an
operation whose failure is told to the audit trail, and a result that is known already. Each is
inverted once. A failing creation, closing or entry is one of the cases and never excluded.
-/

namespace JoinTrust

open Program (closedWith)

/-- Asking for a message throws nothing but errors, which have messages themselves. -/
theorem Thrown.eq_error_of_silence? {thrown raised : Thrown} (silent : thrown.silence? = some raised) :
    ∃ name message, raised = .error name message := by
  cases thrown with
  | value plain =>
      simp only [silence?] at silent
      split at silent
      · cases silent
      · cases silent
        exact ⟨_, _, rfl⟩
  | mute name message =>
      cases silent
      exact ⟨name, message, rfl⟩
  | _ => cases silent

namespace Procedure

variable {α β : Type}

/-!
## Single operations
-/

theorem runs_perform_iff {command : Command} {events : Transcript}
    {outcome : Except Thrown command.Answer} :
    (perform command).Runs events outcome ↔ events = [⟨command, outcome⟩] :=
  Program.runs_perform_iff

theorem runs_audit_iff {entry : Audit.Entry} {events : Transcript} {outcome : Except Thrown Unit} :
    (audit entry).Runs events outcome ↔ events = [⟨.audit entry, outcome⟩] :=
  Program.runs_perform_iff

theorem runs_get_iff {client : Client} {request : Request} {events : Transcript}
    {outcome : Except Thrown Reply} :
    (get client request).Runs events outcome ↔ events = [⟨.get client request, outcome⟩] :=
  Program.runs_perform_iff

theorem runs_reject_iff {failure : Failure} {events : Transcript} {outcome : Except Thrown α} :
    (reject failure).Runs events outcome ↔ events = [] ∧ outcome = .error (.failure failure) :=
  Program.runs_fail_iff

/-- A result that is a failure already ends a procedure before anything is asked. -/
theorem runs_ofResult_bind_iff {result : Except Failure α} {next : α → Procedure β}
    {events : Transcript} {outcome : Except Thrown β} :
    Program.Runs ((ofResult result).bind next) events outcome ↔
      (∃ value, result = .ok value ∧ (next value).Runs events outcome) ∨
      ∃ failure, result = .error failure ∧ events = [] ∧ outcome = .error (.failure failure) := by
  cases result with
  | ok value => simp [ofResult, Program.bind]
  | error failure => simp [ofResult, Program.bind, reject, Program.runs_fail_iff]

/-- A sequence that succeeds gets past its first operation. -/
theorem answered_of_runs_bind {command : Command} {next : command.Answer → Procedure α} {value : α}
    {events : Transcript} (runs : Program.Runs ((perform command).bind next) events (.ok value)) :
    ∃ answer rest, events = ⟨command, .ok answer⟩ :: rest ∧ (next answer).Runs rest (.ok value) := by
  rcases Program.runs_bind_iff.mp runs with ⟨answer, _, rest, performed, went, rfl⟩ | ⟨_, _, same⟩
  · obtain rfl := runs_perform_iff.mp performed
    exact ⟨answer, rest, rfl, went⟩
  · cases same

/-- An audit entry before the end of a procedure: should the trail not take it, that is the end. -/
theorem runs_audit_bind_iff {entry : Audit.Entry} {last : Procedure α} {events : Transcript}
    {outcome : Except Thrown α} :
    Program.Runs ((audit entry).bind fun _ => last) events outcome ↔
      (∃ rest, events = ⟨.audit entry, .ok ()⟩ :: rest ∧ last.Runs rest outcome) ∨
      ∃ thrown, events = [⟨.audit entry, .error thrown⟩] ∧ outcome = .error thrown := by
  simp only [Program.runs_bind_iff, runs_audit_iff]
  constructor
  · rintro (⟨_, first, rest, rfl, ran, rfl⟩ | ⟨thrown, rfl, rfl⟩)
    · exact .inl ⟨rest, rfl, ran⟩
    · exact .inr ⟨thrown, rfl, rfl⟩
  · rintro (⟨rest, rfl, ran⟩ | ⟨thrown, rfl, rfl⟩)
    · exact .inl ⟨(), _, rest, rfl, ran, rfl⟩
    · exact .inr ⟨thrown, rfl, rfl⟩

/-!
## Exchanges
-/

/-- The life of a client that sends one request: it is made, it sends the request, what follows from
the answer is heard, and it is closed. A client that cannot be made does nothing. -/
inductive Exchanged (options : ClientOptions) (request : Request)
    (heard : Except Thrown Reply → Transcript → Except Thrown α → Prop) :
    Transcript → Except Thrown α → Prop where
  | unmade {thrown : Thrown} :
      Exchanged options request heard [⟨.create options, .error thrown⟩] (.error thrown)
  | made {serial : Nat} {answer : Except Thrown Reply} {inner : Transcript}
      {result : Except Thrown α} {closing : Except Thrown Unit} :
      heard answer inner result →
      Exchanged options request heard
        (⟨.create options, .ok serial⟩ :: ⟨.get ⟨options, serial⟩ request, answer⟩ :: inner ++
          [⟨.close ⟨options, serial⟩, closing⟩])
        (closedWith closing result)

/-- A use of a client that begins with its request is an exchange. -/
theorem exchanged_of_runs_withClient {options : ClientOptions} {request : Request}
    {heard : Except Thrown Reply → Transcript → Except Thrown α → Prop}
    {use : Client → Procedure α} {events : Transcript} {outcome : Except Thrown α}
    (uses : ∀ client inner result, (use client).Runs inner result →
      ∃ answer rest, inner = ⟨.get client request, answer⟩ :: rest ∧ heard answer rest result)
    (runs : (withClient options use).Runs events outcome) :
    Exchanged options request heard events outcome := by
  rcases Program.runs_bind_iff.mp runs with ⟨serial, _, _, made, used, rfl⟩ | ⟨thrown, made, rfl⟩
  · obtain rfl := runs_perform_iff.mp made
    obtain ⟨result, closing, inner, _, spoke, closed, rfl, rfl⟩ := Program.runs_ensuring_iff.mp used
    obtain rfl := runs_perform_iff.mp closed
    obtain ⟨answer, rest, rfl, follows⟩ := uses _ _ _ spoke
    exact .made follows
  · obtain rfl := runs_perform_iff.mp made
    exact .unmade

/-!
## Failures that are told
-/

/-- What was thrown is told of if it has a message. Otherwise asking for that is the end. -/
theorem runs_telling_iff {thrown : Thrown} {next : Procedure α} {events : Transcript}
    {outcome : Except Thrown α} :
    (telling thrown next).Runs events outcome ↔
      (thrown.silence? = none ∧ next.Runs events outcome) ∨
      ∃ raised, thrown.silence? = some raised ∧ events = [] ∧ outcome = .error raised := by
  unfold telling
  cases thrown.silence? with
  | none => simp
  | some raised => simp [Program.runs_fail_iff]

/-- Telling of what was thrown by a failure throws once, and nothing is asked. -/
theorem telling_reject (thrown : Thrown) (failure : Thrown → Failure) :
    (telling thrown (reject (failure thrown)) : Procedure α) = .fail (thrown.toldAs failure) := by
  unfold telling Thrown.toldAs
  cases thrown.silence? with
  | none => rfl
  | some raised => rfl

/-- An operation whose failure is told to the audit trail and then thrown under a class. What has no
message gets nowhere. -/
inductive Told (entry : Thrown → Audit.Entry) (failure : Thrown → Failure) :
    Except Thrown α → Transcript → Except Thrown α → Prop where
  | answered {value : α} : Told entry failure (.ok value) [] (.ok value)
  | refused {thrown : Thrown} {answer : Except Thrown Unit} :
      thrown.silence? = none →
      Told entry failure (.error thrown) [⟨.audit (entry thrown), answer⟩]
        (closedWith answer (.error (.failure (failure thrown))))
  | untold {thrown raised : Thrown} :
      thrown.silence? = some raised → Told entry failure (.error thrown) [] (.error raised)

/-- An entry before a result already known: only a trail that does not take it changes the end. -/
theorem closedWith_of_runs_audit {entry : Audit.Entry} {last : Procedure α} {result : Except Thrown α}
    {events : Transcript} {outcome : Except Thrown α}
    (known : ∀ rest ended, last.Runs rest ended → rest = [] ∧ ended = result)
    (runs : Program.Runs ((audit entry).bind fun _ => last) events outcome) :
    ∃ answer, events = [⟨.audit entry, answer⟩] ∧ outcome = closedWith answer result := by
  rcases Program.runs_bind_iff.mp runs with ⟨_, first, rest, recorded, ran, rfl⟩ | ⟨thrown, recorded, rfl⟩
  · obtain rfl := runs_audit_iff.mp recorded
    obtain ⟨rfl, rfl⟩ := known _ _ ran
    exact ⟨.ok (), rfl, rfl⟩
  · obtain rfl := runs_audit_iff.mp recorded
    exact ⟨.error thrown, rfl, rfl⟩

theorem closedWith_of_runs_audit_done {entry : Audit.Entry} {value : α} {events : Transcript}
    {outcome : Except Thrown α}
    (runs : Program.Runs ((audit entry).bind fun _ => .done value) events outcome) :
    ∃ answer, events = [⟨.audit entry, answer⟩] ∧ outcome = closedWith answer (.ok value) :=
  closedWith_of_runs_audit (fun _ _ ran => Program.runs_done_iff.mp ran) runs

theorem closedWith_of_runs_audit_reject {entry : Audit.Entry} {failure : Failure} {events : Transcript}
    {outcome : Except Thrown α}
    (runs : Program.Runs ((audit entry).bind fun _ => reject failure) events outcome) :
    ∃ answer, events = [⟨.audit entry, answer⟩] ∧
      outcome = closedWith answer (.error (.failure failure)) :=
  closedWith_of_runs_audit (fun _ _ ran => runs_reject_iff.mp ran) runs

theorem told_of_runs {command : Command} {entry : Thrown → Audit.Entry} {failure : Thrown → Failure}
    {events : Transcript} {outcome : Except Thrown command.Answer}
    (runs : Program.Runs ((perform command).recover fun thrown =>
      telling thrown ((audit (entry thrown)).bind fun _ => reject (failure thrown))) events outcome) :
    ∃ answer rest, events = ⟨command, answer⟩ :: rest ∧ Told entry failure answer rest outcome := by
  rcases Program.runs_recover_iff.mp runs with ⟨value, asked, rfl⟩ | ⟨thrown, _, _, asked, handled, rfl⟩
  · obtain rfl := runs_perform_iff.mp asked
    exact ⟨.ok value, [], rfl, .answered⟩
  · obtain rfl := runs_perform_iff.mp asked
    rcases runs_telling_iff.mp handled with ⟨spoken, told⟩ | ⟨raised, silent, rfl, rfl⟩
    · obtain ⟨answer, rfl, rfl⟩ := closedWith_of_runs_audit_reject told
      exact ⟨.error thrown, _, rfl, .refused spoken⟩
    · exact ⟨.error thrown, [], rfl, .untold silent⟩

theorem Told.eq_of_ok {entry : Thrown → Audit.Entry} {failure : Thrown → Failure}
    {answer : Except Thrown α} {events : Transcript} {outcome : Except Thrown α} {value : α}
    (told : Told entry failure answer events outcome) (succeeded : outcome = .ok value) :
    answer = .ok value ∧ events = [] := by
  cases told with
  | answered => exact ⟨succeeded, rfl⟩
  | refused => cases (Program.closedWith_eq_ok_iff.mp succeeded).2
  | untold => cases succeeded

theorem Told.lacks {entry : Thrown → Audit.Entry} {failure : Thrown → Failure}
    {answer : Except Thrown α} {events : Transcript} {outcome : Except Thrown α} {topic : Topic}
    (told : Told entry failure answer events outcome) (other : topic ≠ .audit) :
    Transcript.Lacks topic events := by
  cases told with
  | answered => exact Transcript.lacks_nil
  | refused => exact Transcript.lacks_singleton other
  | untold => exact Transcript.lacks_nil

/-!
## What an exchange shows
-/

variable {options : ClientOptions} {request : Request}
  {heard : Except Thrown Reply → Transcript → Except Thrown α → Prop} {events : Transcript}
  {outcome : Except Thrown α}

/-- An exchange sends its request, unless there is no client to send it over. -/
theorem Exchanged.sent_eq (exchanged : Exchanged options request heard events outcome)
    (quiet : ∀ answer inner result, heard answer inner result → Transcript.Lacks .client inner) :
    (Transcript.sent events = [] ∧ ∃ thrown, outcome = .error thrown) ∨
      Transcript.sent events = [(options.trust, request)] := by
  cases exchanged with
  | unmade => exact .inl ⟨rfl, _, rfl⟩
  | made follows =>
      have silent := Transcript.sent_eq_nil (quiet _ _ _ follows)
      simp only [Transcript.sent, List.map_eq_nil_iff] at silent
      refine .inr ?_
      simp [Transcript.sent, Transcript.requests] at silent ⊢
      exact silent

theorem Exchanged.sent_eq_of_ok {value : α} (exchanged : Exchanged options request heard events (.ok value))
    (quiet : ∀ answer inner result, heard answer inner result → Transcript.Lacks .client inner) :
    Transcript.sent events = [(options.trust, request)] := by
  rcases exchanged.sent_eq quiet with ⟨_, thrown, same⟩ | sent
  · cases same
  · exact sent

theorem Exchanged.lacks {topic : Topic} (exchanged : Exchanged options request heard events outcome)
    (quiet : ∀ answer inner result, heard answer inner result → Transcript.Lacks topic inner)
    (other : topic ≠ .client) : Transcript.Lacks topic events := by
  cases exchanged with
  | unmade => exact Transcript.lacks_singleton other
  | made follows =>
      refine Transcript.lacks_cons_iff.mpr ⟨other.symm, Transcript.lacks_cons_iff.mpr ⟨other.symm, ?_⟩⟩
      refine Transcript.lacks_append_iff.mpr ⟨quiet _ _ _ follows, ?_⟩
      exact Transcript.lacks_singleton other

/-- Only an unverified exchange can verify a bundle. -/
theorem Exchanged.verifiedBundle?_eq_none {token : String}
    (exchanged : Exchanged options request heard events outcome)
    (quiet : ∀ answer inner result, heard answer inner result → Transcript.Lacks .client inner)
    (secure : options.trust ≠ .insecure) : Transcript.verifiedBundle? token events = none := by
  cases exchanged with
  | unmade => rfl
  | @made serial answer inner result closing follows =>
      have unheard : Transcript.verifiedBundle? token inner = none :=
        Transcript.verifiedBundle?_eq_none (quiet _ _ _ follows)
      have unverified : Transcript.verifiedBody? token
          ⟨.get ⟨options, serial⟩ request, answer⟩ = none := by
        cases answer with
        | error thrown => rfl
        | ok reply =>
            simp only [Transcript.verifiedBody?]
            split
            · rfl
            · exact if_neg fun accepted => secure accepted.1
      have made : Transcript.verifiedBody? token ⟨.create options, .ok serial⟩ = none := rfl
      have closed : Transcript.verifiedBody? token ⟨.close ⟨options, serial⟩, closing⟩ = none := rfl
      simp only [List.cons_append, Transcript.verifiedBundle?_cons, Transcript.verifiedBundle?_append,
        made, unverified, unheard, closed, Option.none_or]
      rfl

/-- An exchange that succeeds, and whose failure would have been told, hears its reply and nothing
else. -/
theorem Exchanged.eq_of_ok {entry : Thrown → Audit.Entry} {failure : Thrown → Failure} {reply : Reply}
    {outcome : Except Thrown Reply} (exchanged : Exchanged options request (Told entry failure) events outcome)
    (succeeded : outcome = .ok reply) :
    ∃ serial, events = [⟨.create options, .ok serial⟩,
      ⟨.get ⟨options, serial⟩ request, .ok reply⟩, ⟨.close ⟨options, serial⟩, .ok ()⟩] := by
  cases exchanged with
  | unmade => cases succeeded
  | @made serial _ _ _ _ heard =>
      obtain ⟨rfl, same⟩ := Program.closedWith_eq_ok_iff.mp succeeded
      obtain ⟨rfl, rfl⟩ := heard.eq_of_ok same
      exact ⟨serial, rfl⟩

end Procedure

end JoinTrust
