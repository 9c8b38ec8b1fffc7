import JoinTrust.Proofs.Blindness

set_option autoImplicit false

/-!
Sinks that refuse entries. A procedure that is over once its trail refuses an entry sends what it would
have sent anyway, up to some point, and nothing else. The entry about a trusted probe stands apart: what
follows on its refusal is not looked at here.
-/

namespace JoinTrust

/-!
## Sinks
-/

/-- A sink: it hears one entry after another, and answers each from what it remembers. -/
abbrev Audit.Sink (τ : Type) : Type := τ → Audit.Entry → τ × Except Thrown Unit

/-- The sink that takes every entry. -/
def Audit.Sink.takesAll : Audit.Sink Unit := fun _ _ => ((), .ok ())

/-- The world in which this sink keeps the audit trail. The others hear of no entry, so that they go on
in one way whatever becomes of the entries. -/
def Handler.auditedBy {σ τ : Type} (others : Handler Command Command.Answer σ) (sink : Audit.Sink τ) :
    Handler Command Command.Answer (σ × τ) where
  answer state
    | .audit entry => ((state.1, (sink state.2 entry).1), (sink state.2 entry).2)
    | command => (((others.answer state.1 command).1, state.2), (others.answer state.1 command).2)

/-- The entry about a probe that was answered is refused. -/
def Transcript.RefusesProbe (transcript : Transcript) : Prop :=
  ∃ url scope status thrown,
    (⟨.audit (.probeTrusted url scope status), .error thrown⟩ : Event Command Command.Answer) ∈ transcript

theorem Transcript.RefusesProbe.mono {part whole : Transcript} (refuses : RefusesProbe part)
    (within : part ⊆ whole) : RefusesProbe whole := by
  obtain ⟨url, scope, status, thrown, member⟩ := refuses
  exact ⟨url, scope, status, thrown, within member⟩

/-!
## Procedures that a refusal ends
-/

namespace Procedure

variable {α β : Type}

/-- A procedure that throws in the end, and sends nothing before it does. -/
def Doomed : Procedure α → Prop
  | .done _ => False
  | .fail _ => True
  | .ask command resume => command.isGet = false ∧ ∀ answer, Doomed (resume answer)

theorem Doomed.silent {procedure : Procedure α} (doomed : Doomed procedure) : procedure.Silent := by
  induction procedure with
  | done value => cases doomed
  | fail thrown => trivial
  | ask command resume ih => exact ⟨doomed.1, fun answer => ih answer (doomed.2 answer)⟩

theorem Doomed.bind {procedure : Procedure α} {next : α → Procedure β} (doomed : Doomed procedure) :
    Doomed (procedure.bind next) := by
  induction procedure with
  | done value => cases doomed
  | fail thrown => trivial
  | ask command resume ih => exact ⟨doomed.1, fun answer => ih answer (doomed.2 answer)⟩

private theorem Silent.doomed_bind_fail {procedure : Procedure α} (silent : procedure.Silent)
    (thrown : Thrown) : Doomed (procedure.bind fun _ => (.fail thrown : Procedure β)) := by
  induction procedure with
  | done value => trivial
  | fail other => trivial
  | ask command resume ih => exact ⟨silent.1, fun answer => ih answer (silent.2 answer)⟩

theorem Doomed.ensuring {procedure : Procedure α} {last : Procedure Unit} (doomed : Doomed procedure)
    (silent : last.Silent) : Doomed (procedure.ensuring last) := by
  induction procedure with
  | done value => cases doomed
  | fail thrown => exact silent.doomed_bind_fail thrown
  | ask command resume ih => exact ⟨doomed.1, fun answer => ih answer (doomed.2 answer)⟩

/-- A procedure that is doomed once an entry is refused, unless the entry is about a trusted probe. -/
def StopsOnRefusal : Procedure α → Prop
  | .done _ => True
  | .fail _ => True
  | .ask (.audit entry) resume =>
    (entry.kind ≠ .probeTrusted → ∀ thrown, Doomed (resume (.error thrown))) ∧
      ∀ answer, StopsOnRefusal (resume answer)
  | .ask _ resume => ∀ answer, StopsOnRefusal (resume answer)

theorem StopsOnRefusal.resume {command : Command} {resume : Except Thrown command.Answer → Procedure α}
    (stops : StopsOnRefusal (.ask command resume)) (answer : Except Thrown command.Answer) :
    StopsOnRefusal (resume answer) := by
  cases command with
  | audit entry => exact stops.2 answer
  | _ => exact stops answer

theorem stopsOnRefusal_of_keepsTo {topics : List Topic} {procedure : Procedure α}
    (keeps : procedure.KeepsTo topics) (noAudit : .audit ∉ topics) : StopsOnRefusal procedure := by
  induction procedure with
  | done value => trivial
  | fail thrown => trivial
  | ask command resume ih =>
      have continued := fun answer => ih answer (keeps.2 answer)
      cases command with
      | audit entry => exact absurd keeps.1 noAudit
      | _ => exact continued

theorem stopsOnRefusal_ofResult (result : Except Failure α) : StopsOnRefusal (ofResult result) := by
  cases result <;> trivial

theorem stopsOnRefusal_audit (entry : Audit.Entry) : StopsOnRefusal (audit entry) := by
  refine ⟨fun _ thrown => trivial, fun answer => ?_⟩
  cases answer <;> trivial

theorem StopsOnRefusal.telling {thrown : Thrown} {next : Procedure α} (stops : StopsOnRefusal next) :
    StopsOnRefusal (Procedure.telling thrown next) := by
  unfold Procedure.telling
  split
  · exact stops
  · trivial

theorem StopsOnRefusal.bind {procedure : Procedure α} {next : α → Procedure β}
    (stops : StopsOnRefusal procedure) (rest : ∀ value, StopsOnRefusal (next value)) :
    StopsOnRefusal (procedure.bind next) := by
  induction procedure with
  | done value => exact rest value
  | fail thrown => trivial
  | ask command resume ih =>
      have continued := fun answer => ih answer (stops.resume answer)
      cases command with
      | audit entry => exact ⟨fun other thrown => (stops.1 other thrown).bind, continued⟩
      | _ => exact continued

/-- A recovery may follow on anything but a refusal. -/
theorem StopsOnRefusal.recover {procedure : Procedure α} {handle : Thrown → Procedure α}
    (audits : procedure.AsksOnly fun command => ∀ entry, command = .audit entry → entry.kind = .probeTrusted)
    (handled : ∀ thrown, StopsOnRefusal (handle thrown)) : StopsOnRefusal (procedure.recover handle) := by
  induction procedure with
  | done value => trivial
  | fail thrown => exact handled thrown
  | ask command resume ih =>
      have continued := fun answer => ih answer (audits.2 answer)
      cases command with
      | audit entry => exact ⟨fun other => absurd (audits.1 entry rfl) other, continued⟩
      | _ => exact continued

theorem StopsOnRefusal.withClient {options : ClientOptions} {use : Client → Procedure α}
    (uses : ∀ client, StopsOnRefusal (use client)) : StopsOnRefusal (withClient options use) := by
  have closes {procedure : Procedure α} (client : Client) (stops : StopsOnRefusal procedure) :
      StopsOnRefusal (procedure.ensuring (perform (.close client))) := by
    induction procedure with
    | done value =>
        intro answer
        cases answer <;> trivial
    | fail thrown =>
        intro answer
        cases answer <;> trivial
    | ask command resume ih =>
        have continued := fun answer => ih answer (stops.resume answer)
        cases command with
        | audit entry =>
            exact ⟨fun other thrown => (stops.1 other thrown).ensuring (.perform rfl), continued⟩
        | _ => exact continued
  intro answer
  cases answer with
  | error thrown => trivial
  | ok serial => exact closes _ (uses _)

/-!
## Two sinks
-/

variable {σ τ : Type} {others : Handler Command Command.Answer σ} {sink : Audit.Sink τ}

/-- A sink that takes the entries about trusted probes lets no request through that would not have been
sent without it. -/
theorem StopsOnRefusal.requests_within {procedure : Procedure α} (stops : StopsOnRefusal procedure)
    (state : σ) (memory : τ)
    (takes : ¬ Transcript.RefusesProbe (procedure.run (others.auditedBy sink) (state, memory)).events) :
    Transcript.requests (procedure.run (others.auditedBy sink) (state, memory)).events <+:
      Transcript.requests (procedure.run (others.auditedBy .takesAll) (state, ())).events := by
  induction procedure generalizing state memory with
  | done value => exact List.prefix_refl _
  | fail thrown => exact List.prefix_refl _
  | ask command resume ih =>
      have within {event : Event Command Command.Answer} {rest : Transcript}
          (takes : ¬ Transcript.RefusesProbe (event :: rest)) : ¬ Transcript.RefusesProbe rest :=
        fun refuses => takes (refuses.mono (List.subset_cons_self _ _))
      cases command with
      | audit entry =>
          cases heard : (sink memory entry).2 with
          | ok taken =>
              simp only [Program.run, Handler.auditedBy, heard, Audit.Sink.takesAll] at takes ⊢
              exact ih _ (stops.resume _) _ _ (within takes)
          | error thrown =>
              -- The refused entry is not the excepted one, so that nothing more is sent.
              simp only [Program.run, Handler.auditedBy, heard] at takes ⊢
              have other : entry.kind ≠ .probeTrusted := by
                intro same
                cases entry with
                | probeTrusted url scope status =>
                    exact takes ⟨url, scope, status, thrown, List.mem_cons_self⟩
                | _ => cases same
              have silent := (stops.1 other thrown).silent
              have unsent := Silent.requests_eq_nil silent (Program.runs_run (others.auditedBy sink)
                (state, (sink memory entry).1) (resume (.error thrown)))
              exact unsent ▸ List.nil_prefix
      | get client request =>
          exact (List.prefix_cons_inj _).mpr (ih _ (stops.resume _) _ _ (within takes))
      | _ => exact ih _ (stops.resume _) _ _ (within takes)

end Procedure

end JoinTrust
