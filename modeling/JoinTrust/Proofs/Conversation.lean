import JoinTrust.Program

set_option autoImplicit false

/-!
Every conversation that a program can hold. A conversation is a list of events with the outcome it
ends in; the answers in it are arbitrary, so a fact about all conversations is a fact about every
handler. Sequencing, recovery and cleanup are inverted once here, and no later module unfolds them.
-/

namespace JoinTrust.Program

variable {Op : Type} {Answer : Op → Type} {σ α β γ : Type}

/-!
## Conversations
-/

/-- A conversation that a program can hold, with the outcome it ends in. Nothing restricts the
answers: they need not come from any one handler. -/
inductive Runs : Program Op Answer α → List (Event Op Answer) → Except Thrown α → Prop where
  | done {value : α} : Runs (.done value) [] (.ok value)
  | fail {thrown : Thrown} : Runs (.fail thrown) [] (.error thrown)
  | ask {op : Op} {resume : Except Thrown (Answer op) → Program Op Answer α}
      {answer : Except Thrown (Answer op)} {events : List (Event Op Answer)}
      {outcome : Except Thrown α} :
      Runs (resume answer) events outcome → Runs (.ask op resume) (⟨op, answer⟩ :: events) outcome

/-- What a handler and a program say to each other is one of the program's conversations. -/
theorem runs_run (handler : Handler Op Answer σ) (state : σ) (program : Program Op Answer α) :
    Runs program (program.run handler state).events (program.run handler state).outcome := by
  induction program generalizing state with
  | done value => exact .done
  | fail thrown => exact .fail
  | ask op resume ih => exact .ask (ih _ _)

/-- The answers of a conversation are the handler's own. -/
theorem answered_of_mem_run {handler : Handler Op Answer σ} {state : σ}
    {program : Program Op Answer α} {event : Event Op Answer}
    (member : event ∈ (program.run handler state).events) :
    ∃ before, event.answer = (handler.answer before event.op).2 := by
  induction program generalizing state with
  | done value => cases member
  | fail thrown => cases member
  | ask op resume ih =>
      simp only [run, List.mem_cons] at member
      rcases member with rfl | member
      · exact ⟨state, rfl⟩
      · exact ih _ member

/-- A conversation is decided by its answers: of two that begin alike, neither goes on longer. -/
theorem Runs.unique {program : Program Op Answer α} {left right leftRest rightRest : List (Event Op Answer)}
    {leftOutcome rightOutcome : Except Thrown α} (leftRuns : Runs program left leftOutcome)
    (rightRuns : Runs program right rightOutcome) (same : left ++ leftRest = right ++ rightRest) :
    left = right ∧ leftOutcome = rightOutcome := by
  induction leftRuns generalizing right with
  | done =>
      cases rightRuns
      exact ⟨rfl, rfl⟩
  | fail =>
      cases rightRuns
      exact ⟨rfl, rfl⟩
  | ask _ ih =>
      cases rightRuns with
      | ask rightContinued =>
          -- The first events are the same, so both go on from one and the same answer.
          injection same with head tail
          cases head
          obtain ⟨rfl, rfl⟩ := ih rightContinued tail
          exact ⟨rfl, rfl⟩

theorem runs_done_iff {value : α} {events : List (Event Op Answer)} {outcome : Except Thrown α} :
    Runs (.done value) events outcome ↔ events = [] ∧ outcome = .ok value := by
  constructor
  · intro runs
    cases runs
    exact ⟨rfl, rfl⟩
  · rintro ⟨rfl, rfl⟩
    exact .done

theorem runs_fail_iff {thrown : Thrown} {events : List (Event Op Answer)}
    {outcome : Except Thrown α} :
    Runs (.fail thrown) events outcome ↔ events = [] ∧ outcome = .error thrown := by
  constructor
  · intro runs
    cases runs
    exact ⟨rfl, rfl⟩
  · rintro ⟨rfl, rfl⟩
    exact .fail

theorem runs_ofExcept_iff {result : Except Thrown α} {events : List (Event Op Answer)}
    {outcome : Except Thrown α} :
    Runs (ofExcept result) events outcome ↔ events = [] ∧ outcome = result := by
  cases result with
  | ok value => exact runs_done_iff
  | error thrown => exact runs_fail_iff

theorem runs_ask_iff {op : Op} {resume : Except Thrown (Answer op) → Program Op Answer α}
    {events : List (Event Op Answer)} {outcome : Except Thrown α} :
    Runs (.ask op resume) events outcome ↔
      ∃ answer rest, events = ⟨op, answer⟩ :: rest ∧ Runs (resume answer) rest outcome := by
  constructor
  · intro runs
    cases runs with
    | ask continued => exact ⟨_, _, rfl, continued⟩
  · rintro ⟨answer, rest, rfl, continued⟩
    exact .ask continued

theorem runs_perform_iff {op : Op} {events : List (Event Op Answer)}
    {outcome : Except Thrown (Answer op)} :
    Runs (perform op) events outcome ↔ events = [⟨op, outcome⟩] := by
  simp only [perform, runs_ask_iff, runs_ofExcept_iff]
  constructor
  · rintro ⟨answer, rest, rfl, rfl, rfl⟩
    rfl
  · rintro rfl
    exact ⟨outcome, [], rfl, rfl, rfl⟩

/-- A sequence either gets past its first part, or ends where that throws. -/
theorem runs_bind_iff {program : Program Op Answer α} {next : α → Program Op Answer β}
    {events : List (Event Op Answer)} {outcome : Except Thrown β} :
    Runs (program.bind next) events outcome ↔
      (∃ value first rest, Runs program first (.ok value) ∧ Runs (next value) rest outcome ∧
        events = first ++ rest) ∨
      ∃ thrown, Runs program events (.error thrown) ∧ outcome = .error thrown := by
  induction program generalizing events with
  | done value =>
      simp only [bind, runs_done_iff]
      constructor
      · intro continued
        exact .inl ⟨value, [], events, ⟨rfl, rfl⟩, continued, rfl⟩
      · rintro (⟨_, _, rest, ⟨rfl, same⟩, continued, rfl⟩ | ⟨thrown, ⟨_, same⟩, _⟩)
        · cases same
          exact continued
        · cases same
  | fail thrown =>
      simp only [bind, runs_fail_iff]
      constructor
      · rintro ⟨rfl, rfl⟩
        exact .inr ⟨thrown, ⟨rfl, rfl⟩, rfl⟩
      · rintro (⟨_, _, _, ⟨_, same⟩, _⟩ | ⟨_, ⟨rfl, same⟩, rfl⟩)
        · cases same
        · cases same
          exact ⟨rfl, rfl⟩
  | ask op resume ih =>
      simp only [bind, runs_ask_iff, ih]
      constructor
      · rintro ⟨answer, rest, rfl, ⟨value, first, last, ran, continued, rfl⟩ | ⟨thrown, ran, rfl⟩⟩
        · exact .inl ⟨value, _, last, ⟨answer, first, rfl, ran⟩, continued, rfl⟩
        · exact .inr ⟨thrown, ⟨answer, rest, rfl, ran⟩, rfl⟩
      · rintro (⟨value, _, last, ⟨answer, first, rfl, ran⟩, continued, rfl⟩ |
          ⟨thrown, ⟨answer, rest, rfl, ran⟩, rfl⟩)
        · exact ⟨answer, first ++ last, rfl, .inl ⟨value, first, last, ran, continued, rfl⟩⟩
        · exact ⟨answer, rest, rfl, .inr ⟨thrown, ran, rfl⟩⟩

theorem runs_attempt_iff {program : Program Op Answer α} {events : List (Event Op Answer)}
    {outcome : Except Thrown (Except Thrown α)} :
    Runs program.attempt events outcome ↔ ∃ result, Runs program events result ∧ outcome = .ok result := by
  induction program generalizing events with
  | done value => simp [attempt, runs_done_iff, and_assoc]
  | fail thrown => simp [attempt, runs_done_iff, runs_fail_iff, and_assoc]
  | ask op resume ih =>
      simp only [attempt, runs_ask_iff, ih]
      constructor
      · rintro ⟨answer, rest, rfl, result, ran, rfl⟩
        exact ⟨result, ⟨answer, rest, rfl, ran⟩, rfl⟩
      · rintro ⟨result, ⟨answer, rest, rfl, ran⟩, rfl⟩
        exact ⟨answer, rest, rfl, result, ran, rfl⟩

/-- A recovery is heard only after something was thrown. -/
theorem runs_recover_iff {program : Program Op Answer α} {handle : Thrown → Program Op Answer α}
    {events : List (Event Op Answer)} {outcome : Except Thrown α} :
    Runs (program.recover handle) events outcome ↔
      (∃ value, Runs program events (.ok value) ∧ outcome = .ok value) ∨
      ∃ thrown first rest, Runs program first (.error thrown) ∧ Runs (handle thrown) rest outcome ∧
        events = first ++ rest := by
  simp only [recover, runs_bind_iff, runs_attempt_iff]
  constructor
  · rintro (⟨value, first, rest, ⟨result, ran, same⟩, continued, rfl⟩ | ⟨thrown, ⟨result, _, same⟩, _⟩)
    · cases same
      cases value with
      | ok value =>
          obtain ⟨rfl, rfl⟩ := runs_done_iff.mp continued
          exact .inl ⟨value, by simpa using ran, rfl⟩
      | error thrown => exact .inr ⟨thrown, first, rest, ran, continued, rfl⟩
    · cases same
  · rintro (⟨value, ran, rfl⟩ | ⟨thrown, first, rest, ran, continued, rfl⟩)
    · exact .inl ⟨.ok value, events, [], ⟨_, ran, rfl⟩, .done, by simp⟩
    · exact .inl ⟨.error thrown, first, rest, ⟨_, ran, rfl⟩, continued, rfl⟩

/-- What a program with a last step ends in: what the last step throws comes first. -/
def closedWith (closing : Except Thrown Unit) (result : Except Thrown α) : Except Thrown α :=
  match closing with
  | .ok () => result
  | .error thrown => .error thrown

theorem closedWith_eq_ok_iff {closing : Except Thrown Unit} {result : Except Thrown α} {value : α} :
    closedWith closing result = .ok value ↔ closing = .ok () ∧ result = .ok value := by
  cases closing with
  | ok closed => simp [closedWith]
  | error thrown => simp [closedWith]

/-- A last step is heard however the program before it ended. -/
theorem runs_ensuring_iff {program : Program Op Answer α} {last : Program Op Answer Unit}
    {events : List (Event Op Answer)} {outcome : Except Thrown α} :
    Runs (program.ensuring last) events outcome ↔
      ∃ result closing first rest, Runs program first result ∧ Runs last rest closing ∧
        events = first ++ rest ∧ outcome = closedWith closing result := by
  simp only [ensuring, runs_bind_iff, runs_attempt_iff, runs_ofExcept_iff]
  constructor
  · rintro (⟨_, first, _, ⟨result, ran, same⟩, ⟨⟨⟩, rest, _, closed, ⟨rfl, rfl⟩, rfl⟩ |
        ⟨thrown, closed, rfl⟩, rfl⟩ | ⟨_, ⟨_, _, same⟩, _⟩)
    · cases same
      exact ⟨_, .ok (), first, rest, ran, closed, by simp, rfl⟩
    · cases same
      exact ⟨_, .error thrown, first, _, ran, closed, rfl, rfl⟩
    · cases same
  · rintro ⟨result, closing, first, rest, ran, closed, rfl, rfl⟩
    refine .inl ⟨result, first, rest, ⟨_, ran, rfl⟩, ?_, rfl⟩
    cases closing with
    | ok value => exact .inl ⟨(), rest, [], closed, ⟨rfl, rfl⟩, by simp⟩
    | error thrown => exact .inr ⟨thrown, closed, rfl⟩

/-!
## Sequencing
-/

@[simp] theorem bind_eq (program : Program Op Answer α) (next : α → Program Op Answer β) :
    program >>= next = program.bind next := rfl

theorem bind_assoc (program : Program Op Answer α) (next : α → Program Op Answer β)
    (last : β → Program Op Answer γ) :
    (program.bind next).bind last = program.bind fun value => (next value).bind last := by
  induction program with
  | done value => rfl
  | fail thrown => rfl
  | ask op resume ih =>
      simp only [bind]
      congr 1
      funext answer
      exact ih answer

theorem bind_done (program : Program Op Answer α) : program.bind .done = program := by
  induction program with
  | done value => rfl
  | fail thrown => rfl
  | ask op resume ih =>
      simp only [bind]
      congr 1
      funext answer
      exact ih answer

theorem run_perform (handler : Handler Op Answer σ) (state : σ) (op : Op) :
    (perform op : Program Op Answer (Answer op)).run handler state =
      ⟨(handler.answer state op).1, [⟨op, (handler.answer state op).2⟩], (handler.answer state op).2⟩ := by
  simp only [perform, run]
  cases (handler.answer state op).2 <;> rfl

/-- The second part of a sequence begins in the state that the first part leaves. -/
theorem run_bind (handler : Handler Op Answer σ) (state : σ) (program : Program Op Answer α)
    (next : α → Program Op Answer β) :
    (program.bind next).run handler state =
      match (program.run handler state).outcome with
      | .ok value =>
        let rest := (next value).run handler (program.run handler state).state
        ⟨rest.state, (program.run handler state).events ++ rest.events, rest.outcome⟩
      | .error thrown =>
        ⟨(program.run handler state).state, (program.run handler state).events, .error thrown⟩ := by
  induction program generalizing state with
  | done value => simp [bind, run]
  | fail thrown => simp [bind, run]
  | ask op resume ih =>
      simp only [bind, run, ih]
      split <;> rfl

/-- A recovery is run only after something was thrown, in the state that was left behind. -/
theorem run_recover (handler : Handler Op Answer σ) (state : σ) (program : Program Op Answer α)
    (handle : Thrown → Program Op Answer α) :
    (program.recover handle).run handler state =
      match (program.run handler state).outcome with
      | .ok _ => program.run handler state
      | .error thrown =>
        let rest := (handle thrown).run handler (program.run handler state).state
        ⟨rest.state, (program.run handler state).events ++ rest.events, rest.outcome⟩ := by
  induction program generalizing state with
  | done value => rfl
  | fail thrown => rfl
  | ask op resume ih =>
      simp only [recover, attempt, bind, run] at ih ⊢
      rw [ih]
      split <;> rfl

theorem events_bind (handler : Handler Op Answer σ) (state : σ) (program : Program Op Answer α)
    (next : α → Program Op Answer β) :
    ∃ rest, ((program.bind next).run handler state).events =
      (program.run handler state).events ++ rest := by
  rw [run_bind]
  cases (program.run handler state).outcome with
  | ok value => exact ⟨_, rfl⟩
  | error thrown => exact ⟨[], (List.append_nil _).symm⟩

theorem events_recover (handler : Handler Op Answer σ) (state : σ) (program : Program Op Answer α)
    (handle : Thrown → Program Op Answer α) :
    ∃ rest, ((program.recover handle).run handler state).events =
      (program.run handler state).events ++ rest := by
  rw [run_recover]
  cases (program.run handler state).outcome with
  | ok value => exact ⟨[], (List.append_nil _).symm⟩
  | error thrown => exact ⟨_, rfl⟩

theorem outcome_bind_of_ok {handler : Handler Op Answer σ} {state : σ} {program : Program Op Answer α}
    {next : α → Program Op Answer β} {value : α}
    (succeeded : (program.run handler state).outcome = .ok value) :
    ((program.bind next).run handler state).outcome =
      ((next value).run handler (program.run handler state).state).outcome := by
  rw [run_bind, succeeded]

/-!
## Operations that a program may ask for
-/

/-- Every operation that the program can come to ask for is allowed, whatever the answers are. -/
def AsksOnly (allowed : Op → Prop) : Program Op Answer α → Prop
  | .done _ => True
  | .fail _ => True
  | .ask op resume => allowed op ∧ ∀ answer, (resume answer).AsksOnly allowed

namespace AsksOnly

variable {allowed : Op → Prop}

theorem mono {wider : Op → Prop} {program : Program Op Answer α}
    (asks : program.AsksOnly allowed) (widens : ∀ op, allowed op → wider op) :
    program.AsksOnly wider := by
  induction program with
  | done value => trivial
  | fail thrown => trivial
  | ask op resume ih => exact ⟨widens op asks.1, fun answer => ih answer (asks.2 answer)⟩

theorem ofExcept (result : Except Thrown α) :
    (Program.ofExcept result : Program Op Answer α).AsksOnly allowed := by
  cases result <;> trivial

theorem perform {op : Op} (permitted : allowed op) :
    (Program.perform op : Program Op Answer (Answer op)).AsksOnly allowed :=
  ⟨permitted, fun answer => .ofExcept answer⟩

theorem bind {program : Program Op Answer α} {next : α → Program Op Answer β}
    (first : program.AsksOnly allowed) (rest : ∀ value, (next value).AsksOnly allowed) :
    (program.bind next).AsksOnly allowed := by
  induction program with
  | done value => exact rest value
  | fail thrown => trivial
  | ask op resume ih => exact ⟨first.1, fun answer => ih answer (first.2 answer)⟩

theorem attempt {program : Program Op Answer α} (asks : program.AsksOnly allowed) :
    program.attempt.AsksOnly allowed := by
  induction program with
  | done value => trivial
  | fail thrown => trivial
  | ask op resume ih => exact ⟨asks.1, fun answer => ih answer (asks.2 answer)⟩

theorem recover {program : Program Op Answer α} {handle : Thrown → Program Op Answer α}
    (asks : program.AsksOnly allowed) (handled : ∀ thrown, (handle thrown).AsksOnly allowed) :
    (program.recover handle).AsksOnly allowed := by
  refine asks.attempt.bind fun result => ?_
  cases result with
  | ok value => trivial
  | error thrown => exact handled thrown

theorem ensuring {program : Program Op Answer α} {last : Program Op Answer Unit}
    (asks : program.AsksOnly allowed) (closes : last.AsksOnly allowed) :
    (program.ensuring last).AsksOnly allowed :=
  asks.attempt.bind fun result => closes.bind fun _ => .ofExcept result

end AsksOnly

theorem Runs.allowed_of_mem {allowed : Op → Prop} {program : Program Op Answer α}
    {events : List (Event Op Answer)} {outcome : Except Thrown α}
    (runs : Runs program events outcome) (asks : program.AsksOnly allowed)
    {event : Event Op Answer} (member : event ∈ events) : allowed event.op := by
  induction runs with
  | done => cases member
  | fail => cases member
  | ask _ ih =>
      rcases List.mem_cons.mp member with rfl | member
      · exact asks.1
      · exact ih (asks.2 _) member

end JoinTrust.Program
