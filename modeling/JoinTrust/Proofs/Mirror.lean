import JoinTrust.Proofs.Evidence

set_option autoImplicit false

/-!
Two conversations side by side. Procedures mirror each other when they ask for the same operations, apart
from the places where a token may show, and go on alike unless one of them verifies a reply and the other
does not. In a world that is deaf to those places, such procedures cannot be told apart.
-/

namespace JoinTrust

/-!
## Where a token may show
-/

/-- The request with the value of every `Authorization` header blanked. -/
def Request.redacted (request : Request) : Request :=
  { request with
    headers := request.headers.map fun header =>
      (header.1, if header.1 = "Authorization" then "" else header.2) }

/-- The operation without a token: beside the credentials of requests, a token shows where it is looked
up and in the line that hides it. -/
def Command.redacted : Command → Command
  | .get client request => .get client request.redacted
  | .resolve _ => .resolve ""
  | .unsealToken _ => .unsealToken ""
  | .print (.mask _) => .print (.mask "")
  | command => command

theorem Request.get?_redacted (request : Request) {name : String} (other : name ≠ "Authorization") :
    request.redacted.headers.get? name = request.headers.get? name := by
  simp only [redacted, Assoc.get?, List.find?_map]
  change Option.map _ (Option.map _ (request.headers.find? (·.1 == name))) = _
  cases found : request.headers.find? (·.1 == name) with
  | none => rfl
  | some header =>
      have named : header.1 = name := by simpa using List.find?_some found
      simp [named, other]

/-!
## Worlds
-/

/-- A world that does not hear tokens. What it answers depends on the operation without its token, and
what it remembers may differ in tokens only: nothing that it answers later tells alike states apart. The
answers to a lookup alone are its own. -/
structure Handler.Deaf {σ : Type} (handler : Handler Command Command.Answer σ) (alike : σ → σ → Prop) :
    Prop where
  same {left right : σ} (command : Command) : alike left right →
    (handler.answer left command).2 = (handler.answer right command).2 ∧
      alike (handler.answer left command).1 (handler.answer right command).1
  get {left right : σ} {client : Client} {first second : Request} : alike left right →
    first.redacted = second.redacted →
    (handler.answer left (.get client first)).2 = (handler.answer right (.get client second)).2 ∧
      alike (handler.answer left (.get client first)).1 (handler.answer right (.get client second)).1
  mask {left right : σ} (first second : String) : alike left right →
    (handler.answer left (.print (.mask first))).2 = (handler.answer right (.print (.mask second))).2 ∧
      alike (handler.answer left (.print (.mask first))).1 (handler.answer right (.print (.mask second))).1
  resolve {left right : σ} (first second : String) : alike left right →
    alike (handler.answer left (.resolve first)).1 (handler.answer right (.resolve second)).1
  unsealToken {left right : σ} (first second : String) : alike left right →
    alike (handler.answer left (.unsealToken first)).1 (handler.answer right (.unsealToken second)).1

/-- A reply to an unverified request verifies under one token exactly when it verifies under another. -/
def VerifiesAlike (left right : String) : Event Command Command.Answer → Prop
  | ⟨.get client request, .ok reply⟩ =>
    client.options.trust = .insecure → ∀ nonce, request.headers.get? "X-Cattle-Nonce" = some nonce →
      (reply.headers.get? "x-cattle-hash" = some (Integrity.responseHash left nonce reply.body) ↔
        reply.headers.get? "x-cattle-hash" = some (Integrity.responseHash right nonce reply.body))
  | _ => True

/-- Executions that cannot be told apart but by tokens: they end alike, ask for the same operations in the
same order, apart from tokens, and leave their worlds in states that are alike. -/
structure Execution.Indistinct {σ α : Type} (alike : σ → σ → Prop)
    (left right : Execution Command Command.Answer σ α) : Prop where
  outcome : left.outcome = right.outcome
  commands : left.events.map (·.op.redacted) = right.events.map (·.op.redacted)
  state : alike left.state right.state

/-!
## Mirrored procedures
-/

/-- Procedures that mirror each other, whatever they are answered. Requests may differ in credentials, and
what follows on a reply need only be mirrored if that verifies under both tokens or under none. A value
that both end with satisfies the postcondition. -/
inductive Procedure.Mirrored {α : Type} (leftUsed rightUsed : String) (post : α → Prop) :
    Procedure α → Procedure α → Prop where
  | done {value : α} : post value → Mirrored leftUsed rightUsed post (.done value) (.done value)
  | fail {thrown : Thrown} : Mirrored leftUsed rightUsed post (.fail thrown) (.fail thrown)
  | ask {command : Command} {left right : Except Thrown command.Answer → Procedure α} :
      (∀ answer, Mirrored leftUsed rightUsed post (left answer) (right answer)) →
      Mirrored leftUsed rightUsed post (.ask command left) (.ask command right)
  | get {client : Client} {first second : Request} {left right : Except Thrown Reply → Procedure α} :
      first.redacted = second.redacted →
      (∀ answer, VerifiesAlike leftUsed rightUsed ⟨.get client first, answer⟩ →
        Mirrored leftUsed rightUsed post (left answer) (right answer)) →
      Mirrored leftUsed rightUsed post (.ask (.get client first) left) (.ask (.get client second) right)

namespace Procedure.Mirrored

variable {α β : Type} {leftUsed rightUsed : String} {post : α → Prop}

theorem refl (procedure : Procedure α) :
    Mirrored leftUsed rightUsed (fun _ => True) procedure procedure := by
  induction procedure with
  | done value => exact .done trivial
  | fail thrown => exact .fail
  | ask command resume ih => exact .ask ih

theorem bind {left right : Procedure α} {leftNext rightNext : α → Procedure β} {after : β → Prop}
    (mirrored : Mirrored leftUsed rightUsed post left right)
    (rest : ∀ value, post value → Mirrored leftUsed rightUsed after (leftNext value) (rightNext value)) :
    Mirrored leftUsed rightUsed after (left.bind leftNext) (right.bind rightNext) := by
  induction mirrored with
  | done holds => exact rest _ holds
  | fail => exact .fail
  | ask _ ih => exact .ask ih
  | get same _ ih => exact .get same ih

theorem sends {client : Client} {first second : Request} {post : Reply → Prop}
    (same : first.redacted = second.redacted)
    (answered : ∀ reply, VerifiesAlike leftUsed rightUsed ⟨.get client first, .ok reply⟩ → post reply) :
    Mirrored leftUsed rightUsed post (Procedure.get client first) (Procedure.get client second) := by
  refine .get same fun answer verifies => ?_
  cases answer with
  | ok reply => exact .done (answered reply verifies)
  | error thrown => exact .fail

theorem attempt {left right : Procedure α} (mirrored : Mirrored leftUsed rightUsed post left right) :
    Mirrored leftUsed rightUsed (fun result => ∀ value, result = .ok value → post value)
      left.attempt right.attempt := by
  induction mirrored with
  | done holds =>
      refine .done ?_
      rintro _ ⟨⟩
      exact holds
  | fail =>
      refine .done ?_
      rintro _ ⟨⟩
  | ask _ ih => exact .ask ih
  | get same _ ih => exact .get same ih

theorem recover {left right : Procedure α} {leftHandle rightHandle : Thrown → Procedure α}
    (mirrored : Mirrored leftUsed rightUsed post left right)
    (handled : ∀ thrown, Mirrored leftUsed rightUsed post (leftHandle thrown) (rightHandle thrown)) :
    Mirrored leftUsed rightUsed post (left.recover leftHandle) (right.recover rightHandle) := by
  refine mirrored.attempt.bind fun result holds => ?_
  cases result with
  | ok value => exact .done (holds value rfl)
  | error thrown => exact handled thrown

theorem telling {thrown : Thrown} {left right : Procedure α}
    (mirrored : Mirrored leftUsed rightUsed post left right) :
    Mirrored leftUsed rightUsed post (Procedure.telling thrown left) (Procedure.telling thrown right) := by
  unfold Procedure.telling
  split
  · exact mirrored
  · exact .fail

theorem ensuring {left right : Procedure α} (mirrored : Mirrored leftUsed rightUsed post left right)
    (last : Procedure Unit) :
    Mirrored leftUsed rightUsed post (left.ensuring last) (right.ensuring last) := by
  refine mirrored.attempt.bind fun result holds => (refl last).bind fun _ _ => ?_
  cases result with
  | ok value => exact .done (holds value rfl)
  | error thrown => exact .fail

theorem withClient {options : ClientOptions} {left right : Client → Procedure α}
    (mirrored : ∀ serial, Mirrored leftUsed rightUsed post (left ⟨options, serial⟩) (right ⟨options, serial⟩)) :
    Mirrored leftUsed rightUsed post (Procedure.withClient options left)
      (Procedure.withClient options right) :=
  (refl _).bind fun serial _ => (mirrored serial).ensuring _

/-- In a deaf world nobody can tell the two apart, if replies verify for both of them or for none. -/
theorem run_indistinct {σ : Type} {handler : Handler Command Command.Answer σ} {alike : σ → σ → Prop}
    (deaf : handler.Deaf alike) {left right : Procedure α}
    (mirrored : Mirrored leftUsed rightUsed post left right) {leftState rightState : σ}
    (same : alike leftState rightState)
    (verifies : ∀ event ∈ (left.run handler leftState).events, VerifiesAlike leftUsed rightUsed event) :
    Execution.Indistinct alike (left.run handler leftState) (right.run handler rightState) := by
  induction mirrored generalizing leftState rightState with
  | done => exact ⟨rfl, rfl, same⟩
  | fail => exact ⟨rfl, rfl, same⟩
  | @ask command left right _ ih =>
      obtain ⟨answered, after⟩ := deaf.same command same
      have rest := ih (handler.answer leftState command).2 after
        fun event member => verifies event (List.mem_cons_of_mem _ member)
      simp only [Program.run, ← answered]
      exact ⟨rest.outcome, congrArg (List.cons _) rest.commands, rest.state⟩
  | @get client first second left right redacted _ ih =>
      obtain ⟨answered, after⟩ := deaf.get same redacted
      have rest := ih (handler.answer leftState (.get client first)).2
        (verifies _ List.mem_cons_self) after
        fun event member => verifies event (List.mem_cons_of_mem _ member)
      have shown : (Command.get client first).redacted = (Command.get client second).redacted :=
        congrArg (Command.get client) redacted
      simp only [Program.run, ← answered]
      refine ⟨rest.outcome, ?_, rest.state⟩
      simp only [List.map_cons, shown, rest.commands]

end Procedure.Mirrored

end JoinTrust
