import JoinTrust.Proofs.Evidence

set_option autoImplicit false

/-!
Procedures that do not look at what a reply says before it is verified. Two scripts of replies are
alike when they differ in such content only; a blind procedure goes on in one way after both, and so
holds one conversation with every world that plays them.
-/

namespace JoinTrust

/-- Two answers to a request that nobody has verified yet and that are not to be told apart: replies to
the first request of a call with one status, or replies with status 200 and one set of headers to an
unverified request whose bodies both fail the check of the response hash. -/
inductive AlikeReplies (token : String) (first : Bool) (client : Client) (request : Request) :
    Except Thrown Reply → Except Thrown Reply → Prop where
  | same {answer : Except Thrown Reply} : AlikeReplies token first client request answer answer
  | probe {left right : Reply} :
      first = true → left.status = right.status →
      AlikeReplies token first client request (.ok left) (.ok right)
  | unverified {left right : Reply} {nonce : String} :
      client.options.trust = .insecure → request.headers.get? "X-Cattle-Nonce" = some nonce →
      left.status = 200 → right.status = 200 → left.headers = right.headers →
      Integrity.verify token nonce left.body (left.headers.get? "x-cattle-hash") = false →
      Integrity.verify token nonce right.body (right.headers.get? "x-cattle-hash") = false →
      AlikeReplies token first client request (.ok left) (.ok right)

namespace Command

def isGet : Command → Bool
  | .get _ _ => true
  | _ => false

/-- Answers to an operation that are not to be told apart. Only replies can be alike and differ. -/
def Alike (token : String) (first : Bool) :
    (command : Command) → Except Thrown command.Answer → Except Thrown command.Answer → Prop
  | .get client request => AlikeReplies token first client request
  | _ => Eq

theorem eq_of_alike {token : String} {first : Bool} {command : Command}
    {left right : Except Thrown command.Answer} (alike : command.Alike token first left right)
    (other : command.isGet = false) : left = right := by
  cases command with
  | get client request => cases other
  | _ => exact alike

end Command

namespace Procedure

variable {α β : Type} {token : String} {first : Bool}

def Silent (procedure : Procedure α) : Prop :=
  procedure.AsksOnly fun command => command.isGet = false

theorem silent_of_keepsTo {topics : List Topic} {procedure : Procedure α}
    (keeps : procedure.KeepsTo topics) (noClient : .client ∉ topics) : procedure.Silent := by
  apply keeps.mono
  intro command among
  cases command with
  | get client request => exact absurd among noClient
  | _ => rfl

theorem silent_ofResult (result : Except Failure α) : (ofResult result).Silent := by
  cases result <;> trivial

/-- A procedure that goes on alike after alike answers, from its first request or from a later one. -/
def BlindTo (token : String) : Bool → Procedure α → Prop
  | _, .done _ => True
  | _, .fail _ => True
  | first, .ask command resume =>
    (∀ left right, command.Alike token first left right → resume left = resume right) ∧
      ∀ answer, BlindTo token (first && !command.isGet) (resume answer)

theorem Silent.blindTo {procedure : Procedure α} (silent : procedure.Silent) :
    BlindTo token first procedure := by
  induction procedure with
  | done value => trivial
  | fail thrown => trivial
  | ask command resume ih =>
      obtain ⟨other, later⟩ := silent
      refine ⟨?_, ?_⟩
      · intro left right alike
        rw [Command.eq_of_alike alike other]
      · intro answer
        rw [other, Bool.not_false, Bool.and_true]
        exact ih answer (later answer)

theorem Silent.blindTo_bind {procedure : Procedure α} {next : α → Procedure β}
    (silent : procedure.Silent) (rest : ∀ value, BlindTo token first (next value)) :
    BlindTo token first (procedure.bind next) := by
  induction procedure with
  | done value => exact rest value
  | fail thrown => trivial
  | ask command resume ih =>
      obtain ⟨other, later⟩ := silent
      refine ⟨?_, ?_⟩
      · intro left right alike
        rw [Command.eq_of_alike alike other]
      · intro answer
        rw [other, Bool.not_false, Bool.and_true]
        exact ih answer (later answer)

/-- What follows after a client's one request was answered: the client is closed, and the sequence goes
on with the result. -/
def afterReply (client : Client) (result : Procedure α) (next : α → Procedure β) : Procedure β :=
  result.attempt.bind fun outcome =>
    (perform (.close client)).bind fun _ => (Program.ofExcept outcome).bind next

theorem withClient_bind (options : ClientOptions) (use : Client → Procedure α) (next : α → Procedure β) :
    (withClient options use).bind next = (perform (.create options)).bind fun serial =>
      afterReply ⟨options, serial⟩ (use ⟨options, serial⟩) next := by
  simp only [withClient, afterReply, Program.ensuring, Program.bind_eq, Program.bind_assoc]

/-- The use of a client is blind if what follows after alike replies to its one request is the same,
and if the sequence is blind from there. -/
theorem blindTo_withClient {options : ClientOptions} {request : Request} {use : Client → Procedure α}
    {after : Client → Except Thrown Reply → Procedure α} {next : α → Procedure β}
    (asks : ∀ client, use client = .ask (.get client request) (after client))
    (alike : ∀ client : Client, client.options = options → ∀ left right,
      AlikeReplies token first client request left right →
      afterReply client (after client left) next = afterReply client (after client right) next)
    (silent : ∀ client answer, (after client answer).Silent)
    (rest : ∀ value, BlindTo token false (next value)) :
    BlindTo token first ((withClient options use).bind next) := by
  rw [withClient_bind]
  refine ⟨?_, ?_⟩
  · intro left right same
    rw [Command.eq_of_alike same rfl]
  intro answer
  cases answer with
  | error thrown => trivial
  | ok serial =>
      change BlindTo token (first && true) (afterReply ⟨options, serial⟩ (use ⟨options, serial⟩) next)
      rw [asks, Bool.and_true]
      refine ⟨alike ⟨options, serial⟩ rfl, ?_⟩
      intro heard
      change BlindTo token (first && false) (afterReply ⟨options, serial⟩ (after _ heard) next)
      rw [Bool.and_false]
      refine Silent.blindTo_bind (silent _ heard).attempt fun outcome => ?_
      refine Silent.blindTo_bind (Program.AsksOnly.perform rfl) fun _ => ?_
      cases outcome with
      | ok value => exact rest value
      | error thrown => trivial

/-- An exchange whose failure is told is blind if the sequence goes on alike with alike replies. -/
theorem blindTo_exchange {options : ClientOptions} {request : Request}
    {refuse : Thrown → Procedure Reply} {next : Reply → Procedure β}
    (alike : ∀ client : Client, client.options = options → ∀ left right,
      AlikeReplies token first client request (.ok left) (.ok right) → next left = next right)
    (silent : ∀ thrown, (refuse thrown).Silent) (rest : ∀ reply, BlindTo token false (next reply)) :
    BlindTo token first
      ((withClient options fun client => (get client request).recover refuse).bind next) := by
  refine blindTo_withClient (fun client => rfl) ?_ ?_ rest
  · intro client same left right heard
    have answered {left right : Reply}
        (heard : AlikeReplies token first client request (.ok left) (.ok right)) :
        afterReply client ((Program.ofExcept (.ok left)).recover refuse) next =
          afterReply client ((Program.ofExcept (.ok right)).recover refuse) next := by
      change ((perform (.close client)).bind fun _ => next left) =
        (perform (.close client)).bind fun _ => next right
      rw [alike client same left right heard]
    cases heard with
    | same => rfl
    | probe begins status => exact answered (.probe begins status)
    | unverified insecure carried ok alsoOk headers wrong alsoWrong =>
        exact answered (.unverified insecure carried ok alsoOk headers wrong alsoWrong)
  · intro client answer
    exact .recover (.ofExcept answer) silent

end Procedure

/-!
## Worlds that play a script
-/

/-- The world in which requests are answered from a script, by their number, and everything else by
somebody who hears of the requests but not of the replies. -/
def Handler.answering {σ : Type} (others : Handler Command Command.Answer σ)
    (replies : Nat → Client → Request → Except Thrown Reply) :
    Handler Command Command.Answer (Nat × σ) where
  answer state
    | .get client request =>
      ((state.1 + 1, (others.answer state.2 (.get client request)).1),
        replies state.1 client request)
    | command =>
      ((state.1, (others.answer state.2 command).1), (others.answer state.2 command).2)

/-- Two executions match: they end alike, they ask for the same operations in the same order, and they
leave their world in the same state. -/
structure Execution.Matches {σ α : Type} (left right : Execution Command Command.Answer σ α) : Prop where
  outcome : left.outcome = right.outcome
  commands : left.events.map Event.op = right.events.map Event.op
  state : left.state = right.state

namespace Procedure

variable {σ α β : Type} {token : String} {others : Handler Command Command.Answer σ}
  {left right : Nat → Client → Request → Except Thrown Reply}

/-- Two scripts are alike on the requests of a transcript, the first of which has this number. -/
def AlikeOn (token : String) (left right : Nat → Client → Request → Except Thrown Reply) (number : Nat)
    (transcript : Transcript) : Prop :=
  ∀ index client request, transcript.requests[index]? = some (client, request) →
    AlikeReplies token (number + index == 0) client request
      (left (number + index) client request) (right (number + index) client request)

theorem AlikeOn.tail {number : Nat} {client : Client} {request : Request}
    {answer : Except Thrown Reply} {rest : Transcript}
    (alike : AlikeOn token left right number (⟨.get client request, answer⟩ :: rest)) :
    AlikeOn token left right (number + 1) rest := by
  intro index sender asked sent
  have shifted := alike (index + 1) sender asked sent
  rwa [← Nat.add_assoc, Nat.add_right_comm] at shifted

/-- A blind procedure cannot tell worlds apart whose scripts are alike on the requests that it sends. -/
theorem BlindTo.run_matches {procedure : Procedure α} {number : Nat} {state : σ}
    (blind : BlindTo token (number == 0) procedure)
    (alike : AlikeOn token left right number (procedure.run (others.answering left) (number, state)).events) :
    (procedure.run (others.answering left) (number, state)).Matches
      (procedure.run (others.answering right) (number, state)) := by
  induction procedure generalizing number state with
  | done value => exact ⟨rfl, rfl, rfl⟩
  | fail thrown => exact ⟨rfl, rfl, rfl⟩
  | ask command resume ih =>
      obtain ⟨same, later⟩ := blind
      cases command with
      | get client request =>
          -- Blindness makes the two resumptions one program, so that one hypothesis serves both runs.
          have resumed := same _ _ (alike 0 client request rfl)
          have rest : BlindTo token (number + 1 == 0) (resume (left number client request)) := by
            simpa [Command.isGet] using later (left number client request)
          obtain ⟨outcome, commands, state⟩ := ih _ rest alike.tail
          simp only [Nat.add_zero] at resumed
          simp only [Program.run, Handler.answering, ← resumed]
          exact ⟨outcome, congrArg (List.cons _) commands, state⟩
      | _ =>
          have rest := later (others.answer state _).2
          simp only [Command.isGet, Bool.not_false, Bool.and_true] at rest
          obtain ⟨outcome, commands, state⟩ := ih _ rest alike
          exact ⟨outcome, congrArg (List.cons _) commands, state⟩

/-- A procedure is indifferent to what nobody has verified: from the same state of the others, two
scripts that are alike on the requests of its transcript make it hold matching conversations. The token
is the one that the transcript shows to be in use. -/
def Indifferent (used : Transcript → String) (procedure : Procedure α) : Prop :=
  ∀ (σ : Type) (others : Handler Command Command.Answer σ) (state : σ)
    (left right : Nat → Client → Request → Except Thrown Reply),
    let call := procedure.run (others.answering left) (0, state)
    AlikeOn (used call.events) left right 0 call.events →
      call.Matches (procedure.run (others.answering right) (0, state))

theorem indifferent_of_blind {used : Transcript → String} {procedure : Procedure α}
    (blind : ∀ token, BlindTo token true procedure) : Indifferent used procedure := by
  intro σ others state left right call alike
  exact (blind _).run_matches alike

private theorem Silent.run_answering (others : Handler Command Command.Answer σ)
    (left right : Nat → Client → Request → Except Thrown Reply) {procedure : Procedure α}
    (silent : procedure.Silent) (number : Nat) (state : σ) :
    ∃ later events outcome,
      procedure.run (others.answering left) (number, state) = ⟨(number, later), events, outcome⟩ ∧
        procedure.run (others.answering right) (number, state) = ⟨(number, later), events, outcome⟩ := by
  induction procedure generalizing state with
  | done value => exact ⟨state, [], .ok value, rfl, rfl⟩
  | fail thrown => exact ⟨state, [], .error thrown, rfl, rfl⟩
  | ask command resume ih =>
      obtain ⟨other, rest⟩ := silent
      obtain ⟨later, events, outcome, onLeft, onRight⟩ :=
        ih (others.answer state command).2 (rest _) (others.answer state command).1
      refine ⟨later, ⟨command, (others.answer state command).2⟩ :: events, outcome, ?_, ?_⟩
      · cases command with
        | get client request => cases other
        | _ => simp only [Program.run, Handler.answering] at onLeft ⊢; rw [onLeft]
      · cases command with
        | get client request => cases other
        | _ => simp only [Program.run, Handler.answering] at onRight ⊢; rw [onRight]

theorem Silent.requests_eq_nil {procedure : Procedure α} {events : Transcript}
    {outcome : Except Thrown α} (silent : procedure.Silent) (runs : procedure.Runs events outcome) :
    events.requests = [] := by
  rw [Transcript.requests, List.filterMap_eq_nil_iff]
  intro event member
  have other := runs.allowed_of_mem silent member
  obtain ⟨op, answer⟩ := event
  cases op with
  | get client request => cases other
  | _ => rfl

/-- A sequence that sends nothing until its token is known is indifferent if it is blind from there,
under the token that was found. -/
theorem indifferent_bind {used : Transcript → String} {finding : Procedure α} (found : α → String)
    {next : α → Procedure β} (silent : finding.Silent)
    (shows : ∀ events value rest outcome, finding.Runs events (.ok value) →
      (next value).Runs rest outcome → used (events ++ rest) = found value)
    (blind : ∀ value, BlindTo (found value) true (next value)) :
    Indifferent used (finding.bind next) := by
  intro σ others state left right call alike
  obtain ⟨later, events, outcome, onLeft, onRight⟩ := silent.run_answering others left right 0 state
  have ran : finding.Runs events outcome := by
    have runs := Program.runs_run (others.answering left) (0, state) finding
    rwa [onLeft] at runs
  cases outcome with
  | error thrown =>
      have ended {replies : Nat → Client → Request → Except Thrown Reply}
          (on : finding.run (others.answering replies) (0, state) = ⟨(0, later), events, .error thrown⟩) :
          (finding.bind next).run (others.answering replies) (0, state) =
            ⟨(0, later), events, .error thrown⟩ := by
        rw [Program.run_bind, on]
      change Execution.Matches ((finding.bind next).run _ _) _
      rw [ended onLeft, ended onRight]
      exact ⟨rfl, rfl, rfl⟩
  | ok value =>
      have continued {replies : Nat → Client → Request → Except Thrown Reply}
          (on : finding.run (others.answering replies) (0, state) = ⟨(0, later), events, .ok value⟩) :
          (finding.bind next).run (others.answering replies) (0, state) =
            let rest := (next value).run (others.answering replies) (0, later)
            ⟨rest.state, events ++ rest.events, rest.outcome⟩ := by
        rw [Program.run_bind, on]
      change AlikeOn (used ((finding.bind next).run _ _).events) _ _ _ ((finding.bind next).run _ _).events at alike
      rw [continued onLeft] at alike
      have shown := shows events value _ _ ran
        (Program.runs_run (others.answering left) (0, later) (next value))
      have rest : AlikeOn (found value) left right 0
          ((next value).run (others.answering left) (0, later)).events := by
        intro index client request sent
        rw [← shown]
        apply alike
        rw [Transcript.requests, List.filterMap_append, ← Transcript.requests, silent.requests_eq_nil ran]
        exact sent
      obtain ⟨outcome, commands, state⟩ := (blind value).run_matches rest
      change Execution.Matches ((finding.bind next).run _ _) _
      rw [continued onLeft, continued onRight]
      refine ⟨outcome, ?_, state⟩
      rw [List.map_append, List.map_append, commands]

end Procedure

end JoinTrust
