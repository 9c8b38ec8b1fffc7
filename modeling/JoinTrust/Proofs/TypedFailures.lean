import JoinTrust.Artifact
import JoinTrust.Proofs.Blindness
import JoinTrust.Proofs.GenuineServer
import JoinTrust.Proofs.RunEvidence

set_option autoImplicit false

/-!
Failures that have a class. What a nonce generator, a resolver, a server or the hardware throws is told
under a class, unless it has no message: then what asking for that throws is left, and this has no class.
What making or closing a client throws passes through every call as it is. With a trail that takes its
entries there are no other ways for a call to fail.
-/

namespace JoinTrust

def Command.ManagesClient : Command → Prop
  | .create _ => True
  | .close _ => True
  | _ => False

/-- The operations of a call whose failures no procedure tells under a class. -/
def Command.Unguarded : Command → Prop
  | .create _ => True
  | .close _ => True
  | .audit _ => True
  | _ => False

/-- The operations by which a run reports, and whose failures it leaves as they are. -/
def Command.Reports : Command → Prop
  | .write _ _ _ => True
  | .print _ => True
  | _ => False

def Thrown.Classified (thrown : Thrown) : Prop :=
  ∃ failure, thrown = .failure failure

/-- One of these operations failed with this. -/
def Transcript.Raised (sources : Command → Prop) (transcript : Transcript) (thrown : Thrown) : Prop :=
  ∃ event ∈ transcript, sources event.op ∧ event.answer = .error thrown

/-- An operation that manages no client failed with something of no message, and asking for that threw
this. -/
def Transcript.Silenced (transcript : Transcript) (thrown : Thrown) : Prop :=
  ∃ event ∈ transcript, ¬ event.op.ManagesClient ∧
    ∃ cause, event.answer = .error cause ∧ cause.silence? = some thrown

/-- What was thrown comes from a failure that is not told under a class. -/
def Transcript.Untold (sources : Command → Prop) (transcript : Transcript) (thrown : Thrown) : Prop :=
  transcript.Raised sources thrown ∨ transcript.Silenced thrown

namespace Transcript

variable {sources wider : Command → Prop} {first rest transcript : Transcript} {thrown : Thrown}

theorem raised_append_iff :
    Raised sources (first ++ rest) thrown ↔ Raised sources first thrown ∨ Raised sources rest thrown := by
  simp only [Raised, List.mem_append, or_and_right, exists_or]

theorem Raised.mono (raised : Raised sources transcript thrown)
    (widens : ∀ command, sources command → wider command) : Raised wider transcript thrown := by
  obtain ⟨event, member, among, failed⟩ := raised
  exact ⟨event, member, widens _ among, failed⟩

theorem silenced_append_iff :
    Silenced (first ++ rest) thrown ↔ Silenced first thrown ∨ Silenced rest thrown := by
  simp only [Silenced, List.mem_append, or_and_right, exists_or]

theorem untold_append_iff :
    Untold sources (first ++ rest) thrown ↔ Untold sources first thrown ∨ Untold sources rest thrown := by
  rw [Untold, raised_append_iff, silenced_append_iff]
  exact or_or_or_comm

theorem Untold.mono (untold : Untold sources transcript thrown)
    (widens : ∀ command, sources command → wider command) : Untold wider transcript thrown :=
  untold.imp_left fun raised => raised.mono widens

theorem raised_singleton {command : Command} {answer : Except Thrown command.Answer}
    (among : sources command) (failed : answer = .error thrown) :
    Raised sources [⟨command, answer⟩] thrown :=
  ⟨_, List.mem_singleton_self _, among, failed⟩

end Transcript

/-!
## Procedures
-/

namespace Procedure

variable {α β : Type} {sources : Command → Prop} {procedure : Procedure α}

/-- What a procedure throws has a class, or one of these operations threw it, or something that was
thrown has no message. -/
def ClassifiesExcept (sources : Command → Prop) (procedure : Procedure α) : Prop :=
  ∀ events thrown, procedure.Runs events (.error thrown) →
    thrown.Classified ∨ Transcript.Untold sources events thrown

namespace ClassifiesExcept

theorem done (value : α) : ClassifiesExcept sources (.done value) := by
  intro events thrown runs
  cases (Program.runs_done_iff.mp runs).2

theorem reject (failure : Failure) : ClassifiesExcept sources (Procedure.reject failure : Procedure α) := by
  intro events thrown runs
  cases (Procedure.runs_reject_iff.mp runs).2
  exact .inl ⟨failure, rfl⟩

theorem ofResult (result : Except Failure α) : ClassifiesExcept sources (Procedure.ofResult result) := by
  cases result with
  | ok value => exact done value
  | error failure => exact reject failure

theorem perform {command : Command} (among : sources command) :
    ClassifiesExcept sources (Procedure.perform command) := by
  intro events thrown runs
  obtain rfl := Procedure.runs_perform_iff.mp runs
  exact .inr (.inl (Transcript.raised_singleton among rfl))

theorem mono {wider : Command → Prop} (classifies : ClassifiesExcept sources procedure)
    (widens : ∀ command, sources command → wider command) : ClassifiesExcept wider procedure :=
  fun events thrown runs => (classifies events thrown runs).imp_right fun raised => raised.mono widens

theorem bind {next : α → Procedure β} (classifies : ClassifiesExcept sources procedure)
    (further : ∀ value, ClassifiesExcept sources (next value)) :
    ClassifiesExcept sources (Program.bind procedure next) := by
  intro events thrown runs
  rcases Program.runs_bind_iff.mp runs with ⟨value, _, _, _, continued, rfl⟩ | ⟨_, ran, same⟩
  · exact (further value _ _ continued).imp_right fun untold => Transcript.untold_append_iff.mpr (.inr untold)
  · cases same
    exact classifies _ _ ran

/-- What is recovered from is not thrown again, but what asking for its message throws may be. -/
theorem recover {handle : Thrown → Procedure α}
    (throws : ClassifiesExcept (fun command => ¬ command.ManagesClient) procedure)
    (handled : ∀ thrown, ClassifiesExcept sources (handle thrown)) :
    ClassifiesExcept sources (Program.recover procedure fun thrown => telling thrown (handle thrown)) := by
  intro events thrown runs
  rcases Program.runs_recover_iff.mp runs with ⟨_, _, same⟩ | ⟨cause, first, rest, ran, told, rfl⟩
  · cases same
  rw [Transcript.untold_append_iff]
  rcases runs_telling_iff.mp told with ⟨_, told⟩ | ⟨raised, silent, _, same⟩
  · exact (handled cause _ _ told).imp_right .inr
  · cases same
    -- Failures with a class and errors have messages, so that the cause is what an operation failed with.
    rcases throws _ _ ran with ⟨failure, rfl⟩ | ⟨event, member, among, failed⟩ | ⟨_, _, _, _, _, other⟩
    · cases silent
    · exact .inr (.inl (.inr ⟨event, member, among, cause, failed, silent⟩))
    · obtain ⟨_, _, rfl⟩ := Thrown.eq_error_of_silence? other
      cases silent

theorem ensuring {last : Procedure Unit} (classifies : ClassifiesExcept sources procedure)
    (closes : ClassifiesExcept sources last) : ClassifiesExcept sources (Program.ensuring procedure last) := by
  intro events thrown runs
  obtain ⟨result, closing, _, _, ran, closed, rfl, same⟩ := Program.runs_ensuring_iff.mp runs
  rw [Transcript.untold_append_iff]
  cases closing with
  | error other =>
      cases same
      exact (closes _ _ closed).imp_right .inr
  | ok value =>
      cases same
      exact (classifies _ _ ran).imp_right .inl

theorem withClient {options : ClientOptions} {use : Client → Procedure α}
    (manages : ∀ command, command.ManagesClient → sources command)
    (uses : ∀ client, ClassifiesExcept sources (use client)) :
    ClassifiesExcept sources (Procedure.withClient options use) :=
  .bind (.perform (manages _ trivial)) fun _ => .ensuring (uses _) (.perform (manages _ trivial))

end ClassifiesExcept

/-- What one of these operations throws is what the procedure throws. -/
def PassesOn (sources : Command → Prop) (procedure : Procedure α) : Prop :=
  ∀ events outcome thrown, procedure.Runs events outcome → Transcript.Raised sources events thrown →
    outcome = .error thrown

namespace PassesOn

theorem of_asksOnly {allowed : Command → Prop} (asks : procedure.AsksOnly allowed)
    (others : ∀ command, allowed command → ¬ sources command) : PassesOn sources procedure := by
  rintro events outcome thrown runs ⟨event, member, among, _⟩
  exact absurd among (others _ (runs.allowed_of_mem asks member))

theorem bind {next : α → Procedure β} (passes : PassesOn sources procedure)
    (further : ∀ value, PassesOn sources (next value)) : PassesOn sources (Program.bind procedure next) := by
  intro events outcome thrown runs raised
  rcases Program.runs_bind_iff.mp runs with ⟨value, _, _, ran, continued, rfl⟩ | ⟨cause, ran, rfl⟩
  · rcases Transcript.raised_append_iff.mp raised with before | after
    · cases passes _ _ _ ran before
    · exact further value _ _ _ continued after
  · cases passes _ _ _ ran raised
    rfl

theorem perform (command : Command) : PassesOn sources (Procedure.perform command) := by
  rintro events outcome thrown runs ⟨event, member, _, failed⟩
  obtain rfl := Procedure.runs_perform_iff.mp runs
  cases List.mem_singleton.mp member
  exact failed

/-- Closing comes last, so that nothing takes the place of what it throws. -/
theorem withClient {allowed : Command → Prop} {options : ClientOptions} {use : Client → Procedure α}
    (asks : ∀ client, (use client).AsksOnly allowed) (others : ∀ command, allowed command → ¬ sources command) :
    PassesOn sources (Procedure.withClient options use) := by
  refine .bind (perform _) fun serial => ?_
  intro events outcome thrown runs raised
  obtain ⟨result, closing, _, _, ran, closed, rfl, rfl⟩ := Program.runs_ensuring_iff.mp runs
  rcases Transcript.raised_append_iff.mp raised with before | after
  · obtain ⟨event, member, among, _⟩ := before
    exact absurd among (others _ (ran.allowed_of_mem (asks _) member))
  · cases perform _ _ _ _ closed after
    rfl

end PassesOn

/-- A procedure tells every failure under a class, but those of making and closing clients, which it
passes on as they are, and those of the trail. -/
structure TellsFailures (procedure : Procedure α) : Prop where
  classifies : ClassifiesExcept Command.Unguarded procedure
  passes : PassesOn Command.ManagesClient procedure

theorem not_managesClient_of_topic {topics : List Topic} (noClient : .client ∉ topics) (command : Command)
    (among : command.topic ∈ topics) : ¬ command.ManagesClient := by
  cases command with
  | create options => exact fun _ => noClient among
  | close client => exact fun _ => noClient among
  | _ => exact id

namespace TellsFailures

theorem of_keepsTo {topics : List Topic} (classifies : ClassifiesExcept Command.Unguarded procedure)
    (keeps : procedure.KeepsTo topics) (noClient : .client ∉ topics) : TellsFailures procedure where
  classifies := classifies
  passes := .of_asksOnly keeps (not_managesClient_of_topic noClient)

theorem ofResult (result : Except Failure α) : TellsFailures (Procedure.ofResult result) := by
  have silent : (Procedure.ofResult result).KeepsTo [] := .ofResult result
  exact of_keepsTo (.ofResult result) silent List.not_mem_nil

theorem done (value : α) : TellsFailures (.done value) :=
  ofResult (.ok value)

theorem reject (failure : Failure) : TellsFailures (Procedure.reject failure : Procedure α) :=
  ofResult (.error failure)

theorem audit (entry : Audit.Entry) : TellsFailures (Procedure.audit entry) := by
  have records : (Procedure.audit entry).KeepsTo [.audit] := .audit List.mem_cons_self
  exact of_keepsTo (.perform trivial) records (by decide)

theorem bind {next : α → Procedure β} (tells : TellsFailures procedure)
    (further : ∀ value, TellsFailures (next value)) : TellsFailures (Program.bind procedure next) where
  classifies := tells.classifies.bind fun value => (further value).classifies
  passes := tells.passes.bind fun value => (further value).passes

theorem withClient {options : ClientOptions} {use : Client → Procedure α}
    (classifies : ∀ client, ClassifiesExcept Command.Unguarded (use client))
    (asks : ∀ client, (use client).AsksOnly fun command => ¬ command.ManagesClient) :
    TellsFailures (Procedure.withClient options use) where
  classifies := by
    refine .withClient (fun command manages => ?_) classifies
    cases command <;> trivial
  passes := .withClient asks fun _ => id

end TellsFailures

end Procedure

open Procedure (ClassifiesExcept TellsFailures)

/-!
## Bootstraps and fetches
-/

namespace Bootstrapper

variable {url token : String} {scope : Scope}

theorem refuse_tells {α : Type} (failure : Failure) (status : Option Int) :
    TellsFailures (refuse url scope failure status : Procedure α) :=
  .bind (.audit _) fun _ => .reject failure

theorem probe_tells (bootstrapper : Bootstrapper) : TellsFailures (bootstrapper.probe url scope) := by
  refine .withClient (fun client => ?_) fun client => ?_
  · refine .recover (.bind (.perform id) fun reply => .bind (.perform id) fun _ => .done true) fun thrown => ?_
    exact .bind (.perform trivial) fun _ => .done false
  · refine .recover (.bind (.perform id) fun reply => ?_) fun thrown => .telling ?_
    · exact .bind (.perform id) fun _ => trivial
    · exact .bind (.perform id) fun _ => trivial

theorem download_tells (bootstrapper : Bootstrapper) (nonce : String) :
    TellsFailures (bootstrapper.download url scope nonce token) := by
  refine .withClient (fun client => ?_) fun client => ?_
  · exact .recover (.perform id) fun thrown => (refuse_tells _ _).classifies
  · exact .recover (.perform id) fun thrown => .telling (.bind (.perform id) fun _ => trivial)

theorem conclude_tells (status : Int) (judgement : Except Failure CaCerts) :
    TellsFailures (conclude url scope status judgement) := by
  cases judgement with
  | error failure => exact refuse_tells failure _
  | ok trusted =>
      obtain ⟨bundle, checksum⟩ := trusted
      cases bundle with
      | none => exact .bind (.audit _) fun _ => .done _
      | some bundle => exact .bind (.audit _) fun _ => .done _

theorem drawLetters_classifies (count : Nat) :
    ClassifiesExcept (fun command => ¬ command.ManagesClient) (Nonce.drawLetters count) := by
  induction count with
  | zero => exact .done []
  | succ count ih => exact .bind (.perform id) fun draw => .bind ih fun rest => .done _

theorem next_classifies (source : Nonce.Source) :
    ClassifiesExcept (fun command => ¬ command.ManagesClient) source.next := by
  cases source with
  | generated => exact .bind (drawLetters_classifies _) fun letters => .done _
  | supplied => exact .perform id

theorem caCerts_tells (bootstrapper : Bootstrapper) (server token : String) (scope : Scope) :
    TellsFailures (bootstrapper.caCerts server token scope) := by
  have draws : TellsFailures bootstrapper.nextNonce :=
    .of_keepsTo (.recover (next_classifies _) fun thrown => .reject _) bootstrapper.nextNonce_keepsTo (by decide)
  refine draws.bind fun nonce => .bind (.ofResult _) fun url => ?_
  refine bootstrapper.probe_tells.bind fun trusted => ?_
  cases trusted with
  | true => exact .done _
  | false => exact (bootstrapper.download_tells nonce).bind fun reply => conclude_tells _ _

end Bootstrapper

theorem Artifact.anchor_tells (bootstrapper : Bootstrapper) (server token : String) :
    TellsFailures (Artifact.anchor bootstrapper server token) :=
  (bootstrapper.caCerts_tells server token .cluster).bind fun _ => .done _

/-- A resolver tells what its source throws under a class. What somebody else resolves fails as it does. -/
theorem Resolver.resolve_classifies (resolver : Resolver) (token : String) :
    ClassifiesExcept (fun command => ¬ command.ManagesClient) (resolver.resolve token) := by
  cases resolver with
  | external => exact .perform id
  | hardware marker hasSource =>
      simp only [resolve]
      split
      · exact .done _
      · cases hasSource with
        | false => exact .reject _
        | true =>
            refine .bind (.recover (.perform id) fun thrown => .reject _) fun token => ?_
            by_cases empty : token.isEmpty = true
            · rw [if_pos empty]
              exact .reject _
            · rw [if_neg empty]
              exact .done _

namespace Fetcher

/-- A failed resolution is told under a class, if it is not of one already. -/
theorem resolved_classifies {procedure : Procedure ResolvedToken}
    (throws : ClassifiesExcept (fun command => ¬ command.ManagesClient) procedure) :
    ClassifiesExcept Command.Unguarded (procedure.recover fun
      | .failure failure => Procedure.reject failure
      | thrown => Procedure.telling thrown (Procedure.reject (.resolution thrown))) := by
  have alike : (fun thrown : Thrown => match thrown with
      | .failure failure => Procedure.reject failure
      | thrown => Procedure.telling thrown (Procedure.reject (.resolution thrown))) =
      fun thrown => Procedure.telling thrown (match thrown with
        | .failure failure => (Procedure.reject failure : Procedure ResolvedToken)
        | thrown => Procedure.reject (.resolution thrown)) := by
    funext thrown
    cases thrown <;> rfl
  rw [alike]
  refine .recover throws fun thrown => ?_
  cases thrown <;> exact .reject _

theorem usedToken_tells (fetcher : Fetcher) (token : String) (scope : Scope) :
    TellsFailures (fetcher.usedToken token scope) := by
  refine .of_keepsTo ?_ (fetcher.usedToken_keepsTo token scope) (by decide)
  cases scope with
  | cluster => exact .done _
  | machine => exact resolved_classifies (fetcher.resolver.resolve_classifies token)

theorem establish_tells (fetcher : Fetcher) (server token : String) (scope : Scope) :
    TellsFailures (fetcher.establish server token scope) :=
  (fetcher.usedToken_tells token scope).bind fun resolved =>
    (fetcher.bootstrapper.caCerts_tells server resolved.token scope).bind fun _ => .done _

theorem caCerts_tells (fetcher : Fetcher) (server token : String) (scope : Scope) :
    TellsFailures (fetcher.caCerts server token scope) :=
  (fetcher.establish_tells server token scope).bind fun _ => .done _

theorem refuse_tells {α : Type} (url : String) (failure : Failure) (status : Option Int) :
    TellsFailures (refuse url failure status : Procedure α) :=
  .bind (.audit _) fun _ => .reject failure

theorem hardwareGet_tells (fetcher : Fetcher) (url : String) (trusted : CaCerts) :
    TellsFailures (fetcher.hardwareGet url trusted) := by
  refine .of_keepsTo ?_ (fetcher.hardwareGet_keepsTo url trusted) (by decide)
  cases has : fetcher.hasHardware with
  | false =>
      rw [hardwareGet, has, if_neg Bool.false_ne_true]
      exact .reject _
  | true =>
      rw [hardwareGet, has, if_pos rfl]
      refine .bind (.recover (.perform id) fun thrown => (refuse_tells url _ _).classifies) fun body => ?_
      exact .bind (.perform trivial) fun _ => .done _

theorem plainGet_tells (fetcher : Fetcher) (url token : String) (scope : Scope) (trusted : CaCerts) :
    TellsFailures (fetcher.plainGet url token scope trusted) := by
  refine .bind (.withClient (fun client => ?_) fun client => ?_) fun reply => ?_
  · exact .recover (.perform id) fun thrown => (refuse_tells url _ _).classifies
  · exact .recover (.perform id) fun thrown => .telling (.bind (.perform id) fun _ => trivial)
  by_cases refused : reply.status ≠ 200
  · rw [if_pos refused]
    exact refuse_tells url _ _
  · rw [if_neg refused]
    exact .bind (.audit _) fun _ => .done _

theorem get_tells (fetcher : Fetcher) (server token path : String) (scope : Scope) :
    TellsFailures (fetcher.get server token path scope) := by
  refine .bind (.ofResult _) fun url => (fetcher.establish_tells server token scope).bind fun established => ?_
  cases established.resolved.hardwareBacked with
  | true => exact fetcher.hardwareGet_tells url _
  | false => exact fetcher.plainGet_tells url _ scope _

end Fetcher

/-!
## Runs
-/

namespace Run

/-- The failures that a run leaves as they are: those of the calls that it makes, and its own reports. -/
abbrev Passed (command : Command) : Prop :=
  command.Unguarded ∨ command.Reports

private theorem print_classifies (line : Workflow.Line) :
    ClassifiesExcept Passed (Procedure.print line) :=
  .perform (.inr trivial)

theorem gather_classifies (fetcher : Fetcher) (settings : Settings) :
    ClassifiesExcept Passed (gather fetcher settings) := by
  unfold gather
  split
  · exact .bind ((fetcher.caCerts_tells _ _ _).classifies.mono fun _ => .inl) fun _ => .done _
  · exact .bind ((fetcher.get_tells _ _ _ _).classifies.mono fun _ => .inl) fun _ => .done _

theorem deliverBundle_classifies (settings : Settings) (trusted : CaCerts) :
    ClassifiesExcept Passed (deliverBundle settings trusted) := by
  refine .bind (print_classifies _) fun _ => .bind (print_classifies _) fun _ => ?_
  split
  · exact .bind (print_classifies _) fun _ => .done _
  · split
    · exact .done _
    · exact .bind (.perform (.inr trivial)) fun _ => .bind (print_classifies _) fun _ => .done _

theorem deliverBody_classifies (settings : Settings) (checksum : String) (body : Bytes) :
    ClassifiesExcept Passed (deliverBody settings checksum body) := by
  refine .bind (print_classifies _) fun _ => ?_
  split
  · exact print_classifies _
  · exact .bind (.perform (.inr trivial)) fun _ => print_classifies _

theorem deliver_classifies (settings : Settings) (gathered : Gathered) :
    ClassifiesExcept Passed (deliver settings gathered) := by
  refine .bind (deliverBundle_classifies settings _) fun _ => ?_
  split
  · exact .done _
  · exact .bind (deliverBody_classifies settings _ _) fun _ => .done _

theorem start_classifies (fetcher : Fetcher) (loaded : Except Failure Settings) :
    ClassifiesExcept Passed (start fetcher loaded) := by
  refine .bind (.ofResult loaded) fun settings => ?_
  rw [withSettings_eq]
  exact .bind (print_classifies _) fun _ =>
    .bind (gather_classifies fetcher settings) fun gathered => deliver_classifies settings gathered

theorem classOf_ne_unknown {thrown : Thrown} (classified : thrown.Classified) :
    classOf thrown ≠ "UNKNOWN" := by
  obtain ⟨failure, rfl⟩ := classified
  change failure.kind.code ≠ _
  cases failure.kind <;> decide

end Run

def Command.isCreate : Command → Bool
  | .create _ => true
  | _ => false

def Command.isClose : Command → Bool
  | .close _ => true
  | _ => false

/-!
## Calls
-/

/-- How a call fails. What it throws has a class, or it is what making or closing a client failed with, or
something that was thrown has no message; and whatever making or closing a client fails with is thrown as it
is. -/
structure Transcript.FailsTyped {α : Type} (transcript : Transcript) (outcome : Except Thrown α) : Prop where
  typed {thrown : Thrown} : outcome = .error thrown →
    thrown.Classified ∨ transcript.Untold Command.ManagesClient thrown
  passed {thrown : Thrown} : transcript.Raised Command.ManagesClient thrown → outcome = .error thrown

section

variable {σ α : Type} {handler : Handler Command Command.Answer σ}

theorem raised_besides_audit {sources wider : Command → Prop} {state : σ} {procedure : Procedure α}
    {thrown : Thrown} (recorded : ∀ state entry, (handler.answer state (.audit entry)).2 = .ok ())
    (raised : Transcript.Raised sources (procedure.run handler state).events thrown)
    (others : ∀ command, sources command → command.topic ≠ .audit → wider command) :
    Transcript.Raised wider (procedure.run handler state).events thrown := by
  obtain ⟨⟨op, answer⟩, member, among, failed⟩ := raised
  by_cases audits : op.topic = .audit
  · obtain ⟨before, answered⟩ := Program.answered_of_mem_run member
    cases op with
    | audit entry =>
        rw [recorded] at answered
        cases failed.symm.trans answered
    | _ => cases audits
  · exact ⟨_, member, others op among audits, failed⟩

theorem Procedure.TellsFailures.failsTyped {procedure : Procedure α} (tells : TellsFailures procedure)
    (recorded : ∀ state entry, (handler.answer state (.audit entry)).2 = .ok ()) (state : σ) :
    Transcript.FailsTyped (procedure.run handler state).events (procedure.run handler state).outcome := by
  have runs := Program.runs_run handler state procedure
  constructor
  · intro thrown failed
    rw [failed] at runs
    refine (tells.classifies _ _ runs).imp_right fun untold => untold.imp_left fun raised => ?_
    refine raised_besides_audit recorded raised fun command among other => ?_
    cases command with
    | audit entry => exact absurd rfl other
    | _ => exact among
  · intro thrown raised
    exact tells.passes _ _ _ runs raised

end

/-- With a trail that takes its entries, whatever else answers and whatever throws, a call that is rejected
is rejected with a failure that has a class, unless a client could not be made or not be closed, or what was
thrown has no message. A run is reported as of no known class only for that, or for one of its own reports. -/
theorem failures_typed {σ : Type} (handler : Handler Command Command.Answer σ) (state : σ)
    (bootstrapper : Bootstrapper) (fetcher : Fetcher) (server token path : String) (scope : Scope)
    (loaded : Except Failure Settings)
    (recorded : ∀ state entry, (handler.answer state (.audit entry)).2 = .ok ()) :
    (let call := (bootstrapper.caCerts server token scope).run handler state
     Transcript.FailsTyped call.events call.outcome) ∧
    (let call := (Artifact.anchor bootstrapper server token).run handler state
     Transcript.FailsTyped call.events call.outcome) ∧
    (let call := (fetcher.caCerts server token scope).run handler state
     Transcript.FailsTyped call.events call.outcome) ∧
    (let call := (fetcher.get server token path scope).run handler state
     Transcript.FailsTyped call.events call.outcome) ∧
    (let call := (Run.start fetcher loaded).run handler state
     ∀ thrown, call.outcome = .error thrown → Run.classOf thrown = "UNKNOWN" →
      Transcript.Untold (fun command => command.ManagesClient ∨ command.Reports) call.events thrown) := by
  refine ⟨?bootstrap, ?anchor, ?establish, ?fetch, ?run⟩
  case bootstrap => exact (bootstrapper.caCerts_tells server token scope).failsTyped recorded state
  case anchor => exact (Artifact.anchor_tells bootstrapper server token).failsTyped recorded state
  case establish => exact (fetcher.caCerts_tells server token scope).failsTyped recorded state
  case fetch => exact (fetcher.get_tells server token path scope).failsTyped recorded state
  case run =>
    intro call thrown failed unknown
    have runs := Program.runs_run handler state (Run.start fetcher loaded)
    rw [failed] at runs
    rcases Run.start_classifies fetcher loaded _ _ runs with classified | untold
    · exact absurd unknown (Run.classOf_ne_unknown classified)
    · refine untold.imp_left fun raised => ?_
      refine raised_besides_audit recorded raised fun command among other => ?_
      rcases among with unguarded | reports
      · cases command with
        | audit entry => exact absurd rfl other
        | _ => exact .inl unguarded
      · exact .inr reports

theorem failures_typed_unreachable :
    let thrown : Thrown := .value (.str "unreachable")
    let world := (GenuineServer.handler "token" [1] [2]).failing Command.isGet thrown
    let call := (Bootstrapper.caCerts { nonces := .supplied } GenuineServer.address "token" .cluster).run world ()
    (∀ state entry, (world.answer state (.audit entry)).2 = .ok ()) ∧
      call.outcome = .error (.failure (.download "https://rancher.local/cacerts" thrown)) ∧
      Transcript.FailsTyped call.events call.outcome := by
  intro thrown world call
  have recorded : ∀ state entry, (world.answer state (.audit entry)).2 = .ok () := fun _ _ => rfl
  refine ⟨recorded, ?_, ?_⟩
  · simp only [call, Bootstrapper.caCerts, GenuineServer.caUrl_address, Procedure.ofResult]
    rfl
  · exact (failures_typed world () { nonces := .supplied } {} GenuineServer.address "token" "/v3/import"
      .cluster (.error .serverMissing) recorded).1

/-- A client that cannot be made, or cannot be closed, has a bootstrap rejected with a failure of no class,
although the trail takes every entry. -/
theorem unmanaged_client_untyped :
    let thrown : Thrown := .error "Error" "agent limit reached"
    let world (fails : Command → Bool) := (GenuineServer.handler "token" [1] [2]).failing fails thrown
    let call (fails : Command → Bool) :=
      (Bootstrapper.caCerts { nonces := .supplied } GenuineServer.address "token" .cluster).run (world fails) ()
    ¬ thrown.Classified ∧
      (∀ state entry, ((world Command.isCreate).answer state (.audit entry)).2 = .ok ()) ∧
      (∀ state entry, ((world Command.isClose).answer state (.audit entry)).2 = .ok ()) ∧
      (call Command.isCreate).outcome = .error thrown ∧ (call Command.isClose).outcome = .error thrown := by
  intro thrown world call
  refine ⟨?_, fun _ _ => rfl, fun _ _ => rfl, ?_, ?_⟩
  · rintro ⟨failure, same⟩
    exact Thrown.noConfusion same
  · simp only [call, Bootstrapper.caCerts, GenuineServer.caUrl_address, Procedure.ofResult]
    rfl
  · simp only [call, Bootstrapper.caCerts, GenuineServer.caUrl_address, Procedure.ofResult]
    rfl

end JoinTrust
