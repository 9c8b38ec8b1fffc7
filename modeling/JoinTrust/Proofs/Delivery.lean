import JoinTrust.Proofs.RunCourse

set_option autoImplicit false

/-!
Deliveries as lists of steps. What a run delivers is one list of commands that its settings and what it
gathered decide, and it performs them in turn until one is refused. What a run leaves behind is then a
matter of which of these steps came before the end.
-/

namespace JoinTrust

/-- What was asked for was done. -/
def Event.Granted (event : Event Command Command.Answer) : Prop :=
  ∃ value, event.answer = .ok value

/-- All that was asked for about one topic was done. -/
def Transcript.Granted (topic : Topic) (transcript : Transcript) : Prop :=
  ∀ event ∈ transcript, event.op.topic = topic → event.Granted

namespace Transcript.Granted

variable {topic : Topic} {first rest transcript : Transcript} {event : Event Command Command.Answer}

theorem right (granted : Granted topic (first ++ rest)) : Granted topic rest :=
  fun event member => granted event (List.mem_append_right first member)

theorem tail (granted : Granted topic (event :: rest)) : Granted topic rest :=
  fun other member => granted other (List.mem_cons_of_mem event member)

end Transcript.Granted

/-- In a world that takes every line, nothing that is printed is refused. -/
theorem Transcript.granted_run {σ α : Type} {handler : Handler Command Command.Answer σ} {topic : Topic}
    (grants : ∀ state command, command.topic = topic → ∃ value, (handler.answer state command).2 = .ok value)
    (state : σ) (procedure : Procedure α) : Granted topic (procedure.run handler state).events := by
  intro event member same
  obtain ⟨before, answered⟩ := Program.answered_of_mem_run member
  obtain ⟨value, granted⟩ := grants before event.op same
  exact ⟨value, answered.trans granted⟩

/-!
## Lists of steps
-/

namespace Procedure

/-- Performs one command after another. -/
def performAll : List Command → Procedure Unit
  | [] => .done ()
  | command :: rest => (perform command).bind fun _ => performAll rest

/-- Commands are performed in turn, until one is refused. -/
inductive Performed : List Command → Transcript → Except Thrown Unit → Prop where
  | all : Performed [] [] (.ok ())
  | granted {command : Command} {value : command.Answer} {rest : List Command} {events : Transcript}
      {outcome : Except Thrown Unit} :
      Performed rest events outcome → Performed (command :: rest) (⟨command, .ok value⟩ :: events) outcome
  | refused {command : Command} {thrown : Thrown} {rest : List Command} :
      Performed (command :: rest) [⟨command, .error thrown⟩] (.error thrown)

theorem performed_of_runs {commands : List Command} {events : Transcript} {outcome : Except Thrown Unit}
    (runs : (performAll commands).Runs events outcome) : Performed commands events outcome := by
  induction commands generalizing events with
  | nil =>
      obtain ⟨rfl, rfl⟩ := Program.runs_done_iff.mp runs
      exact .all
  | cons command rest ih =>
      rcases Program.runs_bind_iff.mp runs with ⟨_, _, _, performed, went, rfl⟩ | ⟨_, refused, rfl⟩
      · obtain rfl := runs_perform_iff.mp performed
        exact .granted (ih went)
      · obtain rfl := runs_perform_iff.mp refused
        exact .refused

theorem performAll_append (first rest : List Command) :
    performAll (first ++ rest) = (performAll first).bind fun _ => performAll rest := by
  induction first with
  | nil => rfl
  | cons command first ih =>
      simp only [List.cons_append, performAll, ih, Program.bind_assoc]

theorem performAll_asksOnly {allowed : Command → Prop} {commands : List Command}
    (permitted : ∀ command ∈ commands, allowed command) : (performAll commands).AsksOnly allowed := by
  induction commands with
  | nil => trivial
  | cons command rest ih =>
      obtain ⟨first, later⟩ := List.forall_mem_cons.mp permitted
      exact .bind (.perform first) fun _ => ih later

theorem Performed.ops_prefix {commands : List Command} {events : Transcript} {outcome : Except Thrown Unit}
    (performed : Performed commands events outcome) : events.map Event.op <+: commands := by
  induction performed with
  | all => exact List.nil_prefix
  | granted _ ih => exact List.cons_prefix_cons.mpr ⟨rfl, ih⟩
  | refused => exact List.cons_prefix_cons.mpr ⟨rfl, List.nil_prefix⟩

/-- Either every command was performed, or the commands before one that was refused. -/
theorem Performed.stops {commands : List Command} {events : Transcript} {outcome : Except Thrown Unit}
    (performed : Performed commands events outcome) :
    (outcome = .ok () ∧ events.map Event.op = commands ∧ ∀ event ∈ events, event.Granted) ∨
      ∃ before command after thrown, outcome = .error thrown ∧
        events = before ++ [⟨command, .error thrown⟩] ∧
        commands = before.map Event.op ++ command :: after ∧ ∀ event ∈ before, event.Granted := by
  induction performed with
  | all => exact .inl ⟨rfl, rfl, fun event member => by cases member⟩
  | @granted command value rest events outcome performed ih =>
      have done {later : Transcript} (granted : ∀ event ∈ later, event.Granted) :
          ∀ event ∈ (⟨command, .ok value⟩ :: later : Transcript), event.Granted :=
        List.forall_mem_cons.mpr ⟨⟨value, rfl⟩, granted⟩
      rcases ih with ⟨same, ops, granted⟩ | ⟨before, refused, after, thrown, same, rfl, steps, granted⟩
      · exact .inl ⟨same, by rw [List.map_cons, ops], done granted⟩
      · exact .inr ⟨⟨command, .ok value⟩ :: before, refused, after, thrown, same, rfl,
          by rw [steps]; rfl, done granted⟩
  | @refused command thrown rest =>
      exact .inr ⟨[], command, rest, thrown, rfl, rfl, rfl, fun event member => by cases member⟩

end Procedure

/-- What a command reports as an output. -/
def Command.output? : Command → Option (String × String)
  | .print (.output name value) => some (name.word, value)
  | _ => none

/-- What a command writes, and where, with the permissions that a new file gets. -/
def Command.write? : Command → Option (String × Bytes × Nat)
  | .write path content permissions => some (path, content, permissions)
  | _ => none

/-!
## The steps of a delivery
-/

namespace Run

/-- What is done with a bundle: two outputs, and a file that is told of or a line about why there is none. -/
def bundleSteps (settings : Settings) (trusted : CaCerts) : List Command :=
  [.print (.output .caOverride (if trusted.bundle.isSome then "true" else "false")),
    .print (.output .caChecksum trusted.checksum)] ++
  match trusted.bundle with
  | none => [.print (.info s!"Default trust store verifies {settings.server}; no CA bundle override needed")]
  | some bundle =>
    if settings.caFile.isEmpty then []
    else [.write settings.caFile bundle filePermissions,
      .print (.info s!"CA bundle written to {settings.caFile} (sha256 {trusted.checksum})")]

/-- What is done with a resource, if there is one. -/
def bodySteps (settings : Settings) (checksum : String) : Option Bytes → List Command
  | none => []
  | some body =>
    .print (.output .checksum checksum) ::
      if settings.outputFile.isEmpty then [.print (.output .body (Text.Utf8.decode body))]
      else [.write settings.outputFile body plainPermissions,
        .print (.info s!"{settings.path} written to {settings.outputFile} ({body.length} bytes)")]

def steps (settings : Settings) (gathered : Gathered) : List Command :=
  bundleSteps settings gathered.trusted ++ bodySteps settings gathered.trusted.checksum gathered.body

/-- What a step about a bundle can be. -/
inductive BundleStep (settings : Settings) (trusted : CaCerts) : Command → Prop where
  | reported (name : Workflow.OutputName) (value : String) :
      BundleStep settings trusted (.print (.output name value))
  | verified : trusted.bundle = none → BundleStep settings trusted (.print (.info
      s!"Default trust store verifies {settings.server}; no CA bundle override needed"))
  | written {bundle : Bytes} : trusted.bundle = some bundle →
      BundleStep settings trusted (.write settings.caFile bundle filePermissions)
  | told {bundle : Bytes} : trusted.bundle = some bundle → BundleStep settings trusted (.print (.info
      s!"CA bundle written to {settings.caFile} (sha256 {trusted.checksum})"))

/-- What a step about a resource can be. -/
inductive BodyStep (settings : Settings) : Option Bytes → Command → Prop where
  | reported {body : Bytes} (name : Workflow.OutputName) (value : String) :
      BodyStep settings (some body) (.print (.output name value))
  | written {body : Bytes} :
      BodyStep settings (some body) (.write settings.outputFile body plainPermissions)
  | told {body : Bytes} : BodyStep settings (some body) (.print (.info
      s!"{settings.path} written to {settings.outputFile} ({body.length} bytes)"))

theorem bundleStep_of_mem {settings : Settings} {trusted : CaCerts} {command : Command}
    (member : command ∈ bundleSteps settings trusted) : BundleStep settings trusted command := by
  obtain ⟨bundle, checksum⟩ := trusted
  rcases List.mem_append.mp member with reports | rest
  · simp only [List.mem_cons, List.not_mem_nil, or_false] at reports
    rcases reports with rfl | rfl
    · exact .reported _ _
    · exact .reported _ _
  · cases bundle with
    | none =>
        obtain rfl := List.mem_singleton.mp rest
        exact .verified rfl
    | some bundle =>
        cases empty : settings.caFile.isEmpty with
        | true => simp [empty] at rest
        | false =>
            simp only [empty, Bool.false_eq_true, if_false, List.mem_cons, List.not_mem_nil, or_false] at rest
            rcases rest with rfl | rfl
            · exact .written rfl
            · exact .told rfl

theorem bodyStep_of_mem {settings : Settings} {checksum : String} {body : Option Bytes} {command : Command}
    (member : command ∈ bodySteps settings checksum body) : BodyStep settings body command := by
  cases body with
  | none => cases member
  | some body =>
      rcases List.mem_cons.mp member with rfl | rest
      · exact .reported _ _
      · cases empty : settings.outputFile.isEmpty with
        | true =>
            rw [empty, if_pos rfl] at rest
            obtain rfl := List.mem_singleton.mp rest
            exact .reported _ _
        | false =>
            simp only [empty, Bool.false_eq_true, if_false, List.mem_cons, List.not_mem_nil, or_false] at rest
            rcases rest with rfl | rfl
            · exact .written
            · exact .told

/-- What a run tells its caller once every step is done. -/
def summarize (settings : Settings) (gathered : Gathered) : Summary where
  caOverride := gathered.trusted.bundle.isSome
  caChecksum := gathered.trusted.checksum
  caFileWritten := gathered.trusted.bundle.isSome && !settings.caFile.isEmpty
  fetchedBytes := gathered.body.map List.length

variable {settings : Settings} {gathered : Gathered}

theorem deliverBundle_eq (settings : Settings) (trusted : CaCerts) :
    deliverBundle settings trusted = (Procedure.performAll (bundleSteps settings trusted)).bind fun _ =>
      .done (trusted.bundle.isSome && !settings.caFile.isEmpty) := by
  obtain ⟨bundle, checksum⟩ := trusted
  rw [deliverBundle, bundleSteps]
  cases bundle with
  | none =>
      simp only [Procedure.performAll, List.cons_append, List.nil_append, Program.bind_eq,
        Program.bind_assoc, Program.bind]
      rfl
  | some bundle =>
      cases settings.caFile.isEmpty <;>
        simp only [Procedure.performAll, List.cons_append, List.nil_append, Program.bind_eq,
          Program.bind_assoc, Program.bind, if_true, Bool.false_eq_true, if_false] <;> rfl

theorem deliverBody_eq (settings : Settings) (checksum : String) (body : Bytes) :
    deliverBody settings checksum body = Procedure.performAll (bodySteps settings checksum (some body)) := by
  rw [deliverBody, bodySteps]
  cases settings.outputFile.isEmpty with
  | true =>
      simp only [Procedure.performAll, Program.bind_eq, if_true]
      rw [Program.bind_done]
      rfl
  | false =>
      simp only [Procedure.performAll, Program.bind_eq, Bool.false_eq_true, if_false]
      rw [Program.bind_done]
      rfl

/-- A delivery performs its steps in turn, and has nothing to decide on the way. -/
theorem deliver_eq (settings : Settings) (gathered : Gathered) :
    deliver settings gathered = (Procedure.performAll (steps settings gathered)).bind fun _ =>
      .done (summarize settings gathered) := by
  rw [deliver, deliverBundle_eq, steps, Procedure.performAll_append]
  obtain ⟨trusted, body⟩ := gathered
  cases body with
  | none => simp only [Program.bind_eq, Program.bind_assoc, Program.bind]; rfl
  | some body => simp only [Program.bind_eq, Program.bind_assoc, Program.bind, deliverBody_eq]; rfl

theorem topic_of_mem_steps {command : Command} (member : command ∈ steps settings gathered) :
    command.topic ∈ [Topic.line, .file] := by
  rcases List.mem_append.mp member with bundle | body
  · cases bundleStep_of_mem bundle <;> simp [Command.topic]
  · generalize gathered.body = content at body
    cases bodyStep_of_mem body <;> simp [Command.topic]

theorem deliver_keepsTo (settings : Settings) (gathered : Gathered) :
    (deliver settings gathered).KeepsTo [.line, .file] := by
  rw [deliver_eq]
  exact .bind (Procedure.performAll_asksOnly fun _ => topic_of_mem_steps) fun _ => trivial

theorem performed_of_deliver {events : Transcript} {outcome : Except Thrown Summary}
    (runs : (deliver settings gathered).Runs events outcome) :
    ∃ performed, Procedure.Performed (steps settings gathered) events performed ∧
      outcome = performed.map fun _ => summarize settings gathered := by
  rw [deliver_eq] at runs
  rcases Program.runs_bind_iff.mp runs with ⟨_, _, _, performed, ended, rfl⟩ | ⟨thrown, refused, rfl⟩
  · obtain ⟨rfl, rfl⟩ := Program.runs_done_iff.mp ended
    rw [List.append_nil]
    exact ⟨_, Procedure.performed_of_runs performed, rfl⟩
  · exact ⟨_, Procedure.performed_of_runs refused, rfl⟩

/-- In a world that takes every line, only a refused write ends a delivery early. -/
theorem refused_write_of_runs {delivery : Transcript} {thrown : Thrown}
    (delivered : (deliver settings gathered).Runs delivery (.error thrown)) (printed : delivery.Granted .line) :
    ∃ before path content permissions after,
      delivery = before ++ [⟨.write path content permissions, .error thrown⟩] ∧
        steps settings gathered = before.map Event.op ++ .write path content permissions :: after ∧
        ∀ event ∈ before, event.Granted := by
  obtain ⟨performed, ran, failed⟩ := performed_of_deliver delivered
  rcases ran.stops with ⟨rfl, _⟩ | ⟨before, command, after, refused, rfl, rfl, split, granted⟩
  · cases failed
  · cases failed
    have last : (⟨command, .error thrown⟩ : Event Command Command.Answer) ∈ before ++ [⟨command, .error thrown⟩] :=
      List.mem_append_right _ List.mem_cons_self
    have topic := topic_of_mem_steps (split ▸ List.mem_append_right _ List.mem_cons_self)
    cases command with
    | write path content permissions => exact ⟨before, path, content, permissions, after, rfl, split, granted⟩
    | print line =>
        obtain ⟨value, taken⟩ := printed _ last rfl
        cases taken
    | _ => simp [Command.topic] at topic

end Run

end JoinTrust
