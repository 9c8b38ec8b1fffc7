import JoinTrust.Proofs.BootstrapEvidence

set_option autoImplicit false

/-!
Calm conversations: every client can be made and closed, and the audit trail takes every entry. What is
left to go wrong is then what a server, a generator or a resolver does.
-/

namespace JoinTrust

open Program (closedWith)

/-- This is no failed creation, closing or entry. -/
def Event.Calm : Event Command Command.Answer → Prop
  | ⟨.create _, answer⟩ => ∃ serial, answer = .ok serial
  | ⟨.close _, answer⟩ => answer = .ok ()
  | ⟨.audit _, answer⟩ => answer = .ok ()
  | _ => True

/-- No creation, no closing and no entry fails. -/
def Transcript.Calm (transcript : Transcript) : Prop :=
  ∀ event ∈ transcript, event.Calm

/-- A handler that never lets a creation, a closing or an entry fail keeps every conversation calm. -/
theorem Program.calm_run {σ α : Type} {handler : Handler Command Command.Answer σ}
    (calm : ∀ state op, Event.Calm ⟨op, (handler.answer state op).2⟩) (state : σ)
    (procedure : Procedure α) : Transcript.Calm (procedure.run handler state).events := by
  intro event member
  obtain ⟨before, answered⟩ := Program.answered_of_mem_run member
  obtain ⟨op, answer⟩ := event
  simp only at answered
  rw [answered]
  exact calm before op

namespace Transcript

variable {first rest : Transcript} {event : Event Command Command.Answer}

theorem calm_cons_iff : Calm (event :: rest) ↔ event.Calm ∧ Calm rest :=
  List.forall_mem_cons

theorem calm_append_iff : Calm (first ++ rest) ↔ Calm first ∧ Calm rest :=
  List.forall_mem_append

end Transcript

section

variable {α : Type} {options : ClientOptions} {request : Request} {events : Transcript}

/-- A calm exchange hears one answer. What is recorded and how it ends is what follows from that. -/
theorem Procedure.Exchanged.replied_of_calm
    {heard : Except Thrown Reply → Transcript → Except Thrown α → Prop}
    {outcome : Except Thrown α} (exchanged : Exchanged options request heard events outcome)
    (quiet : ∀ answer inner result, heard answer inner result → Transcript.Lacks .client inner)
    (calm : Transcript.Calm events) :
    ∃ answer inner, heard answer inner outcome ∧ Transcript.Calm inner ∧
      Transcript.replies events = [answer] ∧ Transcript.entries events = Transcript.entries inner := by
  cases exchanged with
  | unmade =>
      obtain ⟨⟨serial, made⟩, _⟩ := Transcript.calm_cons_iff.mp calm
      cases made
  | @made serial answer inner result closing follows =>
      obtain ⟨_, calm⟩ := Transcript.calm_cons_iff.mp calm
      obtain ⟨_, calm⟩ := Transcript.calm_cons_iff.mp calm
      obtain ⟨calmInner, last⟩ := Transcript.calm_append_iff.mp calm
      obtain ⟨closed, _⟩ := Transcript.calm_cons_iff.mp last
      cases closed
      refine ⟨answer, inner, follows, calmInner, ?_, by simp [Transcript.entries]⟩
      have silent := Transcript.replies_eq_nil (quiet _ _ _ follows)
      simp only [Transcript.replies] at silent
      simp [Transcript.replies, silent]

/-- In a calm conversation a reply is the end and is not recorded, and a failure is told once and is the
end under its class. What has no message is not recorded either. -/
theorem Procedure.Exchanged.told_of_calm {entry : Thrown → Audit.Entry} {failure : Thrown → Failure}
    {outcome : Except Thrown Reply} (exchanged : Exchanged options request (Told entry failure) events outcome)
    (calm : Transcript.Calm events) :
    match outcome with
    | .ok reply => Transcript.replies events = [.ok reply] ∧ Transcript.entries events = []
    | .error raised =>
        ∃ thrown, Transcript.replies events = [.error thrown] ∧
          Transcript.entries events = (if thrown.silence?.isSome then [] else [entry thrown]) ∧
          raised = thrown.toldAs failure := by
  obtain ⟨answer, inner, told, calmInner, replied, recorded⟩ := exchanged.replied_of_calm
    (fun _ _ _ told => told.lacks (by decide)) calm
  rw [replied, recorded]
  cases told with
  | answered => exact ⟨rfl, rfl⟩
  | @refused thrown answer spoken =>
      obtain ⟨taken, _⟩ := Transcript.calm_cons_iff.mp calmInner
      cases taken
      refine ⟨thrown, rfl, ?_, ?_⟩
      · rw [spoken]
        rfl
      · rw [Thrown.toldAs, spoken]
        rfl
  | @untold thrown raised silent =>
      refine ⟨thrown, rfl, ?_, ?_⟩
      · rw [silent]
        rfl
      · rw [Thrown.toldAs, silent]
        rfl

end

namespace Bootstrapper

/-- In a calm conversation a reply to the probe shows trust and nothing else does. Either is recorded,
unless what was thrown has no message, and this alone fails the probe. -/
theorem probed_of_calm {url : String} {scope : Scope} {options : ClientOptions} {request : Request}
    {events : Transcript} {result : Except Thrown Bool}
    (probed : Procedure.Exchanged options request (Probed url scope) events result)
    (calm : Transcript.Calm events) :
    match result with
    | .ok true =>
        ∃ reply, Transcript.replies events = [.ok reply] ∧
          Transcript.entries events = [.probeTrusted url scope reply.status]
    | .ok false =>
        ∃ thrown, Transcript.replies events = [.error thrown] ∧ thrown.silence? = none ∧
          Transcript.entries events = [.probeUntrusted url scope thrown.message]
    | .error raised =>
        ∃ thrown, Transcript.replies events = [.error thrown] ∧ thrown.silence? = some raised ∧
          Transcript.entries events = [] := by
  obtain ⟨answer, inner, heard, calmInner, replied, recorded⟩ := probed.replied_of_calm
    (fun _ _ _ heard => probed_lacks heard (by decide)) calm
  rw [replied, recorded]
  cases heard with
  | trusted => exact ⟨_, rfl, rfl⟩
  | unrecorded =>
      obtain ⟨taken, _⟩ := Transcript.calm_cons_iff.mp calmInner
      cases taken
  | untrusted doubted =>
      cases doubted with
      | recorded spoken =>
          obtain ⟨taken, _⟩ := Transcript.calm_cons_iff.mp calmInner
          cases taken
          exact ⟨_, rfl, spoken, rfl⟩
      | untold silent => exact ⟨_, rfl, silent, rfl⟩

end Bootstrapper

end JoinTrust
