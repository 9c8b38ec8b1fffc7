import JoinTrust.Proofs.Delivery
import JoinTrust.Proofs.FetchEvidence
import JoinTrust.Proofs.FileContents
import JoinTrust.Proofs.GenuineServer
import JoinTrust.Script

set_option autoImplicit false

/-!
Worlds that keep their files in a tree. Whatever else such a world does, what becomes of the tree can be
read off the transcript: the writes in it that were not refused were done, and nothing else was.
-/

namespace JoinTrust

variable {σ α : Type}

/-- A world that keeps its files: a write is done on the tree, or it is refused, and then no file is touched but
its own. The world may refuse for reasons of its own. Nothing but a write touches the tree. -/
structure Handler.KeepsFiles (handler : Handler Command Command.Answer σ) (files : σ → FileTree) : Prop where
  written : ∀ {state path content permissions},
    (handler.answer state (.write path content permissions)).2 = .ok () →
    (files state).write path content permissions =
      .ok (files (handler.answer state (.write path content permissions)).1)
  refused : ∀ {state path content permissions thrown},
    (handler.answer state (.write path content permissions)).2 = .error thrown →
    (files state).AfterRefusal path permissions
      (files (handler.answer state (.write path content permissions)).1)
  others : ∀ {state command}, command.topic ≠ .file →
    files (handler.answer state command).1 = files state

namespace Transcript

variable {tree final : FileTree} {first rest transcript : Transcript}

/-!
## What a transcript stores
-/

/-- What becomes of a tree in the course of a transcript. -/
inductive Stores : FileTree → Transcript → FileTree → Prop where
  | nil {tree : FileTree} : Stores tree [] tree
  | written {tree next final : FileTree} {rest : Transcript} {path : String} {content : Bytes}
      {permissions : Nat} :
      tree.write path content permissions = .ok next → Stores next rest final →
      Stores tree (⟨.write path content permissions, .ok ()⟩ :: rest) final
  | refused {tree next final : FileTree} {rest : Transcript} {path : String} {content : Bytes}
      {permissions : Nat} {thrown : Thrown} :
      tree.AfterRefusal path permissions next → Stores next rest final →
      Stores tree (⟨.write path content permissions, .error thrown⟩ :: rest) final
  | other {tree final : FileTree} {rest : Transcript} {event : Event Command Command.Answer} :
      event.op.topic ≠ .file → Stores tree rest final → Stores tree (event :: rest) final

theorem Stores.split (stores : Stores tree (first ++ rest) final) :
    ∃ middle, Stores tree first middle ∧ Stores middle rest final := by
  induction first generalizing tree with
  | nil => exact ⟨tree, .nil, stores⟩
  | cons event first ih =>
      cases stores with
      | written wrote stores =>
          obtain ⟨middle, before, after⟩ := ih stores
          exact ⟨middle, .written wrote before, after⟩
      | refused left stores =>
          obtain ⟨middle, before, after⟩ := ih stores
          exact ⟨middle, .refused left before, after⟩
      | other elsewhere stores =>
          obtain ⟨middle, before, after⟩ := ih stores
          exact ⟨middle, .other elsewhere before, after⟩

/-- Where nothing is written, the tree stays as it is. -/
theorem Stores.eq_of_lacks (stores : Stores tree transcript final) (lacks : Lacks .file transcript) :
    final = tree := by
  induction stores with
  | nil => rfl
  | written wrote stores ih => exact absurd rfl (lacks_cons_iff.mp lacks).1
  | refused left stores ih => exact absurd rfl (lacks_cons_iff.mp lacks).1
  | other elsewhere stores ih => exact ih (lacks_cons_iff.mp lacks).2

/-- Where no write is refused, all of them are done, in turn. -/
theorem Stores.writeAll_eq (stores : Stores tree transcript final) (granted : Granted .file transcript) :
    tree.writeAll ((transcript.map Event.op).filterMap Command.write?) = .ok final := by
  induction stores with
  | nil => rfl
  | @written tree next final rest path content permissions wrote stores ih =>
      simp only [List.map_cons, List.filterMap_cons, Command.write?, FileTree.writeAll, wrote, bind, Except.bind]
      exact ih granted.tail
  | @refused tree next final rest path content permissions thrown left stores ih =>
      obtain ⟨value, answered⟩ := granted _ List.mem_cons_self rfl
      cases answered
  | @other tree final rest event elsewhere stores ih =>
      obtain ⟨op, answer⟩ := event
      have unwritten : op.write? = none := by
        cases op with
        | write path content permissions => exact absurd rfl elsewhere
        | _ => rfl
      simp only [List.map_cons, List.filterMap_cons, unwritten]
      exact ih granted.tail

end Transcript

theorem Handler.KeepsFiles.stores_run {handler : Handler Command Command.Answer σ} {files : σ → FileTree}
    (keeps : handler.KeepsFiles files) (state : σ) (procedure : Procedure α) :
    Transcript.Stores (files state) (procedure.run handler state).events
      (files (procedure.run handler state).state) := by
  induction procedure generalizing state with
  | done value => exact .nil
  | fail thrown => exact .nil
  | ask command resume ih =>
      have later := ih (handler.answer state command).2 (handler.answer state command).1
      by_cases elsewhere : command.topic = .file
      · cases command with
        | write path content permissions =>
            simp only [Program.run]
            cases answered : (handler.answer state (.write path content permissions)).2 with
            | ok value =>
                rw [answered] at later
                exact .written (keeps.written answered) later
            | error thrown =>
                rw [answered] at later
                exact .refused (keeps.refused answered) later
        | _ => cases elsewhere
      · rw [keeps.others elsewhere] at later
        exact .other elsewhere later

/-!
## Worlds with files
-/

/-- The world that has these files beside the others. The others hear of no write. -/
def Handler.filing (others : Handler Command Command.Answer σ) :
    Handler Command Command.Answer (σ × FileTree) where
  answer state
    | .write path content permissions =>
      match state.2.write path content permissions with
      | .ok written => ((state.1, written), .ok ())
      | .error fault => (state, .error (.file fault path))
    | command => (((others.answer state.1 command).1, state.2), (others.answer state.1 command).2)

theorem Handler.keepsFiles_filing (others : Handler Command Command.Answer σ) :
    others.filing.KeepsFiles Prod.snd where
  written {state path content permissions} answered := by
    simp only [filing] at answered ⊢
    cases wrote : state.2.write path content permissions with
    | ok written => rfl
    | error fault =>
        rw [wrote] at answered
        cases answered
  refused {state path content permissions thrown} answered := by
    simp only [filing] at answered ⊢
    cases wrote : state.2.write path content permissions with
    | ok written =>
        rw [wrote] at answered
        cases answered
    | error fault => exact .inl rfl
  others {state command} elsewhere := by
    cases command with
    | write path content permissions => exact absurd rfl elsewhere
    | _ => rfl

/-- A procedure that writes nothing runs as it would without the files. -/
theorem Handler.run_filing {others : Handler Command Command.Answer σ} {procedure : Procedure α}
    {topics : List Topic} (keeps : procedure.KeepsTo topics) (noFile : .file ∉ topics) (state : σ)
    (tree : FileTree) :
    procedure.run others.filing (state, tree) =
      ⟨((procedure.run others state).state, tree), (procedure.run others state).events,
        (procedure.run others state).outcome⟩ := by
  induction procedure generalizing state with
  | done value => rfl
  | fail thrown => rfl
  | ask command resume ih =>
      have same : others.filing.answer (state, tree) command =
          (((others.answer state command).1, tree), (others.answer state command).2) := by
        cases command with
        | write path content permissions => exact absurd keeps.1 noFile
        | _ => rfl
      simp only [Program.run, same, ih _ (keeps.2 _)]

/-- What follows a script keeps its files. -/
theorem Script.keepsFiles (script : Script) : script.handler.KeepsFiles Script.State.files where
  written {state path content permissions} answered := by
    simp only [handler, answer] at answered ⊢
    cases wrote : state.files.write path content permissions with
    | ok written => rfl
    | error fault =>
        rw [wrote] at answered
        cases answered
  refused {state path content permissions thrown} answered := by
    simp only [handler, answer] at answered ⊢
    cases wrote : state.files.write path content permissions with
    | ok written =>
        rw [wrote] at answered
        cases answered
    | error fault => exact .inl rfl
  others {state command} elsewhere := by
    cases command with
    | write path content permissions => exact absurd rfl elsewhere
    | get client request =>
        simp only [handler, answer]
        cases script.transport with
        | direct => rfl
        | wire =>
            simp only [overWire]
            cases Exchange.start? client.options request <;> rfl
    | _ => rfl

/-!
## Runs with files
-/

/-- Nothing is printed and nothing is written before everything is gathered. -/
theorem Run.gather_keepsTo (fetcher : Fetcher) (settings : Settings) :
    (gather fetcher settings).KeepsTo [.lookup, .nonce, .client, .audit, .hardware] := by
  have bootstraps (resolved : ResolvedToken) :
      (fetcher.bootstrapper.caCerts settings.server resolved.token settings.scope).KeepsTo
        [.lookup, .nonce, .client, .audit, .hardware] :=
    fetcher.bootstrapper.caCerts_keepsTo.wider (by simp)
  have looks : (fetcher.usedToken settings.token settings.scope).KeepsTo
      [.lookup, .nonce, .client, .audit, .hardware] := (fetcher.usedToken_keepsTo _ _).wider (by simp)
  rw [gather]
  cases settings.path.isEmpty with
  | true =>
      rw [if_pos rfl, Fetcher.caCerts_eq]
      exact .bind (.bind looks bootstraps) fun _ => trivial
  | false =>
      rw [if_neg Bool.false_ne_true]
      refine .bind ?_ fun _ => trivial
      cases offered : Server.resourceUrl settings.server settings.path with
      | error failure =>
          rw [Fetcher.get_eq_reject offered]
          trivial
      | ok url =>
          rw [Fetcher.get_eq offered]
          exact .bind looks fun resolved => .bind (bootstraps resolved) fun trusted =>
            (fetcher.fetchUnder_keepsTo url settings.scope resolved trusted).wider (by simp)

/-- A run that gathers what it needs comes to its delivery, and has left the files as they were. -/
theorem Run.start_filing {others : Handler Command Command.Answer σ} {fetcher : Fetcher} {settings : Settings}
    {gathered : Gathered} {state : σ} (tree : FileTree)
    (succeeded : ((gather fetcher settings).run others state).outcome = .ok gathered)
    (masked : others.answer state (.print (.mask settings.token)) = (state, .ok ())) :
    ∃ gathering : Transcript, gathering.Lacks .line ∧ gathering.Lacks .file ∧
      let delivery := (deliver settings gathered).run others.filing
        (((gather fetcher settings).run others state).state, tree)
      (start fetcher (.ok settings)).run others.filing (state, tree) =
        ⟨delivery.state, ⟨.print (.mask settings.token), .ok ()⟩ :: (gathering ++ delivery.events),
          delivery.outcome⟩ := by
  have keeps := gather_keepsTo fetcher settings
  have runs := Program.runs_run others state (gather fetcher settings)
  have hidden : others.filing.answer (state, tree) (.print (.mask settings.token)) = ((state, tree), .ok ()) := by
    simp only [Handler.filing, masked]
  refine ⟨_, Transcript.lacks_of_keepsTo runs keeps (by decide),
    Transcript.lacks_of_keepsTo runs keeps (by decide), ?_⟩
  change (withSettings fetcher settings).run others.filing (state, tree) = _
  simp only [withSettings_eq, Procedure.print, Procedure.perform, Program.run_bind, Program.run_perform, hidden,
    Handler.run_filing keeps (by decide), succeeded]
  rfl

namespace GenuineServer

/-- Settings that ask for a resource of the server. -/
def settings (token caFile outputFile : String) : Settings where
  server := address
  token := token
  scope := .cluster
  path := "/v3/import"
  caFile := caFile
  outputFile := outputFile

def gathered (bundle resource : Bytes) : Run.Gathered where
  trusted := ⟨some bundle, Integrity.checksum bundle⟩
  body := some resource

theorem gather_succeeds (token caFile outputFile : String) {bundle : Bytes} (resource : Bytes)
    (nonempty : bundle ≠ []) :
    ((Run.gather {} (settings token caFile outputFile)).run (handler token bundle resource) ()).outcome =
      .ok (gathered bundle resource) := by
  have fetched : ((Fetcher.get {} address token "/v3/import" .cluster).run
      (handler token bundle resource) ()).outcome = .ok ⟨resource, some bundle, Integrity.checksum bundle⟩ :=
    get_succeeds {} nonempty caUrl_address resourceUrl_address
  have named : "/v3/import".isEmpty = false := by decide
  simp only [Run.gather, settings, named, Bool.false_eq_true, if_false]
  exact Program.outcome_bind_of_ok fetched

/-- Without a path the run gathers the bundle alone. -/
theorem gather_bare_succeeds (token caFile outputFile : String) {bundle : Bytes} (resource : Bytes)
    (nonempty : bundle ≠ []) :
    ((Run.gather {} { settings token caFile outputFile with path := "" }).run
      (handler token bundle resource) ()).outcome = .ok ⟨⟨some bundle, Integrity.checksum bundle⟩, none⟩ := by
  have verified : ((Fetcher.caCerts {} address token .cluster).run (handler token bundle resource) ()).outcome =
      .ok ⟨some bundle, Integrity.checksum bundle⟩ := by
    rw [Fetcher.caCerts_eq]
    refine (caCerts_succeeds {} caUrl_address).trans ?_
    cases bundle with
    | nil => exact absurd rfl nonempty
    | cons octet rest => rfl
  have empty : "".isEmpty = true := rfl
  simp only [Run.gather, settings, empty, if_true]
  exact Program.outcome_bind_of_ok verified

end GenuineServer

end JoinTrust
