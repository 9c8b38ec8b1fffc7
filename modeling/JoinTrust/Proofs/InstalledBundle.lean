import JoinTrust.Proofs.BundleChecksum
import JoinTrust.Proofs.BundleUse
import JoinTrust.Proofs.KeptFiles
import JoinTrust.Proofs.RunReport

set_option autoImplicit false

/-!
What the CA file holds at the end of a run. The bundle is written first and the resource after it, and
nothing compares where they go: the file holds the bundle unless the resource went to the same place.
-/

namespace JoinTrust

namespace Run

variable {fetcher : Fetcher} {settings : Settings} {events gathering delivery : Transcript} {gathered : Gathered}
  {summary : Summary} {tree final : FileTree} {bundle : Bytes}

/-- A run has installed a bundle: the bundle is authenticated, and its checksum is the one that the run
tells of. The CA file holds it in the end, unless a resource was written to the same place. -/
structure Installs (settings : Settings) (events : Transcript) (summary : Summary) (final : FileTree)
    (bundle : Bytes) : Prop where
  authentic : events.Authenticates (Transcript.usedToken settings.token settings.scope events) bundle
  checksum : summary.caChecksum = Integrity.checksum bundle
  reported : ("ca_checksum", Integrity.checksum bundle) ∈ events.outputs
  apart : settings.path = "" ∨ ¬ final.SamePlace settings.caFile settings.outputFile →
    final.read settings.caFile = .ok bundle
  shared : settings.path ≠ "" → final.SamePlace settings.caFile settings.outputFile →
    ∃ resource, events.writes = [(settings.caFile, bundle), (settings.outputFile, resource)] ∧
      final.read settings.caFile = .ok resource

/-- There is a resource exactly if the settings name one. -/
theorem Gathering.body_eq_none_iff {outcome : Except Thrown Gathered}
    (gathers : Gathering fetcher settings gathering outcome) (succeeded : outcome = .ok gathered) :
    gathered.body = none ↔ settings.path = "" := by
  rw [← String.isEmpty_iff]
  cases gathers with
  | @bundle established empty _ =>
      cases established with
      | error thrown => cases succeeded
      | ok established =>
          cases succeeded
          simp [empty]
  | @resource fetched nonempty _ =>
      cases fetched with
      | error thrown => cases succeeded
      | ok fetched =>
          cases succeeded
          simp [nonempty]

/-- What a delivery leaves in the CA file. Only a resource that went to the same place takes the place of
the bundle. -/
theorem installed_of_runs (delivered : (deliver settings gathered).Runs delivery (.ok summary))
    (stores : Transcript.Stores tree delivery final) (verified : gathered.trusted.bundle = some bundle)
    (named : settings.caFile.isEmpty = false) :
    (gathered.body = none ∨ ¬ final.SamePlace settings.caFile settings.outputFile →
      final.read settings.caFile = .ok bundle) ∧
    ∀ resource, gathered.body = some resource → final.SamePlace settings.caFile settings.outputFile →
      Transcript.writes delivery = [(settings.caFile, bundle), (settings.outputFile, resource)] ∧
        final.read settings.caFile = .ok resource := by
  obtain ⟨ops, granted, _⟩ := delivered_of_runs delivered
  have wrote := stores.writeAll_eq fun event member _ => granted event member
  have writes := (reported_of_deliver delivered).2.1
  have first : fileWrites settings.caFile (some bundle) = [(settings.caFile, bundle)] := by
    simp [fileWrites, named]
  rw [ops, steps_writes, verified, first] at wrote
  rw [verified, first] at writes
  obtain ⟨written, wroteBundle, later⟩ := FileTree.writeAll_cons_eq_ok wrote
  have holds := FileTree.read_write wroteBundle
  cases body : gathered.body with
  | none =>
      rw [body] at later
      obtain rfl := FileTree.writeAll_nil_eq_ok later
      exact ⟨fun _ => holds, fun _ same => by cases same⟩
  | some resource =>
      cases unnamed : settings.outputFile.isEmpty with
      | true =>
          have second : fileWrites settings.outputFile (some resource) = [] := by simp [fileWrites, unnamed]
          rw [body, second] at later
          obtain rfl := FileTree.writeAll_nil_eq_ok later
          refine ⟨fun _ => holds, fun _ _ same => ?_⟩
          rw [String.isEmpty_iff.mp unnamed] at same
          exact absurd same FileTree.not_samePlace_empty
      | false =>
          have second : fileWrites settings.outputFile (some resource) = [(settings.outputFile, resource)] := by
            simp [fileWrites, unnamed]
          rw [body, second] at later writes
          obtain ⟨last, wroteResource, ended⟩ := FileTree.writeAll_cons_eq_ok later
          obtain rfl := FileTree.writeAll_nil_eq_ok ended
          refine ⟨?_, ?_⟩
          · rintro (absent | apart)
            · cases absent
            · exact FileTree.read_write_of_apart wroteResource holds apart
          · rintro _ ⟨⟩ same
            exact ⟨writes, FileTree.read_write_of_samePlace wroteResource same⟩

theorem installs_of_runs (runs : (withSettings fetcher settings).Runs events (.ok summary))
    (stores : Transcript.Stores tree events final) (written : summary.caFileWritten = true) :
    ∃ bundle, Installs settings events summary final bundle := by
  cases course_of_runs runs with
  | @gathered gathering delivery gathered _ gathers delivered =>
      have looksNothingUp : Transcript.Lacks .lookup delivery :=
        Transcript.lacks_of_keepsTo delivered (deliver_keepsTo settings gathered) (by decide)
      obtain ⟨outputs, _, rfl⟩ := reported_of_deliver delivered
      obtain ⟨present, named⟩ := Bool.and_eq_true_iff.mp written
      obtain ⟨bundle, verified⟩ := Option.isSome_iff_exists.mp present
      have checksum := (gathers.summed rfl).checksum_eq verified
      have authentic := Transcript.authenticates_of_verifiedBundle? ((gathers.bundle_eq rfl).symm.trans verified)
      rw [← List.cons_append] at stores
      obtain ⟨middle, before, after⟩ := stores.split
      obtain rfl := before.eq_of_lacks gathers.unwritten
      obtain ⟨apart, shared⟩ := installed_of_runs delivered after verified (by simpa using named)
      have absent := gathers.body_eq_none_iff rfl
      refine ⟨bundle, authenticates_masked _ delivery authentic looksNothingUp, checksum, ?_, ?_, ?_⟩
      · have reported : Transcript.outputs (⟨.print (.mask settings.token), .ok ()⟩ :: (gathering ++ delivery)) =
            bundleOutputs gathered.trusted ++ bodyOutputs settings gathered.trusted.checksum gathered.body := by
          rw [← List.cons_append, Transcript.outputs_append, gathers.unreported, List.nil_append, outputs]
        rw [reported, bundleOutputs, checksum]
        simp
      · exact fun separate => apart (separate.imp_left absent.mpr)
      · intro wanted same
        obtain ⟨resource, body⟩ := Option.ne_none_iff_exists'.mp (mt absent.mp wanted)
        obtain ⟨writes, holds⟩ := shared resource body same
        refine ⟨resource, ?_, holds⟩
        rw [← List.cons_append, Transcript.writes_append, Transcript.writes_eq_nil gathers.unwritten, writes]
        rfl

end Run

/-- A run that tells of a written CA file ends with the verified bundle in that file, under the checksum
that it reports, unless the settings have the resource written to the same place. Then the file holds the
bytes of the resource, and is told of as a verified bundle all the same. -/
theorem ca_files_hold_bundle {σ : Type} {handler : Handler Command Command.Answer σ} {files : σ → FileTree}
    (keeps : handler.KeepsFiles files) (state : σ) (fetcher : Fetcher) (settings : Settings) {summary : Summary}
    (succeeded : ((Run.start fetcher (.ok settings)).run handler state).outcome = .ok summary)
    (written : summary.caFileWritten = true) :
    let call := (Run.start fetcher (.ok settings)).run handler state
    ∃ bundle, Run.Installs settings call.events summary (files call.state) bundle := by
  have runs : (Run.withSettings fetcher settings).Runs _ _ :=
    Program.runs_run handler state (Run.start fetcher (.ok settings))
  rw [succeeded] at runs
  exact Run.installs_of_runs runs (keeps.stores_run state _) written

theorem ca_files_hold_bundle_genuine :
    let world := (GenuineServer.handler "token" [1] [2]).filing
    let settings := GenuineServer.settings "token" "/etc/pki/trust/anchors/ca.pem" "agent.json"
    let tree : FileTree := { FileTree.ofList [("/etc/pki/trust/anchors/", []), ("/work/", [])] with home := ["work"] }
    let call := (Run.start {} (.ok settings)).run world ((), tree)
    let summary : Summary := ⟨true, Integrity.checksum [1], true, some 1⟩
    world.KeepsFiles Prod.snd ∧ call.outcome = .ok summary ∧ summary.caFileWritten = true ∧
      (¬ call.state.2.SamePlace settings.caFile settings.outputFile) ∧
      ∃ bundle, Run.Installs settings call.events summary call.state.2 bundle := by
  intro world settings tree call summary
  have keeps : world.KeepsFiles Prod.snd := Handler.keepsFiles_filing _
  obtain ⟨_, _, _, went⟩ := Run.start_filing tree (GenuineServer.gather_succeeds "token"
    "/etc/pki/trust/anchors/ca.pem" "agent.json" [2] (List.cons_ne_nil 1 [])) rfl
  have went : call = _ := went
  have succeeded : call.outcome = .ok summary := by
    rw [went]
    rfl
  have stored : call.state.2 =
      ((Run.deliver settings (GenuineServer.gathered [1] [2])).run world ((), tree)).state.2 := by
    rw [went]
  have apart : (call.state.2.locate settings.caFile).toOption ≠ (call.state.2.locate settings.outputFile).toOption := by
    rw [stored]
    decide +kernel
  refine ⟨keeps, succeeded, rfl, ?_, ca_files_hold_bundle keeps ((), tree) {} settings succeeded rfl⟩
  intro ⟨steps, left, right⟩
  exact apart (by rw [left, right])

/-- A run whose CA file is also where the resource goes ends with the resource in it, and tells of a bundle
with another checksum. -/
theorem resource_replaces_bundle :
    let settings := GenuineServer.settings "token" "ca.pem" "ca.pem"
    let call := (Run.start {} (.ok settings)).run (GenuineServer.handler "token" [1] [2]).filing ((), {})
    call.outcome = .ok ⟨true, Integrity.checksum [1], true, some 1⟩ ∧
      Transcript.writes call.events = [("ca.pem", [1]), ("ca.pem", [2])] ∧
      call.state.2.read "ca.pem" = .ok [2] ∧ Integrity.checksum [2] ≠ Integrity.checksum [1] := by
  intro settings call
  obtain ⟨gathering, _, unwritten, went⟩ := Run.start_filing {}
    (GenuineServer.gather_succeeds "token" "ca.pem" "ca.pem" [2] (List.cons_ne_nil 1 [])) rfl
  have went : call = _ := went
  rw [went]
  refine ⟨rfl, ?_, rfl, by decide +kernel⟩
  change Transcript.writes (gathering ++ _) = _
  rw [Transcript.writes_append, Transcript.writes_eq_nil unwritten]
  rfl

end JoinTrust
