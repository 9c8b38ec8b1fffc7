import JoinTrust.Proofs.KeptFiles
import JoinTrust.Proofs.RunReport
import JoinTrust.Proofs.TypedFailures

set_option autoImplicit false

/-!
What a rejected run leaves behind. A run that comes to no delivery leaves nothing. Once it delivers, only a
refused write can end it, and by then its outputs are set and an earlier file is written: what is left is
what the steps before the refused one did, and whatever became of the file that was refused.
-/

namespace JoinTrust

namespace Run

variable {fetcher : Fetcher} {settings : Settings} {gathered : Gathered} {events gathering delivery : Transcript}
  {tree final : FileTree} {thrown : Thrown} {finished remaining : List Command}

/-- A delivery was given up at a write that was refused. It left behind what the steps before that one do,
and at least both outputs about the bundle. The files are those that these steps leave, but for the one that was
refused. -/
structure GivesUp (settings : Settings) (gathered : Gathered) (events : Transcript) (thrown : Thrown)
    (tree final : FileTree) : Prop where
  stopped : ∃ finished path content permissions remaining,
    steps settings gathered = finished ++ .write path content permissions :: remaining ∧
      (⟨.write path content permissions, .error thrown⟩ : Event Command Command.Answer) ∈ events ∧
      events.outputs = finished.filterMap Command.output? ∧
      ∃ written, tree.writeAll (finished.filterMap Command.write?) = .ok written ∧
        written.AfterRefusal path permissions final
  reported : bundleOutputs gathered.trusted <+: events.outputs

/-- The bundle is reported on before anything is written. -/
theorem reported_before_write {path : String} {content : Bytes} {permissions : Nat}
    (split : steps settings gathered = finished ++ .write path content permissions :: remaining) :
    bundleOutputs gathered.trusted <+: finished.filterMap Command.output? := by
  cases finished with
  | nil => cases (List.cons.inj split).1
  | cons first finished =>
      obtain ⟨rfl, later⟩ := List.cons.inj split
      cases finished with
      | nil => cases (List.cons.inj later).1
      | cons second finished =>
          obtain ⟨rfl, _⟩ := List.cons.inj later
          exact ⟨_, rfl⟩

theorem givesUp_of_runs (delivered : (deliver settings gathered).Runs delivery (.error thrown))
    (printed : delivery.Granted .line) (stores : Transcript.Stores tree delivery final) :
    GivesUp settings gathered delivery thrown tree final := by
  obtain ⟨before, path, content, permissions, after, rfl, split, granted⟩ :=
    refused_write_of_runs delivered printed
  obtain ⟨middle, wrote, rest⟩ := stores.split
  have left : middle.AfterRefusal path permissions final := by
    cases rest with
    | refused left rest => cases rest with | nil => exact left
    | other elsewhere _ => exact absurd rfl elsewhere
  have outputs : Transcript.outputs (before ++ [⟨.write path content permissions, .error thrown⟩]) =
      (before.map Event.op).filterMap Command.output? := by
    rw [Transcript.outputs_append, ← Transcript.outputs_eq]
    exact List.append_nil _
  constructor
  · refine ⟨_, path, content, permissions, after, split, List.mem_append_right _ List.mem_cons_self, outputs,
      middle, ?_, left⟩
    exact wrote.writeAll_eq fun event member _ => granted event member
  · rw [outputs]
    exact reported_before_write split

theorem GivesUp.append {first : Transcript} (givesUp : GivesUp settings gathered delivery thrown tree final)
    (silent : first.outputs = []) : GivesUp settings gathered (first ++ delivery) thrown tree final := by
  obtain ⟨finished, path, content, permissions, remaining, split, refused, outputs, wrote⟩ := givesUp.stopped
  have same : (first ++ delivery).outputs = Transcript.outputs delivery := by
    rw [Transcript.outputs_append, silent, List.nil_append]
  constructor
  · exact ⟨finished, path, content, permissions, remaining, split, List.mem_append_right _ refused,
      same.trans outputs, wrote⟩
  · rw [same]
    exact givesUp.reported

/-- A run leaves nothing behind unless it came to its delivery, and gave that up. -/
inductive LeavesBehind (fetcher : Fetcher) (loaded : Except Failure Settings) (events : Transcript)
    (thrown : Thrown) (tree final : FileTree) : Prop where
  | nothing : events.outputs = [] → events.Lacks .file → final = tree →
      LeavesBehind fetcher loaded events thrown tree final
  | delivered {settings : Settings} {gathering : Transcript} {gathered : Gathered} :
      loaded = .ok settings → gathering <:+: events → Gathering fetcher settings gathering (.ok gathered) →
      GivesUp settings gathered events thrown tree final →
      LeavesBehind fetcher loaded events thrown tree final

theorem leavesBehind_of_runs {loaded : Except Failure Settings}
    (runs : (start fetcher loaded).Runs events (.error thrown)) (printed : events.Granted .line)
    (stores : Transcript.Stores tree events final) : LeavesBehind fetcher loaded events thrown tree final := by
  rcases Procedure.runs_ofResult_bind_iff.mp runs with ⟨settings, rfl, went⟩ | ⟨failure, rfl, rfl, same⟩
  · cases course_of_runs went with
    | exposed =>
        obtain ⟨value, taken⟩ := printed _ List.mem_cons_self rfl
        cases taken
    | ungathered gathers =>
        exact .nothing gathers.unreported gathers.unwritten (stores.eq_of_lacks gathers.unwritten)
    | @gathered gathering delivery gathered _ gathers delivered =>
        rw [← List.cons_append] at stores printed ⊢
        obtain ⟨middle, before, after⟩ := stores.split
        obtain rfl := before.eq_of_lacks gathers.unwritten
        have givesUp := givesUp_of_runs delivered printed.right after
        refine .delivered rfl ⟨[⟨.print (.mask settings.token), .ok ()⟩], delivery, by simp⟩ gathers ?_
        exact givesUp.append gathers.unreported
  · cases stores with
    | nil => exact .nothing rfl Transcript.lacks_nil rfl

end Run

/-- A run that is rejected leaves nothing behind: no output is set and no file is changed. This holds of
every rejection but one. If a write is refused, what the steps before it did stays, and its own file may hold
anything. -/
theorem rejected_runs_leave_nothing {σ : Type} {handler : Handler Command Command.Answer σ}
    {files : σ → FileTree} (keeps : handler.KeepsFiles files)
    (prints : ∀ state line, (handler.answer state (.print line)).2 = .ok ()) (state : σ) (fetcher : Fetcher)
    (loaded : Except Failure Settings) {thrown : Thrown}
    (rejected : ((Run.start fetcher loaded).run handler state).outcome = .error thrown) :
    let call := (Run.start fetcher loaded).run handler state
    Run.LeavesBehind fetcher loaded call.events thrown (files state) (files call.state) := by
  have runs : (Run.start fetcher loaded).Runs _ _ := Program.runs_run handler state (Run.start fetcher loaded)
  rw [rejected] at runs
  refine Run.leavesBehind_of_runs runs ?_ (keeps.stores_run state _)
  refine Transcript.granted_run ?_ state _
  intro state command topic
  cases command with
  | print line => exact ⟨(), prints state line⟩
  | _ => cases topic

theorem rejected_runs_leave_nothing_unreachable :
    let thrown : Thrown := .error "Error" "unreachable"
    let world := ((GenuineServer.handler "token" [1] [2]).failing Command.isGet thrown).filing
    let fetcher : Fetcher := { bootstrapper := { nonces := .supplied } }
    let loaded : Except Failure Settings := .ok ⟨GenuineServer.address, "token", .cluster, "", "ca.pem", ""⟩
    let call := (Run.start fetcher loaded).run world ((), {})
    let failure : Thrown := .failure (.download "https://rancher.local/cacerts" thrown)
    world.KeepsFiles Prod.snd ∧ (∀ state line, (world.answer state (.print line)).2 = .ok ()) ∧
      call.outcome = .error failure ∧ Run.LeavesBehind fetcher loaded call.events failure {} call.state.2 := by
  intro thrown world fetcher loaded call failure
  have keeps : world.KeepsFiles Prod.snd := Handler.keepsFiles_filing _
  have prints : ∀ state line, (world.answer state (.print line)).2 = .ok () := fun _ _ => rfl
  have rejected : call.outcome = .error failure := by
    change ((Run.withSettings fetcher _).run world ((), {})).outcome = _
    rw [Run.withSettings_eq_of_bundle (by decide)]
    simp only [fetcher, Bootstrapper.caCerts, GenuineServer.caUrl_address, Procedure.ofResult]
    rfl
  exact ⟨keeps, prints, rejected, rejected_runs_leave_nothing keeps prints ((), {}) fetcher loaded rejected⟩

/-- A run whose resource cannot be written is rejected with its outputs set, and leaves a new file. -/
theorem refused_resource_leaves_bundle :
    let world := (GenuineServer.handler "token" [1] [2]).filing
    let loaded : Except Failure Settings := .ok (GenuineServer.settings "token" "ca.pem" "missing/agent.json")
    let call := (Run.start {} loaded).run world ((), {})
    call.outcome = .error (.file .notFound "missing/agent.json") ∧
      Transcript.outputs call.events = [("ca_override", "true"), ("ca_checksum", Integrity.checksum [1]),
        ("checksum", Integrity.checksum [1])] ∧
      FileTree.read {} "ca.pem" = .error .notFound ∧ call.state.2.read "ca.pem" = .ok [1] := by
  intro world loaded call
  obtain ⟨gathering, unprinted, _, same⟩ := Run.start_filing {}
    (GenuineServer.gather_succeeds "token" "ca.pem" "missing/agent.json" [2] (List.cons_ne_nil 1 [])) rfl
  have went : call = _ := same
  rw [went]
  refine ⟨rfl, ?_, rfl, rfl⟩
  have silent := Transcript.outputs_eq_nil unprinted
  change Transcript.outputs (gathering ++ _) = _
  rw [Transcript.outputs_append, silent]
  rfl

end JoinTrust
