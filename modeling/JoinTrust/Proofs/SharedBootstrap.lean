import JoinTrust.Proofs.KeptFiles
import JoinTrust.Proofs.RunReport

set_option autoImplicit false

/-!
Two ways to one bundle. A run without a path and a run with one come to a token and bootstrap trust in the
same way, in every world. Up to there they cannot be told apart, and what they do afterwards differs by the
resource alone.
-/

namespace JoinTrust

namespace Transcript

theorem requests_append (first rest : Transcript) : requests (first ++ rest) = requests first ++ requests rest :=
  List.filterMap_append ..

theorem requests_eq_nil {transcript : Transcript} (lacks : Lacks .client transcript) : requests transcript = [] := by
  apply filterMap_eq_nil_of_lacks lacks
  rintro ⟨op, answer⟩ other
  cases op with
  | get client request => exact absurd rfl other
  | _ => rfl

end Transcript

variable {σ : Type} {handler : Handler Command Command.Answer σ}

namespace Fetcher

variable {fetcher : Fetcher} {server token path url : String} {scope : Scope}

/-- A bootstrap and a fetch that go the same way until trust is established, or until that fails. -/
inductive Forked (fetcher : Fetcher) (url : String) (scope : Scope) :
    Execution Command Command.Answer σ CaCerts → Execution Command Command.Answer σ Fetched → Prop where
  | failed {state : σ} {events : Transcript} {thrown : Thrown} :
      Forked fetcher url scope ⟨state, events, .error thrown⟩ ⟨state, events, .error thrown⟩
  | established {state after : σ} {events fetching : Transcript} {established : Established}
      {outcome : Except Thrown Fetched} :
      (∀ topic ∉ [Topic.lookup, .nonce, .client, .audit], Transcript.Lacks topic events) →
      (fetcher.fetchUnder url scope established.resolved established.trusted).Runs fetching outcome →
      Forked fetcher url scope ⟨state, events, .ok established.trusted⟩ ⟨after, events ++ fetching, outcome⟩

theorem forked (handler : Handler Command Command.Answer σ) (state : σ) (fetcher : Fetcher) (token : String)
    (scope : Scope) (offered : Server.resourceUrl server path = .ok url) :
    Forked fetcher url scope ((fetcher.caCerts server token scope).run handler state)
      ((fetcher.get server token path scope).run handler state) := by
  have alone : fetcher.caCerts server token scope =
      (fetcher.establish server token scope).bind fun established => .done established.trusted := rfl
  have fetch : fetcher.get server token path scope =
      (fetcher.establish server token scope).bind fun established =>
        fetcher.fetchUnder url scope established.resolved established.trusted := by
    rw [get, offered]
    rfl
  have establishing := establishing_of_runs (Program.runs_run handler state (fetcher.establish server token scope))
  rw [alone, fetch, Program.run_bind, Program.run_bind]
  cases ran : (fetcher.establish server token scope).run handler state with
  | mk state events outcome =>
      rw [ran] at establishing
      cases outcome with
      | error thrown => exact .failed
      | ok established =>
          simp only [Program.run, List.append_nil]
          exact .established (fun _ other => establishing.lacks other) (Program.runs_run handler state _)

/-- A bootstrap agrees with a fetch from the same world: its requests are the first ones of the fetch, the
fetch fails where it fails, and a fetch that succeeds was made under the outcome of the bootstrap. -/
structure Agrees (alone : Execution Command Command.Answer σ CaCerts)
    (fetch : Execution Command Command.Answer σ Fetched) : Prop where
  requests : Transcript.requests alone.events <+: Transcript.requests fetch.events
  rejected : ∀ thrown, alone.outcome = .error thrown → fetch.outcome = .error thrown
  resolved : ∀ fetched, fetch.outcome = .ok fetched → alone.outcome = .ok ⟨fetched.bundle, fetched.checksum⟩

theorem Forked.agrees {alone : Execution Command Command.Answer σ CaCerts}
    {fetch : Execution Command Command.Answer σ Fetched} (forked : Forked fetcher url scope alone fetch) :
    Agrees alone fetch := by
  cases forked with
  | failed =>
      refine ⟨List.prefix_rfl, ?_, ?_⟩
      · rintro _ ⟨⟩
        rfl
      · rintro _ ⟨⟩
  | established _ fetching =>
      refine ⟨?_, ?_, ?_⟩
      · rw [Transcript.requests_append]
        exact List.prefix_append _ _
      · rintro _ ⟨⟩
      · rintro fetched rfl
        rw [(fetched_of_runs fetching).1]

end Fetcher

namespace Run

variable {fetcher : Fetcher} {settings : Settings}

/-- A run without a path agrees with a run with one from the same world. Its requests are the first ones of
the other; the other fails where it fails, unless it fails to write; and where both succeed, all that they
report and write is the same but for the resource. -/
structure Agrees (settings : Settings) (bare full : Execution Command Command.Answer σ Summary) : Prop where
  requests : Transcript.requests bare.events <+: Transcript.requests full.events
  rejected : ∀ thrown, bare.outcome = .error thrown → Transcript.Lacks .file bare.events →
    full.outcome = .error thrown
  resolved : ∀ told reported, bare.outcome = .ok told → full.outcome = .ok reported →
    ∃ trusted body, reported = { told with fetchedBytes := some (List.length body) } ∧
      Transcript.outputs bare.events = bundleOutputs trusted ∧
      Transcript.outputs full.events = bundleOutputs trusted ++ bodyOutputs settings trusted.checksum (some body) ∧
      Transcript.writes bare.events = fileWrites settings.caFile trusted.bundle ∧
      Transcript.writes full.events =
        fileWrites settings.caFile trusted.bundle ++ fileWrites settings.outputFile (some body)

/-- Settings that ask for the bundle alone. -/
def bare (settings : Settings) : Settings :=
  { settings with path := "" }

theorem withSettings_bare (fetcher : Fetcher) (settings : Settings) :
    withSettings fetcher (bare settings) = (Procedure.print (.mask settings.token)).bind fun _ =>
      (fetcher.caCerts settings.server settings.token settings.scope).bind fun trusted =>
        deliver (bare settings) ⟨trusted, none⟩ := by
  have empty : "".isEmpty = true := rfl
  rw [withSettings_eq, gather]
  simp only [bare, empty, if_true, Program.bind_eq, Program.bind_assoc, Program.bind]

theorem withSettings_named (named : settings.path ≠ "") :
    withSettings fetcher settings = (Procedure.print (.mask settings.token)).bind fun _ =>
      (fetcher.get settings.server settings.token settings.path settings.scope).bind fun fetched =>
        deliver settings ⟨⟨fetched.bundle, fetched.checksum⟩, some fetched.body⟩ := by
  have nonempty : settings.path.isEmpty = false := by simpa using named
  rw [withSettings_eq, gather, nonempty]
  simp only [Bool.false_eq_true, if_false, Program.bind_eq, Program.bind_assoc, Program.bind]

/-- A run without a path and one with a path that go the same way until trust is established. The one
delivers then, and the other fetches first. -/
inductive Forked (fetcher : Fetcher) (settings : Settings) :
    Execution Command Command.Answer σ Summary → Execution Command Command.Answer σ Summary → Prop where
  | failed {state : σ} {events : Transcript} {thrown : Thrown} :
      Forked fetcher settings ⟨state, events, .error thrown⟩ ⟨state, events, .error thrown⟩
  | unfetched {state after : σ} {url : String} {before delivery fetching : Transcript} {established : Established}
      {told : Except Thrown Summary} {thrown : Thrown} :
      (deliver (bare settings) ⟨established.trusted, none⟩).Runs delivery told →
      (fetcher.fetchUnder url settings.scope established.resolved established.trusted).Runs fetching (.error thrown) →
      Forked fetcher settings ⟨state, before ++ delivery, told⟩ ⟨after, before ++ fetching, .error thrown⟩
  | fetched {state after : σ} {url : String} {before delivery fetching later : Transcript}
      {established : Established} {told reported : Except Thrown Summary} {fetched : Fetched} :
      Transcript.outputs before = [] → Transcript.writes before = [] →
      (deliver (bare settings) ⟨established.trusted, none⟩).Runs delivery told →
      (fetcher.fetchUnder url settings.scope established.resolved established.trusted).Runs fetching (.ok fetched) →
      (deliver settings ⟨established.trusted, some fetched.body⟩).Runs later reported →
      Forked fetcher settings ⟨state, before ++ delivery, told⟩ ⟨after, before ++ fetching ++ later, reported⟩

theorem forked (handler : Handler Command Command.Answer σ) (state : σ) (fetcher : Fetcher) {url : String}
    (named : settings.path ≠ "") (offered : Server.resourceUrl settings.server settings.path = .ok url) :
    Forked fetcher settings ((start fetcher (.ok (bare settings))).run handler state)
      ((start fetcher (.ok settings)).run handler state) := by
  change Forked fetcher settings ((withSettings fetcher (bare settings)).run handler state)
    ((withSettings fetcher settings).run handler state)
  have begun := fetcher.forked handler (handler.answer state (.print (.mask settings.token))).1 settings.token
    settings.scope offered
  rw [withSettings_bare, withSettings_named named, Procedure.print, Procedure.perform]
  simp only [Program.run_bind, Program.run_perform]
  generalize (fetcher.caCerts settings.server settings.token settings.scope).run handler _ = alone at begun ⊢
  generalize (fetcher.get settings.server settings.token settings.path settings.scope).run handler _ = fetch
    at begun ⊢
  cases (handler.answer state (.print (.mask settings.token))).2 with
  | error thrown => exact .failed
  | ok masked =>
      cases begun with
      | failed => exact .failed
      | established lacks fetches =>
          have silent := Transcript.outputs_eq_nil (lacks .line (by decide))
          have unwritten := Transcript.writes_eq_nil (lacks .file (by decide))
          simp only [← List.append_assoc]
          split
          · next fetched =>
              obtain ⟨same, _⟩ := Fetcher.fetched_of_runs fetches
              simp only [same]
              exact .fetched silent unwritten (Program.runs_run handler _ _) fetches (Program.runs_run handler _ _)
          · exact .unfetched (Program.runs_run handler _ _) fetches

/-- A delivery asks for nothing, so that the requests of a run are those before it. -/
private theorem requests_delivered {before delivery : Transcript} {gathered : Gathered}
    {told : Except Thrown Summary} (delivered : (deliver settings gathered).Runs delivery told) :
    Transcript.requests (before ++ delivery) = Transcript.requests before := by
  have unasked := Transcript.requests_eq_nil
    (Transcript.lacks_of_keepsTo delivered (deliver_keepsTo settings gathered) (by decide))
  rw [Transcript.requests_append, unasked, List.append_nil]

/-- A delivery that fails although every line is taken has asked for a write. -/
private theorem not_lacks_of_failed {before delivery : Transcript} {gathered : Gathered} {thrown : Thrown}
    (delivered : (deliver settings gathered).Runs delivery (.error thrown))
    (printed : Transcript.Granted .line (before ++ delivery)) : ¬ Transcript.Lacks .file (before ++ delivery) := by
  obtain ⟨_, path, content, permissions, _, rfl, _⟩ := refused_write_of_runs delivered printed.right
  intro unwritten
  exact unwritten ⟨.write path content permissions, .error thrown⟩ (by simp) rfl

theorem Forked.agrees {bare full : Execution Command Command.Answer σ Summary}
    (forked : Forked fetcher settings bare full) (printed : Transcript.Granted .line bare.events) :
    Agrees settings bare full := by
  cases forked with
  | failed =>
      refine ⟨List.prefix_rfl, ?_, ?_⟩
      · rintro _ ⟨⟩ _
        rfl
      · rintro _ _ ⟨⟩
  | unfetched delivered fetches =>
      refine ⟨?_, ?_, ?_⟩
      · rw [requests_delivered delivered, Transcript.requests_append]
        exact List.prefix_append _ _
      · rintro _ rfl unwritten
        exact absurd unwritten (not_lacks_of_failed delivered printed)
      · rintro _ _ _ ⟨⟩
  | @fetched _ _ url before delivery fetching later established _ _ fetched silent unwritten delivered fetches last =>
      refine ⟨?_, ?_, ?_⟩
      · rw [requests_delivered delivered, requests_delivered last, Transcript.requests_append]
        exact List.prefix_append _ _
      · rintro _ rfl unwritten
        exact absurd unwritten (not_lacks_of_failed delivered printed)
      · rintro told reported rfl rfl
        have keeps := fetcher.fetchUnder_keepsTo url settings.scope established.resolved established.trusted
        have fetchLines := Transcript.outputs_eq_nil (Transcript.lacks_of_keepsTo fetches keeps (by decide))
        have fetchFiles := Transcript.writes_eq_nil (Transcript.lacks_of_keepsTo fetches keeps (by decide))
        obtain ⟨outputs, writes, rfl⟩ := reported_of_deliver delivered
        obtain ⟨lastOutputs, lastWrites, rfl⟩ := reported_of_deliver last
        refine ⟨established.trusted, fetched.body, rfl, ?_, ?_, ?_, ?_⟩
        · rw [Transcript.outputs_append, silent, outputs]
          exact List.append_nil _
        · rw [Transcript.outputs_append, Transcript.outputs_append, silent, fetchLines, lastOutputs]
          rfl
        · rw [Transcript.writes_append, unwritten, writes]
          exact List.append_nil _
        · rw [Transcript.writes_append, Transcript.writes_append, unwritten, fetchFiles, lastWrites]
          rfl

end Run

/-- The two ways to a bundle agree, in every world that takes every line: a run without a path and a run with
one, and a bootstrap through a fetcher and a fetch. -/
theorem retrieval_paths_agree (prints : ∀ state line, (handler.answer state (.print line)).2 = .ok ()) (state : σ)
    (fetcher : Fetcher) (settings : Settings) (named : settings.path ≠ "") {url : Url}
    (accepted : Server.parse settings.server = .ok url) :
    Run.Agrees settings ((Run.start fetcher (.ok (Run.bare settings))).run handler state)
        ((Run.start fetcher (.ok settings)).run handler state) ∧
      ∀ path, Fetcher.Agrees
        ((fetcher.caCerts settings.server settings.token settings.scope).run handler state)
        ((fetcher.get settings.server settings.token path settings.scope).run handler state) := by
  have offered (path : String) : Server.resourceUrl settings.server path = .ok (url.setPath path).href := by
    rw [Server.resourceUrl, accepted]
    rfl
  constructor
  · refine (Run.forked handler state fetcher named (offered _)).agrees (Transcript.granted_run ?_ state _)
    intro state command topic
    cases command with
    | print line => exact ⟨(), prints state line⟩
    | _ => cases topic
  · intro path
    exact (fetcher.forked handler state settings.token settings.scope (offered path)).agrees

theorem retrieval_paths_agree_genuine :
    let world := (GenuineServer.handler "token" [1] [2]).filing
    let settings := GenuineServer.settings "token" "ca.pem" "agent.json"
    let bare := (Run.start {} (.ok (Run.bare settings))).run world ((), {})
    let full := (Run.start {} (.ok settings)).run world ((), {})
    (∀ state line, (world.answer state (.print line)).2 = .ok ()) ∧ settings.path ≠ "" ∧
      (∃ url, Server.parse settings.server = .ok url) ∧
      bare.outcome = .ok ⟨true, Integrity.checksum [1], true, none⟩ ∧
      full.outcome = .ok ⟨true, Integrity.checksum [1], true, some 1⟩ ∧ Run.Agrees settings bare full ∧
      ∀ path, Fetcher.Agrees
        ((Fetcher.caCerts {} settings.server settings.token settings.scope).run world ((), {}))
        ((Fetcher.get {} settings.server settings.token path settings.scope).run world ((), {})) := by
  intro world settings bare full
  have prints : ∀ state line, (world.answer state (.print line)).2 = .ok () := fun _ _ => rfl
  have named : settings.path ≠ "" := by decide
  obtain ⟨url, accepted⟩ := GenuineServer.parse_address
  obtain ⟨_, _, _, wentBare⟩ := Run.start_filing {}
    (GenuineServer.gather_bare_succeeds "token" "ca.pem" "agent.json" [2] (List.cons_ne_nil 1 [])) rfl
  obtain ⟨_, _, _, wentFull⟩ := Run.start_filing {}
    (GenuineServer.gather_succeeds "token" "ca.pem" "agent.json" [2] (List.cons_ne_nil 1 [])) rfl
  have wentBare : bare = _ := wentBare
  have wentFull : full = _ := wentFull
  refine ⟨prints, named, ⟨url, accepted⟩, ?_, ?_,
    retrieval_paths_agree prints ((), {}) {} settings named accepted⟩
  · rw [wentBare]
    rfl
  · rw [wentFull]
    rfl

end JoinTrust
