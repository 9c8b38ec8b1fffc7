import JoinTrust.Proofs.FetchVerdict

set_option autoImplicit false

/-!
The trail of a call whose conversation is calm. Records are written out here with the names of their
fields, apart from the entries that a procedure makes, and what a call ends with decides which of them it
leaves. A call that is rejected records the very failure that it throws.
-/

namespace JoinTrust

open Audit (Record)

/-!
## Records
-/

def bootstrapRecord (url : String) (scope : Scope) (event : String) (details : Record) : Record :=
  [("url", .plain (.str url)), ("scope", .plain (.str scope.name)), ("event", .plain (.str event))] ++ details

def fetchRecord (url event : String) (details : Record) : Record :=
  [("event", .plain (.str event)), ("url", .plain (.str url))] ++ details

/-- What is recorded about a failure: its class, its message, and the status of the reply if one arrived. -/
def failureDetails (failure : Failure) (status : Option Int) : Record :=
  [("error_type", .plain (.str failure.kind.code)), ("reason", .told failure.sentence)] ++
    match status with
    | some status => [("status", .plain (.int status))]
    | none => []

def bundleDetails (checksum : String) (bytes : Bytes) : Record :=
  [("checksum", .plain (.str checksum)), ("bytes", .plain (.int bytes.length))]

def Bootstrapper.probeRecord (url : String) (scope : Scope) : Except Thrown Reply → Record
  | .ok reply => bootstrapRecord url scope "PROBE_TRUSTED" [("status", .plain (.int reply.status))]
  | .error thrown => bootstrapRecord url scope "PROBE_UNTRUSTED" [("reason", .plain (.str thrown.message))]

/-- The record of how a bootstrap ends after a probe that showed no trust. -/
def Bootstrapper.verdictRecord (url : String) (scope : Scope) (status : Option Int) :
    Except Failure CaCerts → Record
  | .ok ⟨some bundle, checksum⟩ =>
    bootstrapRecord url scope "BOOTSTRAP_VERIFIED" (bundleDetails checksum bundle)
  | .ok ⟨none, _⟩ => bootstrapRecord url scope "BOOTSTRAP_EMPTY" []
  | .error failure => bootstrapRecord url scope "BOOTSTRAP_FAILED" (failureDetails failure status)

def Fetcher.failureRecord (url : String) (failure : Failure) (status : Option Int) : Record :=
  fetchRecord url "FETCH_FAILED" (failureDetails failure status)

def Fetcher.hardwareRecord (url : String) (fetched : Fetched) : Record :=
  fetchRecord url "FETCH_HARDWARE" (bundleDetails fetched.checksum fetched.body)

def Fetcher.clientRecord (url : String) (scope : Scope) (fetched : Fetched) : Record :=
  fetchRecord url "FETCH_OK"
    (("scope", .plain (.str scope.name)) :: ("pinned", .plain (.bool fetched.bundle.isSome)) ::
      bundleDetails fetched.checksum fetched.body)

namespace Transcript

def trail (transcript : Transcript) : List Record :=
  transcript.entries.map Audit.Entry.record

@[simp] theorem entries_append (first rest : Transcript) :
    entries (first ++ rest) = entries first ++ entries rest := by
  simp [entries]

@[simp] theorem trail_append (first rest : Transcript) :
    trail (first ++ rest) = trail first ++ trail rest := by
  simp [trail]

theorem trail_eq_nil {transcript : Transcript} (lacks : Lacks .audit transcript) :
    trail transcript = [] := by
  rw [trail, List.map_eq_nil_iff]
  apply filterMap_eq_nil_of_lacks lacks
  rintro ⟨op, answer⟩ other
  cases op with
  | audit entry => exact absurd rfl other
  | _ => rfl

theorem trail_eq_of_entries {transcript : Transcript} {entries : List Audit.Entry}
    (recorded : transcript.entries = entries) : trail transcript = entries.map Audit.Entry.record :=
  congrArg (List.map Audit.Entry.record) recorded

end Transcript

/-!
## Trails
-/

/-- What an operation leaves that failed: the record of the failure that the call ends with. If what was
thrown has no message there is no record, and the call ends with what asking for that throws. -/
def Thrown.LeavesRecord {α : Type} (thrown : Thrown) (record : Failure → Record) (records : List Record)
    (outcome : Except Thrown α) : Prop :=
  match thrown.silence? with
  | some raised => outcome = .error raised ∧ records = []
  | none => ∃ failure, outcome = .error (.failure failure) ∧ records = [record failure]

/-- The trail of a bootstrap. Nothing is recorded before the probe, and nothing after a probe that got a
reply. After any other probe there is one more record, and it is that of how the call ends. Failures that
have no message leave no record. -/
def Bootstrapper.Records (server : String) (scope : Scope) (transcript : Transcript)
    (outcome : Except Thrown CaCerts) : Prop :=
  match transcript.replies with
  | [] => transcript.trail = [] ∧ ∃ thrown, outcome = .error thrown
  | [.ok reply] => ∃ url, Server.caUrl server scope = .ok url ∧ outcome = .ok ⟨none, ""⟩ ∧
      transcript.trail = [probeRecord url scope (.ok reply)]
  | [.error thrown] => ∃ raised, thrown.silence? = some raised ∧ outcome = .error raised ∧
      transcript.trail = []
  | [.error thrown, .error refusal] => thrown.silence? = none ∧ ∃ url records,
      Server.caUrl server scope = .ok url ∧
      transcript.trail = probeRecord url scope (.error thrown) :: records ∧
      refusal.LeavesRecord (fun failure => verdictRecord url scope none (.error failure)) records outcome
  | [.error thrown, .ok reply] => thrown.silence? = none ∧ ∃ url verdict,
      Server.caUrl server scope = .ok url ∧ outcome = verdict.mapError .failure ∧
      transcript.trail = [probeRecord url scope (.error thrown),
        verdictRecord url scope (some reply.status) verdict]
  | _ => False

namespace Fetcher

/-- The trail of a fetch through hardware, after that of the bootstrap. -/
def RecordsThroughHardware (fetcher : Fetcher) (url : String) (fetching : Transcript)
    (outcome : Except Thrown Fetched) : Prop :=
  if fetcher.hasHardware then
    match fetching.hardwareAnswers with
    | [.error thrown] =>
      thrown.LeavesRecord (fun failure => failureRecord url failure none) fetching.trail outcome
    | [.ok _] => ∃ fetched, outcome = .ok fetched ∧ fetching.trail = [hardwareRecord url fetched]
    | _ => False
  else fetching.trail = [] ∧ ∃ failure, outcome = .error (.failure failure)

/-- The trail of a fetch over a client, after that of the bootstrap. -/
def RecordsOverClient (url : String) (scope : Scope) (fetching : Transcript)
    (outcome : Except Thrown Fetched) : Prop :=
  match fetching.replies with
  | [.error thrown] =>
    thrown.LeavesRecord (fun failure => failureRecord url failure none) fetching.trail outcome
  | [.ok reply] =>
    if reply.status ≠ 200 then
      ∃ failure, outcome = .error (.failure failure) ∧
        fetching.trail = [failureRecord url failure (some reply.status)]
    else ∃ fetched, outcome = .ok fetched ∧ fetching.trail = [clientRecord url scope fetched]
  | _ => False

/-- The trail of a fetch: that of its bootstrap, and at most one record of what came of the resource. -/
def Records {σ : Type} (fetcher : Fetcher) (server token path : String) (scope : Scope)
    (handler : Handler Command Command.Answer σ) (state : σ) (transcript : Transcript)
    (outcome : Except Thrown Fetched) : Prop :=
  match Server.resourceUrl server path with
  | .error _ => transcript.trail = [] ∧ ∃ failure, outcome = .error (.failure failure)
  | .ok url =>
    let looked := (fetcher.lookup token scope).run handler state
    match looked.outcome with
    | .error _ => transcript.trail = [] ∧ ∃ thrown, outcome = .error thrown
    | .ok resolved =>
      let bootstrapped := (fetcher.bootstrapper.caCerts server resolved.token scope).run handler looked.state
      Bootstrapper.Records server scope bootstrapped.events bootstrapped.outcome ∧
        match bootstrapped.outcome with
        | .error thrown =>
          transcript.trail = Transcript.trail bootstrapped.events ∧ outcome = .error thrown
        | .ok _ =>
          ∃ fetching, transcript = looked.events ++ bootstrapped.events ++ fetching ∧
            transcript.trail = Transcript.trail bootstrapped.events ++ fetching.trail ∧
            if resolved.hardwareBacked then fetcher.RecordsThroughHardware url fetching outcome
            else RecordsOverClient url scope fetching outcome

end Fetcher

/-- A failure that is told leaves the record of it. -/
theorem Thrown.leavesRecord_toldAs {α : Type} (thrown : Thrown) {entry : Thrown → Audit.Entry}
    (failure : Thrown → Failure) {record : Failure → Record}
    (same : (entry thrown).record = record (failure thrown)) :
    thrown.LeavesRecord record
      ((if thrown.silence?.isSome then [] else [entry thrown]).map Audit.Entry.record)
      (.error (thrown.toldAs failure) : Except Thrown α) := by
  unfold LeavesRecord toldAs
  cases thrown.silence? with
  | some raised => exact ⟨rfl, rfl⟩
  | none => exact ⟨failure thrown, rfl, congrArg (fun record => [record]) same⟩

/-!
## Bootstraps
-/

namespace Bootstrapper

variable {bootstrapper : Bootstrapper} {server token url : String} {scope : Scope} {events : Transcript}

theorem record_conclusion (status : Int) (judgement : Except Failure CaCerts) :
    (conclusion url scope status judgement).record = verdictRecord url scope (some status) judgement := by
  cases judgement with
  | error failure => rfl
  | ok trusted =>
      obtain ⟨bundle, checksum⟩ := trusted
      cases bundle <;> rfl

/-- Drawing a nonce leaves no reply and no record. -/
private theorem unrecorded_of_drawing {source : Nonce.Source} {drawn : Except Thrown String}
    (drew : source.next.Runs events drawn) :
    Transcript.replies events = [] ∧ Transcript.trail events = [] :=
  ⟨Transcript.replies_eq_nil (drawing_lacks drew (by decide)),
    Transcript.trail_eq_nil (drawing_lacks drew (by decide))⟩

theorem Course.records {outcome : Except Thrown CaCerts}
    (course : Course bootstrapper server token scope events outcome) (calm : Transcript.Calm events) :
    Records server scope events outcome := by
  cases course with
  | nonceFailed drew =>
      obtain ⟨unheard, unrecorded⟩ := unrecorded_of_drawing drew
      rw [Records, unheard]
      exact ⟨unrecorded, _, rfl⟩
  | serverRejected drew rejected =>
      obtain ⟨unheard, unrecorded⟩ := unrecorded_of_drawing drew
      rw [Records, unheard]
      exact ⟨unrecorded, _, rfl⟩
  | probeFailed drew accepted probed =>
      obtain ⟨_, calm⟩ := Transcript.calm_append_iff.mp calm
      obtain ⟨unheard, unrecorded⟩ := unrecorded_of_drawing drew
      obtain ⟨cause, replied, silent, recorded⟩ := probed_of_calm probed calm
      simp only [Records, Transcript.replies_append, unheard, replied, Transcript.trail_append,
        unrecorded, Transcript.trail_eq_of_entries recorded, List.nil_append]
      exact ⟨_, silent, rfl, rfl⟩
  | @trusted drawing probing nonce url drew accepted probed =>
      obtain ⟨_, calm⟩ := Transcript.calm_append_iff.mp calm
      obtain ⟨unheard, unrecorded⟩ := unrecorded_of_drawing drew
      obtain ⟨reply, replied, recorded⟩ := probed_of_calm probed calm
      simp only [Records, Transcript.replies_append, unheard, replied, Transcript.trail_append,
        unrecorded, Transcript.trail_eq_of_entries recorded, List.nil_append]
      exact ⟨url, accepted, rfl, rfl⟩
  | @downloadFailed drawing probing download nonce url thrown drew accepted probed downloaded =>
      obtain ⟨_, calm⟩ := Transcript.calm_append_iff.mp calm
      obtain ⟨calmProbing, calmDownload⟩ := Transcript.calm_append_iff.mp calm
      obtain ⟨unheard, unrecorded⟩ := unrecorded_of_drawing drew
      obtain ⟨cause, probe, spoken, noted⟩ := probed_of_calm probed calmProbing
      obtain ⟨refusal, replied, recorded, rfl⟩ := downloaded.told_of_calm calmDownload
      simp only [Records, Transcript.replies_append, unheard, probe, replied, Transcript.trail_append,
        unrecorded, Transcript.trail_eq_of_entries noted, Transcript.trail_eq_of_entries recorded]
      exact ⟨spoken, url, _, accepted, rfl, refusal.leavesRecord_toldAs (.download url) rfl⟩
  | @judged drawing probing download nonce url reply answer drew accepted probed downloaded =>
      obtain ⟨_, calm⟩ := Transcript.calm_append_iff.mp calm
      obtain ⟨calmProbing, calm⟩ := Transcript.calm_append_iff.mp calm
      obtain ⟨calmDownload, calm⟩ := Transcript.calm_append_iff.mp calm
      obtain ⟨taken, _⟩ := Transcript.calm_cons_iff.mp calm
      cases taken
      obtain ⟨unheard, unrecorded⟩ := unrecorded_of_drawing drew
      obtain ⟨cause, probe, spoken, noted⟩ := probed_of_calm probed calmProbing
      obtain ⟨replied, recorded⟩ := downloaded.told_of_calm calmDownload
      simp only [Records, Transcript.replies_append, unheard, probe, replied, Transcript.trail_append,
        unrecorded, Transcript.trail_eq_of_entries noted, Transcript.trail_eq_of_entries recorded]
      refine ⟨spoken, url, reply.judge token nonce, accepted, rfl, ?_⟩
      simp only [← record_conclusion]
      rfl

end Bootstrapper

/-!
## Fetches
-/

namespace Fetcher

variable {fetcher : Fetcher} {server token path url : String} {scope : Scope} {trusted : CaCerts}
  {events : Transcript} {outcome : Except Thrown Fetched}

theorem HardwareFetched.records (fetched : HardwareFetched fetcher url trusted events outcome)
    (calm : Transcript.Calm events) : fetcher.RecordsThroughHardware url events outcome := by
  cases fetched with
  | missing has =>
      rw [RecordsThroughHardware, has, if_neg Bool.false_ne_true]
      exact ⟨rfl, _, rfl⟩
  | @failed thrown answer has spoken =>
      obtain ⟨_, calm⟩ := Transcript.calm_cons_iff.mp calm
      obtain ⟨taken, _⟩ := Transcript.calm_cons_iff.mp calm
      cases taken
      rw [RecordsThroughHardware, has, if_pos rfl]
      change thrown.LeavesRecord _ _ _
      unfold Thrown.LeavesRecord
      rw [spoken]
      exact ⟨.hardwareFetch url thrown, rfl, rfl⟩
  | @untold thrown raised has silent =>
      rw [RecordsThroughHardware, has, if_pos rfl]
      change thrown.LeavesRecord _ _ _
      unfold Thrown.LeavesRecord
      rw [silent]
      exact ⟨rfl, rfl⟩
  | @fetched body answer has =>
      obtain ⟨_, calm⟩ := Transcript.calm_cons_iff.mp calm
      obtain ⟨taken, _⟩ := Transcript.calm_cons_iff.mp calm
      cases taken
      rw [RecordsThroughHardware, has, if_pos rfl]
      exact ⟨⟨body, trusted.bundle, trusted.checksum⟩, rfl, rfl⟩

theorem isPinned_ofBundle (bundle : Option Bytes) : (Trust.ofBundle bundle).isPinned = bundle.isSome := by
  cases bundle <;> rfl

theorem PlainFetched.records (fetched : PlainFetched fetcher url token scope trusted events outcome)
    (calm : Transcript.Calm events) : RecordsOverClient url scope events outcome := by
  cases fetched with
  | failed exchanged =>
      obtain ⟨thrown, replied, recorded, rfl⟩ := exchanged.told_of_calm calm
      rw [RecordsOverClient, replied, Transcript.trail_eq_of_entries recorded]
      exact thrown.leavesRecord_toldAs (.resource url) rfl
  | @answered exchange reply answer exchanged =>
      obtain ⟨calmExchange, last⟩ := Transcript.calm_append_iff.mp calm
      obtain ⟨taken, _⟩ := Transcript.calm_cons_iff.mp last
      cases taken
      obtain ⟨replied, recorded⟩ := exchanged.told_of_calm calmExchange
      rw [RecordsOverClient, Transcript.replies_append, replied, Transcript.trail_append,
        Transcript.trail_eq_of_entries recorded]
      change if reply.status ≠ 200 then _ else _
      by_cases refused : reply.status ≠ 200
      · rw [if_pos refused, received, if_pos refused]
        exact ⟨_, rfl, rfl⟩
      · rw [if_neg refused, received, if_neg refused]
        refine ⟨⟨reply.body, trusted.bundle, trusted.checksum⟩, rfl, ?_⟩
        rw [clientRecord, ← isPinned_ofBundle]
        rfl

theorem fetchUnder_records {resolved : ResolvedToken}
    (runs : (fetcher.fetchUnder url scope resolved trusted).Runs events outcome)
    (calm : Transcript.Calm events) :
    if resolved.hardwareBacked then fetcher.RecordsThroughHardware url events outcome
    else RecordsOverClient url scope events outcome := by
  rcases fetchUnder_cases runs with ⟨backed, fetching⟩ | ⟨backed, fetching⟩
  · rw [backed, if_pos rfl]
    exact fetching.records calm
  · rw [backed, if_neg Bool.false_ne_true]
    exact fetching.records calm

theorem get_records {σ : Type} (fetcher : Fetcher) (handler : Handler Command Command.Answer σ) (state : σ)
    (server token path : String) (scope : Scope)
    (calm : Transcript.Calm ((fetcher.get server token path scope).run handler state).events) :
    let call := (fetcher.get server token path scope).run handler state
    fetcher.Records server token path scope handler state call.events call.outcome := by
  intro call
  change Transcript.Calm call.events at calm
  cases offered : Server.resourceUrl server path with
  | error failure =>
      have ended : call = ⟨state, [], .error (.failure failure)⟩ := by
        simp only [call, get_eq_reject offered]
        rfl
      rw [Records, offered, ended]
      exact ⟨rfl, failure, rfl⟩
  | ok url =>
      have ran : call = ((fetcher.usedToken token scope).bind fun resolved =>
          (fetcher.bootstrapper.caCerts server resolved.token scope).bind
            (fetcher.fetchUnder url scope resolved)).run handler state := by
        rw [← get_eq offered]
      rw [Program.run_bind, run_usedToken] at ran
      rw [ran] at calm
      rw [Records, offered, ran]
      cases looked : (fetcher.lookup token scope).run handler state with
      | mk after lookup outcome =>
          have spoke := Program.runs_run handler state (fetcher.lookup token scope)
          rw [looked] at spoke calm
          have unrecorded : Transcript.trail lookup = [] :=
            Transcript.trail_eq_nil
              (Transcript.lacks_of_keepsTo spoke (fetcher.lookup_keepsTo token scope) (by decide))
          cases outcome with
          | error thrown => exact ⟨unrecorded, _, rfl⟩
          | ok resolved =>
              simp only [Except.mapError, Program.run_bind] at calm ⊢
              have course := Bootstrapper.course_of_runs (Program.runs_run handler after
                (fetcher.bootstrapper.caCerts server resolved.token scope))
              cases bootstrapped : (fetcher.bootstrapper.caCerts server resolved.token scope).run handler after with
              | mk next bootstrap outcome =>
                  rw [bootstrapped] at calm course
                  cases outcome with
                  | error thrown =>
                      obtain ⟨_, calm⟩ := Transcript.calm_append_iff.mp calm
                      refine ⟨course.records calm, ?_, rfl⟩
                      rw [Transcript.trail_append, unrecorded, List.nil_append]
                  | ok trusted =>
                      obtain ⟨_, calm⟩ := Transcript.calm_append_iff.mp calm
                      obtain ⟨calmBootstrap, calm⟩ := Transcript.calm_append_iff.mp calm
                      refine ⟨course.records calmBootstrap, _, (List.append_assoc _ _ _).symm, ?_, ?_⟩
                      · rw [Transcript.trail_append, unrecorded, List.nil_append, Transcript.trail_append]
                      · exact fetchUnder_records (Program.runs_run handler next _) calm

end Fetcher

/-- In a calm conversation the trail says what came of a call: whether the probe was trusted, how a
bootstrap after that ended, and what came of the resource. -/
theorem trail_agrees {σ : Type} (handler : Handler Command Command.Answer σ) (state : σ)
    (bootstrapper : Bootstrapper) (fetcher : Fetcher) (server token path : String) (scope : Scope) :
    (let call := (bootstrapper.caCerts server token scope).run handler state
     Transcript.Calm call.events → Bootstrapper.Records server scope call.events call.outcome) ∧
    (let call := (fetcher.get server token path scope).run handler state
     Transcript.Calm call.events →
      fetcher.Records server token path scope handler state call.events call.outcome) := by
  refine ⟨?bootstrap, ?fetch⟩
  case bootstrap =>
    intro call calm
    exact (Bootstrapper.course_of_runs (Program.runs_run handler state _)).records calm
  case fetch => exact fetcher.get_records handler state server token path scope

theorem trail_agrees_genuine :
    let fetcher : Fetcher := {}
    let world := GenuineServer.handler "token" [1] [2]
    let bootstrap := (fetcher.bootstrapper.caCerts GenuineServer.address "token" .cluster).run world ()
    let fetch := (fetcher.get GenuineServer.address "token" "/v3/import" .cluster).run world ()
    Transcript.Calm bootstrap.events ∧ Transcript.Calm fetch.events ∧
      Bootstrapper.Records GenuineServer.address .cluster bootstrap.events bootstrap.outcome ∧
      fetcher.Records GenuineServer.address "token" "/v3/import" .cluster world () fetch.events fetch.outcome := by
  intro fetcher world bootstrap fetch
  have calm {α : Type} (procedure : Procedure α) : Transcript.Calm (procedure.run world ()).events :=
    Program.calm_run (GenuineServer.calm "token" [1] [2]) () procedure
  obtain ⟨ofBootstrap, ofFetch⟩ := trail_agrees world () fetcher.bootstrapper fetcher GenuineServer.address
    "token" "/v3/import" .cluster
  exact ⟨calm _, calm _, ofBootstrap (calm _), ofFetch (calm _)⟩

/-- A probe that fails with something of no message leaves no record, although the trail takes every entry. -/
theorem speechless_probe_unrecorded :
    let world := (GenuineServer.handler "token" [1] [2]).failing (Command.getsUnder .system) .speechless
    let call := (Bootstrapper.caCerts { nonces := .supplied } GenuineServer.address "token" .cluster).run world ()
    Transcript.Calm call.events ∧ Transcript.replies call.events = [.error .speechless] ∧
      Transcript.trail call.events = [] ∧
      call.outcome = .error (.error "TypeError" "Cannot convert object to primitive value") := by
  intro world call
  have ran : Transcript.replies call.events = [.error .speechless] ∧ Transcript.trail call.events = [] ∧
      call.outcome = .error (.error "TypeError" "Cannot convert object to primitive value") := by
    simp only [call, Bootstrapper.caCerts, GenuineServer.caUrl_address, Procedure.ofResult]
    exact ⟨rfl, rfl, rfl⟩
  refine ⟨?_, ran⟩
  exact Program.calm_run
    (Handler.calm_failing (GenuineServer.calm "token" [1] [2]) Command.calm_of_getsUnder) () _

end JoinTrust
