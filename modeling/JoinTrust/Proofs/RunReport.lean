import JoinTrust.Proofs.Credentials
import JoinTrust.Proofs.Delivery
import JoinTrust.Proofs.GenuineServer

set_option autoImplicit false

/-!
What a run reports. Its outputs, its files and its summary are views of one transcript, and all of them
show the outcome of the one bootstrap in it and the bytes that came after that. The bound on bootstraps
holds of every conversation, and the reports are complete in every conversation that succeeds.
-/

namespace JoinTrust

namespace Transcript

variable {transcript : Transcript}

/-!
## Reports
-/

def outputs (transcript : Transcript) : List (String × String) :=
  transcript.filterMap fun
    | ⟨.print (.output name value), _⟩ => some (name.word, value)
    | _ => none

def writes (transcript : Transcript) : List (String × Bytes) :=
  transcript.filterMap fun
    | ⟨.write path content _, _⟩ => some (path, content)
    | _ => none

theorem outputs_append (first rest : Transcript) : outputs (first ++ rest) = outputs first ++ outputs rest :=
  List.filterMap_append ..

theorem writes_append (first rest : Transcript) : writes (first ++ rest) = writes first ++ writes rest :=
  List.filterMap_append ..

theorem outputs_eq (transcript : Transcript) :
    outputs transcript = (transcript.map Event.op).filterMap Command.output? := by
  rw [List.filterMap_map]
  unfold outputs
  congr 1
  funext ⟨op, answer⟩
  cases op with
  | print line => cases line <;> rfl
  | _ => rfl

theorem writes_eq (transcript : Transcript) :
    writes transcript = ((transcript.map Event.op).filterMap Command.write?).map fun write => (write.1, write.2.1) := by
  rw [List.filterMap_map, List.map_filterMap]
  unfold writes
  congr 1
  funext ⟨op, answer⟩
  cases op <;> rfl

theorem outputs_eq_nil (lacks : Lacks .line transcript) : outputs transcript = [] := by
  apply filterMap_eq_nil_of_lacks lacks
  rintro ⟨op, answer⟩ other
  cases op with
  | print line => exact absurd rfl other
  | _ => rfl

theorem writes_eq_nil (lacks : Lacks .file transcript) : writes transcript = [] := by
  apply filterMap_eq_nil_of_lacks lacks
  rintro ⟨op, answer⟩ other
  cases op with
  | write path content permissions => exact absurd rfl other
  | _ => rfl

end Transcript

namespace Run

/-- A file is written if there is something to write and the settings say where. -/
def fileWrites (path : String) : Option Bytes → List (String × Bytes)
  | some content => if path.isEmpty then [] else [(path, content)]
  | none => []

def bundleOutputs (trusted : CaCerts) : List (String × String) :=
  [("ca_override", if trusted.bundle.isSome then "true" else "false"), ("ca_checksum", trusted.checksum)]

/-- A resource is reported under the checksum of the bundle, and as text unless it goes to a file. -/
def bodyOutputs (settings : Settings) (checksum : String) : Option Bytes → List (String × String)
  | some body =>
    ("checksum", checksum) :: if settings.outputFile.isEmpty then [("body", Text.Utf8.decode body)] else []
  | none => []

/-- The one bootstrap of a run, with what comes before it and what comes after. One nonce is drawn in the
whole run, and what is requested beside the bootstrap is one resource, from a server that is verified. -/
structure Bootstraps (fetcher : Fetcher) (settings : Settings) (before bootstrap after : Transcript)
    (result : Except Thrown CaCerts) : Prop where
  held : (fetcher.bootstrapper.caCerts settings.server
    (Transcript.usedToken settings.token settings.scope before) settings.scope).Runs bootstrap result
  nonce : ∃ drawn, fetcher.bootstrapper.nonces.next.Runs
    (Transcript.about .nonce (before ++ (bootstrap ++ after))) drawn
  requests : ∃ url nonce resource,
    Transcript.sent (before ++ (bootstrap ++ after)) = Transcript.sent bootstrap ++ resource ∧
      Transcript.sent bootstrap <+: [probeRequest url,
        bundleRequest url nonce (Transcript.usedToken settings.token settings.scope before)] ∧
      resource.length ≤ 1 ∧ ∀ request ∈ resource, request.1 ≠ .insecure

/-- All that a run reports agrees: its outputs, its files and its summary show the outcome of the bootstrap
and the bytes that came after it. -/
structure Reports (settings : Settings) (trusted : CaCerts) (body : Option Bytes)
    (transcript after : Transcript) (summary : Summary) : Prop where
  wanted : body.isSome = !settings.path.isEmpty
  arrived : Transcript.bodies after = body.toList
  outputs : transcript.outputs = bundleOutputs trusted ++ bodyOutputs settings trusted.checksum body
  writes : transcript.writes = fileWrites settings.caFile trusted.bundle ++ fileWrites settings.outputFile body
  summary : summary = ⟨trusted.bundle.isSome, trusted.checksum,
    trusted.bundle.isSome && !settings.caFile.isEmpty, body.map List.length⟩

variable {fetcher : Fetcher} {settings : Settings} {events : Transcript}

/-!
## Delivery
-/

theorem steps_outputs (settings : Settings) (gathered : Gathered) :
    (steps settings gathered).filterMap Command.output? = bundleOutputs gathered.trusted ++
      bodyOutputs settings gathered.trusted.checksum gathered.body := by
  obtain ⟨⟨bundle, checksum⟩, body⟩ := gathered
  simp only [steps, List.filterMap_append]
  congr 1
  · cases bundle with
    | none => rfl
    | some bundle =>
        simp only [bundleSteps]
        cases settings.caFile.isEmpty <;> rfl
  · cases body with
    | none => rfl
    | some body =>
        simp only [bodySteps, bodyOutputs]
        cases settings.outputFile.isEmpty <;> rfl

/-- The bundle is written first, and then the resource. -/
theorem steps_writes (settings : Settings) (gathered : Gathered) :
    (steps settings gathered).filterMap Command.write? =
      ((fileWrites settings.caFile gathered.trusted.bundle).map fun write => (write.1, write.2, filePermissions)) ++
        (fileWrites settings.outputFile gathered.body).map fun write => (write.1, write.2, plainPermissions) := by
  obtain ⟨⟨bundle, checksum⟩, body⟩ := gathered
  simp only [steps, List.filterMap_append]
  congr 1
  · cases bundle with
    | none => rfl
    | some bundle =>
        simp only [bundleSteps, fileWrites]
        cases settings.caFile.isEmpty <;> rfl
  · cases body with
    | none => rfl
    | some body =>
        simp only [bodySteps, fileWrites]
        cases settings.outputFile.isEmpty <;> rfl

/-- Up to its delivery a run reports nothing. -/
theorem Gathering.unreported {outcome : Except Thrown Gathered} {answer : Except Thrown Unit}
    (gathering : Gathering fetcher settings events outcome) :
    Transcript.outputs (⟨.print (.mask settings.token), answer⟩ :: events) = [] := by
  have silent : Transcript.outputs events = [] := Transcript.outputs_eq_nil (gathering.lacks (by decide))
  exact silent

/-- A delivery that succeeds did all of its steps, each as it was asked to. -/
theorem delivered_of_runs {gathered : Gathered} {summary : Summary}
    (runs : (deliver settings gathered).Runs events (.ok summary)) :
    events.map Event.op = steps settings gathered ∧ (∀ event ∈ events, event.Granted) ∧
      summary = summarize settings gathered := by
  obtain ⟨performed, ran, same⟩ := performed_of_deliver runs
  rcases ran.stops with ⟨rfl, ops, granted⟩ | ⟨_, _, _, _, rfl, _⟩
  · cases same
    exact ⟨ops, granted, rfl⟩
  · cases same

theorem reported_of_deliver {gathered : Gathered} {summary : Summary}
    (runs : (deliver settings gathered).Runs events (.ok summary)) :
    Transcript.outputs events = bundleOutputs gathered.trusted ++
        bodyOutputs settings gathered.trusted.checksum gathered.body ∧
      Transcript.writes events = fileWrites settings.caFile gathered.trusted.bundle ++
        fileWrites settings.outputFile gathered.body ∧
      summary = ⟨gathered.trusted.bundle.isSome, gathered.trusted.checksum,
        gathered.trusted.bundle.isSome && !settings.caFile.isEmpty, gathered.body.map List.length⟩ := by
  obtain ⟨ops, _, rfl⟩ := delivered_of_runs runs
  refine ⟨?_, ?_, rfl⟩
  · rw [Transcript.outputs_eq, ops, steps_outputs]
  · rw [Transcript.writes_eq, ops, steps_writes, List.map_append, List.map_map, List.map_map]
    congr 1
    · exact List.map_id _
    · exact List.map_id _

end Run

/-!
## Bootstraps
-/

theorem Bootstrapper.drawn_of_runs {bootstrapper : Bootstrapper} {server token : String} {scope : Scope}
    {events : Transcript} {outcome : Except Thrown CaCerts}
    (runs : (bootstrapper.caCerts server token scope).Runs events outcome) :
    ∃ drawn, bootstrapper.nonces.next.Runs (Transcript.about .nonce events) drawn := by
  have drawing {nonce : Except Thrown String} {first : Transcript}
      (next : bootstrapper.nextNonce.Runs first nonce) :
      ∃ drawn, bootstrapper.nonces.next.Runs (Transcript.about .nonce first) drawn := by
    obtain ⟨drawn, drew, _⟩ := nonce_of_runs_nextNonce next
    refine ⟨drawn, ?_⟩
    rw [Transcript.about_eq_self]
    · exact drew
    · intro event member
      have among := drew.allowed_of_mem (next_keepsTo _) member
      exact List.mem_singleton.mp among
  rw [caCerts_eq] at runs
  rcases Program.runs_bind_iff.mp runs with ⟨nonce, first, rest, next, went, rfl⟩ | ⟨_, next, _⟩
  · have undrawn : Transcript.Lacks .nonce rest :=
      Transcript.lacks_of_keepsTo went (bootstrapper.proceed_keepsTo nonce) (by decide)
    rw [Transcript.about_append, Transcript.about_eq_nil undrawn, List.append_nil]
    exact drawing next
  · exact drawing next

theorem Bootstrapper.sent_prefix_of_runs {bootstrapper : Bootstrapper} {server token : String} {scope : Scope}
    {events : Transcript} {outcome : Except Thrown CaCerts}
    (runs : (bootstrapper.caCerts server token scope).Runs events outcome) :
    ∃ url nonce, Transcript.sent events <+: [probeRequest url, bundleRequest url nonce token] := by
  rcases (course_of_runs runs).sent_eq with ⟨silent, _⟩ | ⟨url, _, probed | downloaded⟩
  · rw [silent]
    exact ⟨"", "", List.nil_prefix⟩
  · rw [probed]
    exact ⟨url, "", List.prefix_append [probeRequest url] _⟩
  · rw [downloaded]
    exact ⟨url, _, List.prefix_rfl⟩

/-!
## Resources
-/

namespace Fetcher

variable {fetcher : Fetcher} {url token : String} {scope : Scope} {trusted : CaCerts} {events : Transcript}
  {outcome : Except Thrown Fetched} {fetched : Fetched}

theorem fetched_of_runs {resolved : ResolvedToken}
    (runs : (fetcher.fetchUnder url scope resolved trusted).Runs events (.ok fetched)) :
    (⟨fetched.bundle, fetched.checksum⟩ : CaCerts) = trusted ∧ Transcript.bodies events = [fetched.body] := by
  rcases fetchUnder_cases runs with ⟨_, fetching⟩ | ⟨_, fetching⟩
  · exact fetching.eq_of_ok rfl
  · exact fetching.eq_of_ok rfl

/-- At most one request is for a resource, and it goes to a server that is verified. -/
theorem sent_of_runs_fetchUnder {resolved : ResolvedToken}
    (runs : (fetcher.fetchUnder url scope resolved trusted).Runs events outcome) :
    (Transcript.sent events).length ≤ 1 ∧ ∀ request ∈ Transcript.sent events, request.1 ≠ .insecure := by
  rcases fetchUnder_cases runs with ⟨_, fetching⟩ | ⟨_, fetching⟩
  · rw [Transcript.sent_eq_nil (fetching.lacks (by decide) (by decide))]
    exact ⟨Nat.zero_le 1, fun _ member => by cases member⟩
  · rcases fetching.sent_eq with silent | sent
    · rw [silent]
      exact ⟨Nat.zero_le 1, fun _ member => by cases member⟩
    · rw [sent]
      refine ⟨Nat.le_refl 1, fun _ member => ?_⟩
      cases List.mem_singleton.mp member
      exact ofBundle_ne_insecure _

end Fetcher

/-!
## Runs
-/

namespace Run

variable {fetcher : Fetcher} {settings : Settings} {events : Transcript} {outcome : Except Thrown Summary}

/-- What follows on a bootstrap keeps to one bootstrap: it draws no nonce, and it requests at most one
resource. -/
structure Follows (after : Transcript) : Prop where
  undrawn : after.Lacks .nonce
  few : (Transcript.sent after).length ≤ 1
  verified : ∀ request ∈ Transcript.sent after, request.1 ≠ .insecure

theorem follows_nil : Follows [] where
  undrawn := Transcript.lacks_nil
  few := Nat.zero_le 1
  verified := fun _ member => by cases member

theorem Follows.deliver {fetching delivery : Transcript} (follows : Follows fetching) {gathered : Gathered}
    (delivered : (deliver settings gathered).Runs delivery outcome) : Follows (fetching ++ delivery) := by
  have lacks (topic : Topic) (other : topic ∉ [Topic.line, .file]) : Transcript.Lacks topic delivery :=
    Transcript.lacks_of_keepsTo delivered (deliver_keepsTo settings gathered) other
  have unsent := Transcript.sent_eq_nil (lacks .client (by decide))
  constructor
  · exact Transcript.lacks_append_iff.mpr ⟨follows.undrawn, lacks .nonce (by decide)⟩
  · rw [Transcript.sent_append, unsent, List.append_nil]
    exact follows.few
  · rw [Transcript.sent_append, unsent, List.append_nil]
    exact follows.verified

theorem follows_of_runs_fetchUnder {url : String} {scope : Scope} {resolved : ResolvedToken}
    {trusted : CaCerts} {fetched : Except Thrown Fetched}
    (runs : (fetcher.fetchUnder url scope resolved trusted).Runs events fetched) : Follows events := by
  obtain ⟨few, verified⟩ := Fetcher.sent_of_runs_fetchUnder runs
  refine ⟨?_, few, verified⟩
  exact Transcript.lacks_of_keepsTo runs (fetcher.fetchUnder_keepsTo url scope resolved trusted) (by decide)

/-- What a run does before its bootstrap: it comes to the token that is used, and it reports nothing. -/
structure Prepares (settings : Settings) (before : Transcript) (token : String) : Prop where
  undrawn : before.Lacks .nonce
  unasked : before.Lacks .client
  used : Transcript.usedToken settings.token settings.scope before = token
  outputs : Transcript.outputs before = []
  writes : Transcript.writes before = []

def prepare (fetcher : Fetcher) (settings : Settings) : Procedure ResolvedToken :=
  (Procedure.print (.mask settings.token)).bind fun _ => fetcher.usedToken settings.token settings.scope

theorem prepare_keepsTo (fetcher : Fetcher) (settings : Settings) :
    (prepare fetcher settings).KeepsTo [.line, .lookup] :=
  .bind (.perform List.mem_cons_self) fun _ => (fetcher.usedToken_keepsTo _ _).wider (by simp)

theorem prepares_of_runs {resolved : ResolvedToken}
    (runs : (prepare fetcher settings).Runs events (.ok resolved)) : Prepares settings events resolved.token := by
  have keeps := prepare_keepsTo fetcher settings
  have undrawn := Transcript.lacks_of_keepsTo runs keeps (by decide : Topic.nonce ∉ _)
  have unasked := Transcript.lacks_of_keepsTo runs keeps (by decide : Topic.client ∉ _)
  have unwritten := Transcript.lacks_of_keepsTo runs keeps (by decide : Topic.file ∉ _)
  obtain ⟨_, lookup, rfl, looked⟩ := Procedure.answered_of_runs_bind runs
  refine ⟨undrawn, unasked, ?_, ?_, Transcript.writes_eq_nil unwritten⟩
  · rw [← Fetcher.usedToken_of_runs looked, ← List.singleton_append]
    refine Transcript.usedToken_append_right (Transcript.lacks_singleton ?_)
    exact fun same => Topic.noConfusion same
  · have silent : Transcript.outputs lookup = [] :=
      Transcript.outputs_eq_nil (Fetcher.lookup_lacks looked (by decide))
    exact silent

/-- A run that is prepared goes on with its bootstrap, and with what follows on that. -/
inductive Bootstrapping (fetcher : Fetcher) (settings : Settings)
    (following : ResolvedToken → CaCerts → Procedure Summary) :
    Transcript → Except Thrown Summary → Prop where
  | unprepared {before : Transcript} {thrown : Thrown} :
      (prepare fetcher settings).Runs before (.error thrown) →
      Bootstrapping fetcher settings following before (.error thrown)
  | rejected {before bootstrap : Transcript} {resolved : ResolvedToken} {thrown : Thrown} :
      Prepares settings before resolved.token →
      (fetcher.bootstrapper.caCerts settings.server resolved.token settings.scope).Runs bootstrap (.error thrown) →
      Bootstrapping fetcher settings following (before ++ bootstrap) (.error thrown)
  | trusted {before bootstrap after : Transcript} {resolved : ResolvedToken} {trusted : CaCerts}
      {outcome : Except Thrown Summary} :
      Prepares settings before resolved.token →
      (fetcher.bootstrapper.caCerts settings.server resolved.token settings.scope).Runs bootstrap (.ok trusted) →
      (following resolved trusted).Runs after outcome →
      Bootstrapping fetcher settings following (before ++ (bootstrap ++ after)) outcome

theorem bootstrapping_of_runs {following : ResolvedToken → CaCerts → Procedure Summary}
    (runs : Program.Runs ((prepare fetcher settings).bind fun resolved =>
      (fetcher.bootstrapper.caCerts settings.server resolved.token settings.scope).bind
        (following resolved)) events outcome) :
    Bootstrapping fetcher settings following events outcome := by
  rcases Program.runs_bind_iff.mp runs with ⟨resolved, before, _, prepared, went, rfl⟩ | ⟨_, prepared, rfl⟩
  · have prepares := prepares_of_runs prepared
    rcases Program.runs_bind_iff.mp went with ⟨trusted, bootstrap, after, held, followed, rfl⟩ | ⟨_, held, rfl⟩
    · exact .trusted prepares held followed
    · exact .rejected prepares held
  · exact .unprepared prepared

theorem Prepares.bootstraps {before bootstrap after : Transcript} {result : Except Thrown CaCerts}
    {token : String} (prepares : Prepares settings before token)
    (held : (fetcher.bootstrapper.caCerts settings.server token settings.scope).Runs bootstrap result)
    (follows : Follows after) : Bootstraps fetcher settings before bootstrap after result := by
  obtain ⟨drawn, drew⟩ := Bootstrapper.drawn_of_runs held
  obtain ⟨url, nonce, within⟩ := Bootstrapper.sent_prefix_of_runs held
  constructor
  · rw [prepares.used]
    exact held
  · refine ⟨drawn, ?_⟩
    simp only [Transcript.about_append, Transcript.about_eq_nil prepares.undrawn,
      Transcript.about_eq_nil follows.undrawn, List.nil_append, List.append_nil]
    exact drew
  · refine ⟨url, nonce, Transcript.sent after, ?_, ?_, follows.few, follows.verified⟩
    · simp only [Transcript.sent_append, Transcript.sent_eq_nil prepares.unasked, List.nil_append]
    · rw [prepares.used]
      exact within

/-- A run makes no bootstrap and is rejected, or it makes one and reports its outcome if it succeeds. -/
def ReportsOnce (fetcher : Fetcher) (settings : Settings) (transcript : Transcript)
    (outcome : Except Thrown Summary) : Prop :=
  (transcript.Lacks .nonce ∧ transcript.Lacks .client ∧ ∃ thrown, outcome = .error thrown) ∨
    ∃ before bootstrap after result, transcript = before ++ (bootstrap ++ after) ∧
      Bootstraps fetcher settings before bootstrap after result ∧
      ∀ summary, outcome = .ok summary → ∃ trusted body, result = .ok trusted ∧
        Reports settings trusted body transcript after summary

theorem Bootstrapping.reportsOnce {following : ResolvedToken → CaCerts → Procedure Summary}
    (bootstrapping : Bootstrapping fetcher settings following events outcome)
    (follows : ∀ resolved trusted after ended, (following resolved trusted).Runs after ended → Follows after)
    (reports : ∀ resolved trusted after summary, (following resolved trusted).Runs after (.ok summary) →
      ∃ body, Reports settings trusted body after after summary) :
    ReportsOnce fetcher settings events outcome := by
  cases bootstrapping with
  | unprepared prepared =>
      have keeps := prepare_keepsTo fetcher settings
      exact .inl ⟨Transcript.lacks_of_keepsTo prepared keeps (by decide),
        Transcript.lacks_of_keepsTo prepared keeps (by decide), _, rfl⟩
  | @rejected before bootstrap resolved thrown prepares held =>
      refine .inr ⟨before, bootstrap, [], .error thrown, by rw [List.append_nil],
        prepares.bootstraps held follows_nil, ?_⟩
      rintro summary ⟨⟩
  | @trusted before bootstrap after resolved trusted outcome prepares held followed =>
      refine .inr ⟨before, bootstrap, after, .ok trusted, rfl,
        prepares.bootstraps held (follows _ _ _ _ followed), ?_⟩
      rintro summary rfl
      obtain ⟨body, reported⟩ := reports _ _ _ _ followed
      -- Nothing was reported before the bootstrap or in it, so that these are the reports of the whole run.
      have unprinted := Transcript.outputs_eq_nil (Transcript.lacks_of_keepsTo held
        fetcher.bootstrapper.caCerts_keepsTo (by decide))
      have unwritten := Transcript.writes_eq_nil (Transcript.lacks_of_keepsTo held
        fetcher.bootstrapper.caCerts_keepsTo (by decide))
      refine ⟨trusted, body, rfl, reported.wanted, reported.arrived, ?_, ?_, reported.summary⟩
      · rw [Transcript.outputs_append, Transcript.outputs_append, prepares.outputs, unprinted]
        exact reported.outputs
      · rw [Transcript.writes_append, Transcript.writes_append, prepares.writes, unwritten]
        exact reported.writes

theorem withSettings_reportsOnce (runs : (withSettings fetcher settings).Runs events outcome) :
    ReportsOnce fetcher settings events outcome := by
  cases empty : settings.path.isEmpty with
  | true =>
      rw [withSettings_eq_of_bundle empty] at runs
      refine (bootstrapping_of_runs runs).reportsOnce ?_ ?_
      · intro resolved trusted after ended delivered
        exact follows_nil.deliver delivered
      · intro resolved trusted after summary delivered
        have keeps := deliver_keepsTo settings ⟨trusted, none⟩
        obtain ⟨outputs, writes, same⟩ := reported_of_deliver delivered
        refine ⟨none, by rw [empty]; rfl, ?_, outputs, writes, same⟩
        exact Transcript.bodies_eq_nil (Transcript.lacks_of_keepsTo delivered keeps (by decide))
          (Transcript.lacks_of_keepsTo delivered keeps (by decide))
  | false =>
      cases offered : Server.resourceUrl settings.server settings.path with
      | error failure =>
          rw [withSettings_eq_of_rejected empty offered] at runs
          have keeps : Procedure.KeepsTo [.line] ((Procedure.print (.mask settings.token)).bind fun _ =>
              (Procedure.reject failure : Procedure Summary)) :=
            .bind (.perform List.mem_cons_self) fun _ => trivial
          refine .inl ⟨Transcript.lacks_of_keepsTo runs keeps (by decide),
            Transcript.lacks_of_keepsTo runs keeps (by decide), ?_⟩
          rcases Program.runs_bind_iff.mp runs with ⟨_, _, _, _, rejected, _⟩ | ⟨thrown, _, same⟩
          · exact ⟨_, (Procedure.runs_reject_iff.mp rejected).2⟩
          · exact ⟨thrown, same⟩
      | ok url =>
          rw [withSettings_eq_of_resource empty offered] at runs
          refine (bootstrapping_of_runs runs).reportsOnce ?_ ?_
          · intro resolved trusted after ended followed
            rcases Program.runs_bind_iff.mp followed with ⟨_, _, _, fetched, delivered, rfl⟩ | ⟨_, fetched, _⟩
            · exact (follows_of_runs_fetchUnder fetched).deliver delivered
            · exact follows_of_runs_fetchUnder fetched
          · intro resolved trusted after summary followed
            rcases Program.runs_bind_iff.mp followed with
              ⟨fetched, fetching, delivery, ran, delivered, rfl⟩ | ⟨_, _, same⟩
            · obtain ⟨rfl, arrived⟩ := Fetcher.fetched_of_runs ran
              obtain ⟨outputs, writes, same⟩ := reported_of_deliver delivered
              have fetches := fetcher.fetchUnder_keepsTo url settings.scope resolved
                ⟨fetched.bundle, fetched.checksum⟩
              have delivers := deliver_keepsTo settings
                ⟨⟨fetched.bundle, fetched.checksum⟩, some fetched.body⟩
              have unprinted := Transcript.outputs_eq_nil (Transcript.lacks_of_keepsTo ran fetches (by decide))
              have unwritten := Transcript.writes_eq_nil (Transcript.lacks_of_keepsTo ran fetches (by decide))
              have unasked := Transcript.bodies_eq_nil
                (Transcript.lacks_of_keepsTo delivered delivers (by decide))
                (Transcript.lacks_of_keepsTo delivered delivers (by decide))
              refine ⟨some fetched.body, by rw [empty]; rfl, ?_, ?_, ?_, same⟩
              · rw [Transcript.bodies_append, arrived, unasked]
                rfl
              · rw [Transcript.outputs_append, unprinted]
                exact outputs
              · rw [Transcript.writes_append, unwritten]
                exact writes
            · cases same

theorem masked_first (runs : (withSettings fetcher settings).Runs events outcome) :
    ∃ masked rest, events = ⟨.print (.mask settings.token), masked⟩ :: rest := by
  rw [withSettings_eq] at runs
  rcases Program.runs_bind_iff.mp runs with ⟨_, _, rest, masked, _, rfl⟩ | ⟨thrown, masked, _⟩
  · obtain rfl := Procedure.runs_perform_iff.mp masked
    exact ⟨_, rest, rfl⟩
  · obtain rfl := Procedure.runs_perform_iff.mp masked
    exact ⟨_, [], rfl⟩

end Run

/-- Whatever answers and whatever throws, a run hides its token before anything else and makes at most one
bootstrap. If it succeeds, all that it reports is the outcome of that one and the bytes that came after. -/
theorem runs_report_one_bootstrap {σ : Type} (handler : Handler Command Command.Answer σ) (state : σ)
    (fetcher : Fetcher) (settings : Settings) :
    let call := (Run.start fetcher (.ok settings)).run handler state
    (∃ masked rest, call.events = ⟨.print (.mask settings.token), masked⟩ :: rest) ∧
      Run.ReportsOnce fetcher settings call.events call.outcome := by
  have runs : (Run.withSettings fetcher settings).Runs _ _ :=
    Program.runs_run handler state (Run.start fetcher (.ok settings))
  exact ⟨Run.masked_first runs, Run.withSettings_reportsOnce runs⟩

theorem runs_report_one_bootstrap_genuine :
    let settings : Settings := ⟨GenuineServer.address, "token", .cluster, "/v3/import", "ca.pem", ""⟩
    let call := (Run.start {} (.ok settings)).run (GenuineServer.handler "token" [1] [2]) ()
    call.outcome = .ok ⟨true, Integrity.checksum [1], true, some 1⟩ ∧
      (∃ masked rest, call.events = ⟨.print (.mask "token"), masked⟩ :: rest) ∧
      Run.ReportsOnce {} settings call.events call.outcome := by
  intro settings call
  have masked : ((Procedure.print (.mask "token")).run (GenuineServer.handler "token" [1] [2]) ()).outcome =
      .ok () := rfl
  have fetched : ((Fetcher.get {} GenuineServer.address "token" "/v3/import" .cluster).run
      (GenuineServer.handler "token" [1] [2]) ()).outcome = .ok ⟨[2], some [1], Integrity.checksum [1]⟩ :=
    GenuineServer.get_succeeds {} (List.cons_ne_nil 1 []) GenuineServer.caUrl_address
      GenuineServer.resourceUrl_address
  have gathered : ((Run.gather {} settings).run (GenuineServer.handler "token" [1] [2]) ()).outcome =
      .ok ⟨⟨some [1], Integrity.checksum [1]⟩, some [2]⟩ := by
    have named : settings.path.isEmpty = false := by decide
    rw [Run.gather, named, if_neg Bool.false_ne_true]
    exact Program.outcome_bind_of_ok fetched
  have delivered : call.outcome = .ok ⟨true, Integrity.checksum [1], true, some 1⟩ := by
    change ((Run.withSettings {} settings).run _ _).outcome = _
    rw [Run.withSettings_eq]
    refine (Program.outcome_bind_of_ok masked).trans ?_
    refine (Program.outcome_bind_of_ok gathered).trans ?_
    rfl
  exact ⟨delivered, runs_report_one_bootstrap (GenuineServer.handler "token" [1] [2]) () {} settings⟩

end JoinTrust
