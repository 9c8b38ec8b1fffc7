import JoinTrust.Proofs.AuditSink
import JoinTrust.Proofs.FetchEvidence
import JoinTrust.Proofs.GenuineServer

set_option autoImplicit false

/-!
What a failing audit trail can do to a bootstrap and to a fetch. A sink that refuses entries ends a call
early and causes no request, as long as it takes the entry about a trusted probe. Refusing that entry is
taken for a failed probe: the bundle is then downloaded from a server that was trusted already, and this
is the one way in which a sink has a say.
-/

namespace JoinTrust

open Procedure (StopsOnRefusal)

/-!
## Refusals
-/

namespace Bootstrapper

variable {bootstrapper : Bootstrapper} {server token url : String} {scope : Scope}

theorem refuse_stopsOnRefusal {α : Type} (url : String) (scope : Scope) (failure : Failure)
    (status : Option Int) : StopsOnRefusal (refuse url scope failure status : Procedure α) :=
  (Procedure.stopsOnRefusal_audit _).bind fun _ => trivial

theorem probe_stopsOnRefusal (bootstrapper : Bootstrapper) (url : String) (scope : Scope) :
    StopsOnRefusal (bootstrapper.probe url scope) := by
  refine .withClient fun client => .recover ?_ fun thrown => ?_
  -- The request is no entry, and the one entry that follows on it is about a trusted probe.
  · refine .bind (.perform fun entry same => by cases same) fun reply => ?_
    refine .bind (.perform ?_) fun _ => trivial
    intro entry same
    cases same
    rfl
  · exact .telling (.bind (Procedure.stopsOnRefusal_audit _) fun _ => trivial)

theorem download_stopsOnRefusal (bootstrapper : Bootstrapper) (url : String) (scope : Scope)
    (nonce token : String) : StopsOnRefusal (bootstrapper.download url scope nonce token) := by
  refine .withClient fun client => .recover (.perform ?_) fun thrown => (refuse_stopsOnRefusal _ _ _ _).telling
  intro entry same
  cases same

theorem conclude_stopsOnRefusal (url : String) (scope : Scope) (status : Int)
    (judgement : Except Failure CaCerts) : StopsOnRefusal (conclude url scope status judgement) := by
  cases judgement with
  | error failure => exact refuse_stopsOnRefusal _ _ _ _
  | ok trusted =>
      obtain ⟨bundle, checksum⟩ := trusted
      cases bundle with
      | none => exact (Procedure.stopsOnRefusal_audit _).bind fun _ => trivial
      | some bundle => exact (Procedure.stopsOnRefusal_audit _).bind fun _ => trivial

theorem caCerts_stopsOnRefusal (bootstrapper : Bootstrapper) (server token : String) (scope : Scope) :
    StopsOnRefusal (bootstrapper.caCerts server token scope) := by
  refine .bind (Procedure.stopsOnRefusal_of_keepsTo bootstrapper.nextNonce_keepsTo (by decide)) fun nonce => ?_
  refine .bind (Procedure.stopsOnRefusal_ofResult _) fun url => ?_
  refine .bind (bootstrapper.probe_stopsOnRefusal url scope) fun trusted => ?_
  cases trusted with
  | true => trivial
  | false =>
      refine .bind (bootstrapper.download_stopsOnRefusal url scope nonce token) fun reply => ?_
      exact conclude_stopsOnRefusal _ _ _ _

end Bootstrapper

namespace Fetcher

variable {fetcher : Fetcher} {server token path url : String} {scope : Scope}

theorem refuse_stopsOnRefusal {α : Type} (url : String) (failure : Failure) (status : Option Int) :
    StopsOnRefusal (refuse url failure status : Procedure α) :=
  (Procedure.stopsOnRefusal_audit _).bind fun _ => trivial

theorem establish_stopsOnRefusal (fetcher : Fetcher) (server token : String) (scope : Scope) :
    StopsOnRefusal (fetcher.establish server token scope) := by
  refine .bind (Procedure.stopsOnRefusal_of_keepsTo (fetcher.usedToken_keepsTo token scope) (by decide)) ?_
  intro resolved
  exact .bind (fetcher.bootstrapper.caCerts_stopsOnRefusal server _ scope) fun trusted => trivial

theorem hardwareGet_stopsOnRefusal (fetcher : Fetcher) (url : String) (trusted : CaCerts) :
    StopsOnRefusal (fetcher.hardwareGet url trusted) := by
  cases has : fetcher.hasHardware with
  | false =>
      rw [hardwareGet, has, if_neg Bool.false_ne_true]
      trivial
  | true =>
      rw [hardwareGet, has, if_pos rfl]
      refine .bind (.recover (.perform ?_) fun thrown => (refuse_stopsOnRefusal _ _ _).telling) fun body => ?_
      · intro entry same
        cases same
      · exact (Procedure.stopsOnRefusal_audit _).bind fun _ => trivial

theorem plainGet_stopsOnRefusal (fetcher : Fetcher) (url token : String) (scope : Scope)
    (trusted : CaCerts) : StopsOnRefusal (fetcher.plainGet url token scope trusted) := by
  refine .bind (.withClient fun client => ?_) fun reply => ?_
  · refine .recover (.perform ?_) fun thrown => (refuse_stopsOnRefusal _ _ _).telling
    intro entry same
    cases same
  · by_cases refused : reply.status ≠ 200
    · rw [if_pos refused]
      exact refuse_stopsOnRefusal _ _ _
    · rw [if_neg refused]
      exact (Procedure.stopsOnRefusal_audit _).bind fun _ => trivial

theorem get_stopsOnRefusal (fetcher : Fetcher) (server token path : String) (scope : Scope) :
    StopsOnRefusal (fetcher.get server token path scope) := by
  refine .bind (Procedure.stopsOnRefusal_ofResult _) fun url => ?_
  refine .bind (fetcher.establish_stopsOnRefusal server token scope) fun established => ?_
  cases backed : established.resolved.hardwareBacked with
  | true =>
      rw [if_pos rfl]
      exact fetcher.hardwareGet_stopsOnRefusal url _
  | false =>
      rw [if_neg Bool.false_ne_true]
      exact fetcher.plainGet_stopsOnRefusal url _ scope _

end Fetcher

/-!
## Answered probes
-/

namespace Transcript

variable {first rest : Transcript}

/-- The first request was answered. -/
def Answered (transcript : Transcript) : Prop :=
  ∃ reply, (replies transcript).head? = some (.ok reply)

/-- Every request went to a server that was verified. -/
def SentVerified (transcript : Transcript) : Prop :=
  ∀ request, (Trust.insecure, request) ∉ sent transcript

theorem replies_eq_nil_iff {transcript : Transcript} :
    replies transcript = [] ↔ sent transcript = [] := by
  rw [sent, List.map_eq_nil_iff, replies, requests, List.filterMap_eq_nil_iff, List.filterMap_eq_nil_iff]
  refine forall_congr' fun event => forall_congr' fun _ => ?_
  obtain ⟨command, answer⟩ := event
  cases command <;> simp

theorem answered_append_left (sends : sent first ≠ []) (answered : Answered (first ++ rest)) :
    Answered first := by
  obtain ⟨reply, head⟩ := answered
  refine ⟨reply, ?_⟩
  cases replied : replies first with
  | nil => exact absurd (replies_eq_nil_iff.mp replied) sends
  | cons answer others =>
      rw [replies_append, replied] at head
      exact head

theorem answered_append_right (silent : sent first = []) (answered : Answered (first ++ rest)) :
    Answered rest := by
  obtain ⟨reply, head⟩ := answered
  rw [replies_append, replies_eq_nil_iff.mpr silent] at head
  exact ⟨reply, head⟩

theorem sentVerified_append_iff :
    SentVerified (first ++ rest) ↔ SentVerified first ∧ SentVerified rest := by
  simp only [SentVerified, sent_append, List.mem_append, not_or, forall_and]

theorem sentVerified_of_silent (silent : sent first = []) : SentVerified first := by
  intro request member
  rw [silent] at member
  cases member

end Transcript

namespace Bootstrapper

variable {bootstrapper : Bootstrapper} {server token url : String} {scope : Scope} {events : Transcript}

/-- A probe that comes out as failed got no reply, unless the entry about the reply was refused. -/
private theorem not_answered_of_probed {options : ClientOptions} {request : Request}
    {outcome : Except Thrown Bool}
    (probed : Procedure.Exchanged options request (Probed url scope) events outcome)
    (failed : outcome = .ok false) (takes : ¬ events.RefusesProbe) : ¬ events.Answered := by
  cases probed with
  | unmade => cases failed
  | made heard =>
      obtain ⟨_, same⟩ := Program.closedWith_eq_ok_iff.mp failed
      cases heard with
      | trusted => cases same
      | @unrecorded reply thrown =>
          exact absurd ⟨url, scope, reply.status, thrown, by simp⟩ takes
      | untrusted =>
          rintro ⟨reply, head⟩
          cases head

private theorem drawing_silent {source : Nonce.Source} {drawn : Except Thrown String}
    (drew : source.next.Runs events drawn) : Transcript.sent events = [] :=
  Transcript.sent_eq_nil (drawing_lacks drew (by decide))

private theorem probing_sentVerified {timeout : Nat} {outcome : Except Thrown Bool}
    (probed : Procedure.Exchanged ⟨.system, timeout⟩ { url } (Probed url scope) events outcome) :
    events.SentVerified := by
  intro request member
  rcases probed.sent_eq fun _ _ _ heard => probed_lacks heard (by decide) with ⟨silent, _⟩ | sent
  · rw [silent] at member
    cases member
  · rw [sent, List.mem_singleton] at member
    cases member

/-- Behind a probe that came out as failed there was no reply to the first request. -/
private theorem not_answered_of_drawing {source : Nonce.Source} {drawn : Except Thrown String}
    {timeout : Nat} {probing rest : Transcript} (drew : source.next.Runs events drawn)
    (probed : Procedure.Exchanged ⟨.system, timeout⟩ { url } (Probed url scope) probing (.ok false))
    (takes : ¬ Transcript.RefusesProbe (events ++ (probing ++ rest))) :
    ¬ Transcript.Answered (events ++ (probing ++ rest)) := by
  intro answered
  have sends : Transcript.sent probing ≠ [] := by
    rw [probed.sent_eq_of_ok fun _ _ _ heard => probed_lacks heard (by decide)]
    exact List.cons_ne_nil _ _
  have tail := Transcript.answered_append_right (drawing_silent drew) answered
  refine not_answered_of_probed probed rfl (fun refuses => takes (refuses.mono ?_))
    (Transcript.answered_append_left sends tail)
  intro event member
  exact List.mem_append_right _ (List.mem_append_left _ member)

/-- A bootstrap whose probe was answered downloads nothing and yields no bundle, if its trail takes the
entry about that. -/
theorem Course.sentVerified_of_answered {outcome : Except Thrown CaCerts}
    (course : Course bootstrapper server token scope events outcome) (answered : events.Answered)
    (takes : ¬ events.RefusesProbe) :
    events.SentVerified ∧ ∀ trusted, outcome = .ok trusted → trusted.bundle = none := by
  cases course with
  | nonceFailed drew =>
      refine ⟨Transcript.sentVerified_of_silent (drawing_silent drew), ?_⟩
      intro trusted same
      cases same
  | serverRejected drew =>
      refine ⟨Transcript.sentVerified_of_silent (drawing_silent drew), ?_⟩
      intro trusted same
      cases same
  | probeFailed drew _ probed =>
      refine ⟨Transcript.sentVerified_append_iff.mpr
        ⟨Transcript.sentVerified_of_silent (drawing_silent drew), probing_sentVerified probed⟩, ?_⟩
      intro trusted same
      cases same
  | trusted drew _ probed =>
      refine ⟨Transcript.sentVerified_append_iff.mpr
        ⟨Transcript.sentVerified_of_silent (drawing_silent drew), probing_sentVerified probed⟩, ?_⟩
      intro trusted same
      cases same
      rfl
  | downloadFailed drew _ probed => exact absurd answered (not_answered_of_drawing drew probed takes)
  | judged drew _ probed => exact absurd answered (not_answered_of_drawing drew probed takes)

end Bootstrapper

namespace Fetcher

variable {fetcher : Fetcher} {server token path url : String} {scope : Scope} {events : Transcript}

theorem Establishing.sentVerified_of_answered {outcome : Except Thrown Established}
    (establishing : Establishing fetcher server token scope events outcome) (answered : events.Answered)
    (takes : ¬ events.RefusesProbe) :
    events.SentVerified ∧ ∀ established, outcome = .ok established → established.trusted.bundle = none := by
  cases establishing with
  | unresolved looked =>
      have silent := Transcript.sent_eq_nil (lookup_lacks looked (by decide))
      refine ⟨Transcript.sentVerified_of_silent silent, ?_⟩
      intro established same
      cases same
  | @bootstrapped lookup bootstrap resolved outcome looked bootstrapped =>
      have silent := Transcript.sent_eq_nil (lookup_lacks looked (by decide))
      obtain ⟨verified, unbundled⟩ := (Bootstrapper.course_of_runs bootstrapped).sentVerified_of_answered
        (Transcript.answered_append_right silent answered)
        fun refuses => takes (refuses.mono (List.subset_append_right _ _))
      refine ⟨Transcript.sentVerified_append_iff.mpr
        ⟨Transcript.sentVerified_of_silent silent, verified⟩, ?_⟩
      intro established same
      cases outcome with
      | error thrown => cases same
      | ok trusted =>
          cases same
          exact unbundled trusted rfl

private theorem Establishing.sent_ne_nil {established : Established}
    (establishing : Establishing fetcher server token scope events (.ok established)) :
    Transcript.sent events ≠ [] := by
  rcases establishing.sent_eq with ⟨_, thrown, same⟩ | ⟨url, _, probed | downloaded⟩
  · cases same
  · rw [probed]
    exact List.cons_ne_nil _ _
  · rw [downloaded]
    exact List.cons_ne_nil _ _

/-- A fetch whose probe was answered sends nothing to a server that nobody verified, and it pins no
bundle, if its trail takes the entry about that. -/
theorem Course.sentVerified_of_answered {outcome : Except Thrown Fetched}
    (course : Course fetcher server token path scope events outcome) (answered : events.Answered)
    (takes : ¬ events.RefusesProbe) :
    events.SentVerified ∧ ∀ fetched, outcome = .ok fetched → fetched.bundle = none := by
  have established {establishing fetching : Transcript} {established : Established}
      (first : Establishing fetcher server token scope establishing (.ok established))
      (answered : Transcript.Answered (establishing ++ fetching))
      (takes : ¬ Transcript.RefusesProbe (establishing ++ fetching)) :
      establishing.SentVerified ∧ established.trusted.bundle = none := by
    obtain ⟨verified, unbundled⟩ := first.sentVerified_of_answered
      (Transcript.answered_append_left first.sent_ne_nil answered)
      fun refuses => takes (refuses.mono (List.subset_append_left _ _))
    exact ⟨verified, unbundled established rfl⟩
  cases course with
  | rejected =>
      refine ⟨Transcript.sentVerified_of_silent rfl, ?_⟩
      intro fetched same
      cases same
  | unestablished _ establishing =>
      refine ⟨(establishing.sentVerified_of_answered answered takes).1, ?_⟩
      intro fetched same
      cases same
  | hardware _ first _ fetching =>
      obtain ⟨verified, unbundled⟩ := established first answered takes
      have silent := Transcript.sent_eq_nil (fetching.lacks (by decide) (by decide))
      refine ⟨Transcript.sentVerified_append_iff.mpr
        ⟨verified, Transcript.sentVerified_of_silent silent⟩, ?_⟩
      intro fetched same
      rw [fetching.bundle_eq same, unbundled]
  | plain _ first _ fetching =>
      obtain ⟨verified, unbundled⟩ := established first answered takes
      refine ⟨Transcript.sentVerified_append_iff.mpr ⟨verified, ?_⟩, ?_⟩
      · intro request member
        rcases fetching.sent_eq with silent | sent
        · rw [silent] at member
          cases member
        · rw [sent, unbundled, List.mem_singleton] at member
          cases member
      · intro fetched same
        rw [fetching.bundle_eq same, unbundled]

end Fetcher

/-- Sinks have no say in what a call asks of servers. A call is the same call under a sink that takes
every entry, up to where it ends: what it sends is the beginning of what it would send then. If its first
request was answered, it asks nothing of a server that nobody verified and it returns no bundle. -/
structure Unsteered {α : Type} (bundle : α → Option Bytes) (audited quiet : Transcript)
    (outcome : Except Thrown α) : Prop where
  requests : Transcript.requests audited <+: Transcript.requests quiet
  verified : audited.Answered → audited.SentVerified
  unbundled : audited.Answered → ∀ value, outcome = .ok value → bundle value = none

/-- Whatever answers and whatever else throws, a sink that takes the entry about a trusted probe cannot
steer a bootstrap or a fetch by refusing others. -/
theorem sinks_cannot_steer {σ τ : Type} (others : Handler Command Command.Answer σ) (state : σ)
    (sink : Audit.Sink τ) (memory : τ) (bootstrapper : Bootstrapper) (fetcher : Fetcher)
    (server token path : String) (scope : Scope) :
    (let procedure := bootstrapper.caCerts server token scope
     let call := procedure.run (others.auditedBy sink) (state, memory)
     let quiet := procedure.run (others.auditedBy .takesAll) (state, ())
     ¬ Transcript.RefusesProbe call.events →
      Unsteered CaCerts.bundle call.events quiet.events call.outcome) ∧
    (let procedure := fetcher.get server token path scope
     let call := procedure.run (others.auditedBy sink) (state, memory)
     let quiet := procedure.run (others.auditedBy .takesAll) (state, ())
     ¬ Transcript.RefusesProbe call.events →
      Unsteered Fetched.bundle call.events quiet.events call.outcome) := by
  constructor
  · intro procedure call quiet takes
    have course := Bootstrapper.course_of_runs (Program.runs_run (others.auditedBy sink) (state, memory) procedure)
    constructor
    · exact (bootstrapper.caCerts_stopsOnRefusal server token scope).requests_within state memory takes
    · intro answered
      exact (course.sentVerified_of_answered answered takes).1
    · intro answered
      exact (course.sentVerified_of_answered answered takes).2
  · intro procedure call quiet takes
    have course := Fetcher.course_of_runs (Program.runs_run (others.auditedBy sink) (state, memory) procedure)
    constructor
    · exact (fetcher.get_stopsOnRefusal server token path scope).requests_within state memory takes
    · intro answered
      exact (course.sentVerified_of_answered answered takes).1
    · intro answered
      exact (course.sentVerified_of_answered answered takes).2

/-- The sink that refuses entries of one kind. -/
def Audit.Sink.refusing (kind : Audit.Kind) : Audit.Sink Unit := fun _ entry =>
  ((), if entry.kind = kind then .error (.error "Error" "the trail is full") else .ok ())

private theorem not_refusesProbe_of_takes {σ τ α : Type} {others : Handler Command Command.Answer σ}
    {sink : Audit.Sink τ}
    (takes : ∀ memory url scope status, (sink memory (.probeTrusted url scope status)).2 = .ok ())
    (state : σ × τ) (procedure : Procedure α) :
    ¬ Transcript.RefusesProbe (procedure.run (others.auditedBy sink) state).events := by
  rintro ⟨url, scope, status, thrown, member⟩
  obtain ⟨before, answered⟩ := Program.answered_of_mem_run member
  simp only [Handler.auditedBy, takes] at answered
  cases answered

theorem sinks_cannot_steer_refusing :
    let world := (GenuineServer.handler "token" [1] [2]).auditedBy (.refusing .probeUntrusted)
    let quiet := (GenuineServer.handler "token" [1] [2]).auditedBy .takesAll
    let bootstrap := Bootstrapper.caCerts {} GenuineServer.address "token" .cluster
    let fetch := Fetcher.get {} GenuineServer.address "token" "/v3/import" .cluster
    (¬ Transcript.RefusesProbe (bootstrap.run world ((), ())).events ∧
      Unsteered CaCerts.bundle (bootstrap.run world ((), ())).events (bootstrap.run quiet ((), ())).events
        (bootstrap.run world ((), ())).outcome) ∧
    (¬ Transcript.RefusesProbe (fetch.run world ((), ())).events ∧
      Unsteered Fetched.bundle (fetch.run world ((), ())).events (fetch.run quiet ((), ())).events
        (fetch.run world ((), ())).outcome) := by
  have takes {α : Type} (procedure : Procedure α) :
      ¬ Transcript.RefusesProbe (procedure.run ((GenuineServer.handler "token" [1] [2]).auditedBy
        (.refusing .probeUntrusted)) ((), ())).events :=
    not_refusesProbe_of_takes (fun _ _ _ _ => rfl) ((), ()) procedure
  have unsteered := sinks_cannot_steer (GenuineServer.handler "token" [1] [2]) ()
    (.refusing .probeUntrusted) () {} {} GenuineServer.address "token" "/v3/import" .cluster
  exact ⟨⟨takes _, unsteered.1 (takes _)⟩, takes _, unsteered.2 (takes _)⟩

/-!
## A refusal that steers
-/

namespace GenuineServer

variable {server token url : String} {bundle : Bytes}

/-- The world of a server that holds the token and that the roots of the host verify. -/
def verified (token : String) (bundle : Bytes) : Handler Command Command.Answer (Nat × Unit) :=
  (handler token bundle []).answering fun _ _ request => .ok (reply token bundle request)

private theorem requests_verified (accepted : Server.caUrl server .cluster = .ok url) :
    Transcript.requests ((Bootstrapper.caCerts { nonces := .supplied } server token .cluster).run
      ((verified token bundle).auditedBy .takesAll) ((0, ()), ())).events =
      [(⟨⟨.system, 5000⟩, 0⟩, { url })] := by
  simp only [Bootstrapper.caCerts, accepted, Procedure.ofResult]
  rfl

private theorem bundle_of_refused_probe (token : String) (bundle : Bytes)
    (accepted : Server.caUrl server .cluster = .ok url) :
    let call := (Bootstrapper.caCerts { nonces := .supplied } server token .cluster).run
      ((verified token bundle).auditedBy (.refusing .probeTrusted)) ((0, ()), ())
    Transcript.Answered call.events ∧ call.outcome = .ok (.ofBody bundle) := by
  constructor
  · simp only [Bootstrapper.caCerts, accepted, Procedure.ofResult]
    exact ⟨_, rfl⟩
  · have drawn : ((Bootstrapper.nextNonce { nonces := .supplied }).run
        ((verified token bundle).auditedBy (.refusing .probeTrusted)) ((0, ()), ())).outcome =
        .ok "nonce" := rfl
    -- The trail throws inside of the probe, which takes this for a server that is not trusted.
    have probed : ((Bootstrapper.probe { nonces := .supplied } url .cluster).run
        ((verified token bundle).auditedBy (.refusing .probeTrusted)) ((0, ()), ())).outcome =
        .ok false := rfl
    have downloaded : ((Bootstrapper.download { nonces := .supplied } url .cluster "nonce" token).run
        ((verified token bundle).auditedBy (.refusing .probeTrusted)) ((1, ()), ())).outcome =
        .ok (reply token bundle (Bootstrapper.downloadRequest url "nonce" token)) := rfl
    refine (Program.outcome_bind_of_ok drawn).trans ?_
    rw [accepted]
    refine (Program.outcome_bind_of_ok probed).trans ?_
    refine (Program.outcome_bind_of_ok downloaded).trans ?_
    rw [judge_reply]
    cases bundle <;> rfl

private theorem steered_by_refused_probe (accepted : Server.caUrl server .cluster = .ok url)
    (octet : UInt8) (rest : Bytes) :
    let procedure := Bootstrapper.caCerts { nonces := .supplied } server token .cluster
    let world := verified token (octet :: rest)
    let call := procedure.run (world.auditedBy (.refusing .probeTrusted)) ((0, ()), ())
    let quiet := procedure.run (world.auditedBy .takesAll) ((0, ()), ())
    ¬ Transcript.requests call.events <+: Transcript.requests quiet.events ∧
      Transcript.Answered call.events ∧ ¬ Transcript.SentVerified call.events ∧
      call.outcome = .ok (.ofBody (octet :: rest)) := by
  intro procedure world call quiet
  obtain ⟨answered, succeeded⟩ := bundle_of_refused_probe token (octet :: rest) accepted
  have asked : Transcript.requests quiet.events = [(⟨⟨.system, 5000⟩, 0⟩, { url })] :=
    requests_verified accepted
  -- A bundle that is returned was downloaded from a server that nobody verified.
  have bundled := (Bootstrapper.course_of_runs (Program.runs_run _ _ procedure)).bundle_eq succeeded
  obtain ⟨_, client, request, reply, _, member, insecure, _⟩ :=
    Transcript.authenticates_of_verifiedBundle? bundled.symm
  have sent : (client, request) ∈ Transcript.requests call.events :=
    List.mem_filterMap.mpr ⟨_, member, rfl⟩
  refine ⟨?_, answered, ?_, succeeded⟩
  · intro within
    have known := within.subset sent
    rw [asked, List.mem_singleton] at known
    cases known
    cases insecure
  · intro verified
    apply verified request
    rw [← insecure]
    exact List.mem_map.mpr ⟨_, sent, rfl⟩

end GenuineServer

/-- A sink that refuses the entry about a trusted probe does steer: the bundle is downloaded and returned
although the server was trusted already. -/
theorem refused_probe_steers :
    let procedure := Bootstrapper.caCerts { nonces := .supplied } GenuineServer.address "token" .cluster
    let world := GenuineServer.verified "token" [1]
    let call := procedure.run (world.auditedBy (.refusing .probeTrusted)) ((0, ()), ())
    let quiet := procedure.run (world.auditedBy .takesAll) ((0, ()), ())
    ¬ Transcript.requests call.events <+: Transcript.requests quiet.events ∧
      Transcript.Answered call.events ∧ ¬ Transcript.SentVerified call.events ∧
      call.outcome = .ok (.ofBody [1]) :=
  GenuineServer.steered_by_refused_probe GenuineServer.caUrl_address 1 []

end JoinTrust
