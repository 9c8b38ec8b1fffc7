import JoinTrust.Tls
import JoinTrust.Proofs.BundleChecksum
import JoinTrust.Proofs.BundleUse
import JoinTrust.Proofs.GenuineServer
import JoinTrust.Proofs.Utf8Form

set_option autoImplicit false

/-!
The roots of a client that pins a bundle. They are given to the layer below as text, which is the bundle again exactly
if the bundle is well-formed. A fetch makes no other roots than those of the bundle that it established, and every
checksum that it reports is that of this bundle.
-/

namespace JoinTrust

open Text

theorem Text.Utf8.encode_decode_iff (octets : Bytes) :
    encode (decode octets) = octets ↔ WellFormed octets := by
  rw [encode, decode, String.toList_ofList]
  exact encodeChars_decodeChars_iff

namespace Trust

theorem roots_pinned (bundle : Bytes) : (pinned bundle).tlsOptions.roots = some (Utf8.decode bundle) := rfl

theorem bundle?_of_roots {trust : Trust} {text : String} (roots : trust.tlsOptions.roots = some text) :
    ∃ bundle, trust.bundle? = some bundle ∧ text = Utf8.decode bundle := by
  cases trust with
  | system => cases roots
  | insecure => cases roots
  | pinned bundle =>
      cases roots
      exact ⟨bundle, rfl, rfl⟩

theorem pinned_injective {first second : Bytes} (wellFormed : Utf8.WellFormed first)
    (alsoWellFormed : Utf8.WellFormed second) (same : (pinned first).tlsOptions = (pinned second).tlsOptions) :
    first = second := by
  have roots := congrArg TlsOptions.roots same
  rw [roots_pinned, roots_pinned, Option.some.injEq] at roots
  calc first
    _ = Utf8.encode (Utf8.decode first) := ((Utf8.encode_decode_iff first).mpr wellFormed).symm
    _ = Utf8.encode (Utf8.decode second) := congrArg Utf8.encode roots
    _ = second := (Utf8.encode_decode_iff second).mpr alsoWellFormed

end Trust

/-!
## Checksums in the trail
-/

/-- The checksum that an entry reports for the bundle of its call. -/
def Audit.Entry.checksum? : Audit.Entry → Option String
  | .bootstrapVerified _ _ checksum _ => some checksum
  | .fetchOk _ _ _ checksum _ => some checksum
  | .fetchHardware _ checksum _ => some checksum
  | .clientSecretUpdated _ _ checksum => some checksum
  | _ => none

def Command.checksum? : Command → Option String
  | .audit entry => entry.checksum?
  | _ => none

namespace Transcript

variable {checksum : String} {events first rest : Transcript}

/-- No checksum but this one is reported. -/
def Reports (checksum : String) (transcript : Transcript) : Prop :=
  ∀ event ∈ transcript, ∀ reported, event.op.checksum? = some reported → reported = checksum

theorem reports_cons_iff {event : Event Command Command.Answer} :
    Reports checksum (event :: rest) ↔
      (∀ reported, event.op.checksum? = some reported → reported = checksum) ∧ Reports checksum rest :=
  List.forall_mem_cons

theorem reports_append_iff :
    Reports checksum (first ++ rest) ↔ Reports checksum first ∧ Reports checksum rest := by
  simp only [Reports, List.forall_mem_append]

theorem reports_of_lacks (lacks : Lacks .audit events) : Reports checksum events := by
  intro event member reported reports
  obtain ⟨op, answer⟩ := event
  cases op with
  | audit entry => exact absurd rfl (lacks _ member)
  | _ => cases reports

theorem reports_nil : Reports checksum [] :=
  reports_of_lacks lacks_nil

theorem reports_cons_of_none {event : Event Command Command.Answer} (unsummed : event.op.checksum? = none)
    (later : Reports checksum rest) : Reports checksum (event :: rest) := by
  apply reports_cons_iff.mpr
  refine ⟨?_, later⟩
  intro reported reports
  rw [unsummed] at reports
  cases reports

end Transcript

open Transcript (Reports)

theorem Procedure.Exchanged.reports {α : Type} {options : ClientOptions} {request : Request} {checksum : String}
    {heard : Except Thrown Reply → Transcript → Except Thrown α → Prop} {events : Transcript}
    {outcome : Except Thrown α} (exchanged : Exchanged options request heard events outcome)
    (hears : ∀ answer inner result, heard answer inner result → Reports checksum inner) :
    Reports checksum events := by
  cases exchanged with
  | unmade => exact Transcript.reports_cons_of_none rfl Transcript.reports_nil
  | made follows =>
      apply Transcript.reports_cons_of_none rfl
      apply Transcript.reports_cons_of_none rfl
      apply Transcript.reports_append_iff.mpr
      exact ⟨hears _ _ _ follows, Transcript.reports_cons_of_none rfl Transcript.reports_nil⟩

theorem Procedure.Told.reports {α : Type} {entry : Thrown → Audit.Entry} {failure : Thrown → Failure}
    {answer : Except Thrown α} {events : Transcript} {outcome : Except Thrown α} {checksum : String}
    (told : Told entry failure answer events outcome) (unsummed : ∀ thrown, (entry thrown).checksum? = none) :
    Reports checksum events := by
  cases told with
  | answered => exact Transcript.reports_nil
  | refused => exact Transcript.reports_cons_of_none (unsummed _) Transcript.reports_nil
  | untold => exact Transcript.reports_nil

namespace Bootstrapper

variable {bootstrapper : Bootstrapper} {server token url checksum : String} {scope : Scope} {events : Transcript}

private theorem doubted_reports {thrown : Thrown} {result : Except Thrown Bool}
    (doubted : Doubted url scope thrown events result) : Reports checksum events := by
  cases doubted with
  | recorded => exact Transcript.reports_cons_of_none rfl Transcript.reports_nil
  | untold => exact Transcript.reports_nil

private theorem probed_reports {heard : Except Thrown Reply} {result : Except Thrown Bool}
    (probed : Probed url scope heard events result) : Reports checksum events := by
  cases probed with
  | trusted => exact Transcript.reports_cons_of_none rfl Transcript.reports_nil
  | untrusted doubted => exact doubted_reports doubted
  | unrecorded doubted => exact Transcript.reports_cons_of_none rfl (doubted_reports doubted)

private theorem conclusion_checksum? {status : Int} {judgement : Except Failure CaCerts} {trusted : CaCerts}
    (judged : judgement = .ok trusted) {reported : String}
    (reports : (conclusion url scope status judgement).checksum? = some reported) : reported = trusted.checksum := by
  obtain ⟨bundle, checksum⟩ := trusted
  cases judged
  cases bundle with
  | none => cases reports
  | some bundle =>
      cases reports
      rfl

/-- A bootstrap that succeeds reports no checksum but the one that it returns. -/
theorem Course.reports {outcome : Except Thrown CaCerts} {trusted : CaCerts}
    (course : Course bootstrapper server token scope events outcome) (succeeded : outcome = .ok trusted) :
    Reports trusted.checksum events := by
  cases course with
  | nonceFailed => cases succeeded
  | serverRejected => cases succeeded
  | probeFailed => cases succeeded
  | downloadFailed => cases succeeded
  | trusted drew _ probed =>
      apply Transcript.reports_append_iff.mpr
      constructor
      · exact Transcript.reports_of_lacks (drawing_lacks drew (by decide))
      · exact probed.reports fun _ _ _ heard => probed_reports heard
  | @judged drawing probing download nonce url reply answer drew _ probed downloaded =>
      obtain ⟨_, judged⟩ := Program.closedWith_eq_ok_iff.mp succeeded
      cases judgement : reply.judge token nonce with
      | error failure =>
          rw [judgement] at judged
          cases judged
      | ok other =>
          rw [judgement] at judged
          cases judged
          simp only [Transcript.reports_append_iff]
          refine ⟨Transcript.reports_of_lacks (drawing_lacks drew (by decide)), ?_, ?_, ?_⟩
          · exact probed.reports fun _ _ _ heard => probed_reports heard
          · exact downloaded.reports fun _ _ _ told => told.reports fun thrown => rfl
          · apply Transcript.reports_cons_iff.mpr
            exact ⟨fun reported reports => conclusion_checksum? rfl reports, Transcript.reports_nil⟩

end Bootstrapper

/-!
## Roots in a fetch
-/

/-- Some client of the conversation has this text as its roots. -/
def Transcript.Roots (transcript : Transcript) (text : String) : Prop :=
  ∃ event ∈ transcript, ∃ options, event.op = .create options ∧ options.trust.tlsOptions.roots = some text

namespace Fetcher

variable {fetcher : Fetcher} {server token path url : String} {scope : Scope} {trusted : CaCerts}
  {events : Transcript}

theorem Establishing.reports {outcome : Except Thrown Established} {established : Established}
    (establishing : Establishing fetcher server token scope events outcome) (succeeded : outcome = .ok established) :
    Reports established.trusted.checksum events := by
  cases establishing with
  | unresolved => cases succeeded
  | @bootstrapped lookup bootstrap resolved outcome looked bootstrapped =>
      cases outcome with
      | error thrown => cases succeeded
      | ok trusted =>
          cases succeeded
          apply Transcript.reports_append_iff.mpr
          constructor
          · exact Transcript.reports_of_lacks (lookup_lacks looked (by decide))
          · exact (Bootstrapper.course_of_runs bootstrapped).reports rfl

theorem PlainFetched.reports {outcome : Except Thrown Fetched}
    (fetched : PlainFetched fetcher url token scope trusted events outcome) :
    Reports trusted.checksum events := by
  have exchange {exchange : Transcript} {result : Except Thrown Reply}
      (exchanged : Procedure.Exchanged ⟨.ofBundle trusted.bundle, fetcher.timeout⟩
        (resourceRequest url token scope) (Procedure.Told (resourceFailure url) (Failure.resource url))
        exchange result) : Reports trusted.checksum exchange :=
    exchanged.reports fun _ _ _ told => told.reports fun thrown => rfl
  cases fetched with
  | failed exchanged => exact exchange exchanged
  | @answered asked reply answer exchanged =>
      apply Transcript.reports_append_iff.mpr
      refine ⟨exchange exchanged, Transcript.reports_cons_iff.mpr ⟨?_, Transcript.reports_nil⟩⟩
      intro reported reports
      by_cases refused : reply.status ≠ 200
      · rw [received, if_pos refused] at reports
        cases reports
      · rw [received, if_neg refused] at reports
        cases reports
        rfl

/-- A fetch that has roots of its own has those of the bundle that its bootstrap established, and neither what it
returns nor what it records has another checksum. -/
theorem Course.rooted {outcome : Except Thrown Fetched} {text : String}
    (course : Course fetcher server token path scope events outcome) (roots : events.Roots text) :
    ∃ bundle, text = Utf8.decode bundle ∧ Reports (Integrity.checksum bundle) events ∧
      ∀ fetched, outcome = .ok fetched →
        fetched.bundle = some bundle ∧ fetched.checksum = Integrity.checksum bundle := by
  obtain ⟨event, member, options, created, given⟩ := roots
  obtain ⟨bundle, pinned, rfl⟩ := Trust.bundle?_of_roots given
  have used : event.op.bundle? = some bundle := by
    rw [created]
    exact pinned
  have unused {established : Transcript} (none : Transcript.UsesOnly none established)
      (among : event ∈ established) : False := by
    cases none event among bundle used
  have made {fetching : Transcript} (lacks : Transcript.Lacks .client fetching) (among : event ∈ fetching) :
      False := by
    apply lacks event among
    rw [created]
    rfl
  cases course with
  | rejected => cases member
  | unestablished _ establishing => exact (unused establishing.usesOnly member).elim
  | hardware _ establishing _ fetching =>
      rcases List.mem_append.mp member with among | among
      · exact (unused establishing.usesOnly among).elim
      · exact (made (fetching.lacks (by decide) (by decide)) among).elim
  | @plain url asked fetching established outcome _ establishing _ fetched =>
      rcases List.mem_append.mp member with among | among
      · exact (unused establishing.usesOnly among).elim
      · have present : established.trusted.bundle = some bundle := fetched.usesOnly event among bundle used
        have summed := (establishing.summed rfl).checksum_eq present
        have reports := Transcript.reports_append_iff.mpr ⟨establishing.reports rfl, fetched.reports⟩
        rw [summed] at reports
        refine ⟨bundle, rfl, reports, ?_⟩
        intro result succeeded
        have same := (fetched.eq_of_ok succeeded).1
        exact ⟨(congrArg CaCerts.bundle same).trans present, (congrArg CaCerts.checksum same).trans summed⟩

/-- A resource that did not come through hardware came over a client that has the bundle as its roots. -/
theorem Course.roots {outcome : Except Thrown Fetched} {fetched : Fetched} {bundle : Bytes}
    (course : Course fetcher server token path scope events outcome) (succeeded : outcome = .ok fetched)
    (present : fetched.bundle = some bundle) (soft : Transcript.Lacks .hardware events) :
    events.Roots (Utf8.decode bundle) := by
  cases course with
  | rejected => cases succeeded
  | unestablished => cases succeeded
  | hardware _ _ _ fetching =>
      have untouched := (Transcript.lacks_append_iff.mp soft).2
      cases fetching with
      | missing => cases succeeded
      | failed => exact absurd rfl (Transcript.lacks_cons_iff.mp untouched).1
      | untold => cases succeeded
      | fetched => exact absurd rfl (Transcript.lacks_cons_iff.mp untouched).1
  | @plain url asked fetching established outcome _ _ _ fetching =>
      rw [fetching.bundle_eq succeeded] at present
      cases fetching with
      | failed => cases succeeded
      | @answered exchange reply answer exchanged =>
          obtain ⟨serial, rfl⟩ := exchanged.eq_of_ok rfl
          refine ⟨_, List.mem_append_right _ List.mem_cons_self, _, rfl, ?_⟩
          rw [present]
          rfl

/-- A cluster token is used as given, so that it cannot stay in hardware. -/
theorem Course.lacks_hardware {outcome : Except Thrown Fetched}
    (course : Course fetcher server token path .cluster events outcome) : Transcript.Lacks .hardware events := by
  cases course with
  | rejected => exact Transcript.lacks_nil
  | unestablished _ establishing => exact establishing.lacks (by decide)
  | plain _ establishing _ fetching =>
      exact Transcript.lacks_append_iff.mpr
        ⟨establishing.lacks (by decide), fetching.lacks (by decide) (by decide)⟩
  | hardware _ establishing backed _ =>
      generalize ended : (Except.ok _ : Except Thrown Established) = outcome at establishing
      cases establishing with
      | unresolved => cases ended
      | @bootstrapped lookup bootstrap resolved outcome looked bootstrapped =>
          cases (Program.runs_done_iff.mp looked).2
          cases outcome with
          | error thrown => cases ended
          | ok trusted =>
              cases ended
              cases backed

end Fetcher

/-- A bundle is given to the layer below as a text that encodes to the bundle exactly if the bundle is well-formed, so
that different bundles of this kind are different roots. A fetch gives no other text than that of its bundle, and for
a bundle of this kind every checksum that it returns or records is the digest of the octets of the text. -/
theorem pinned_roots_lossless :
    (∀ bundle : Bytes, ∃ text, (Trust.pinned bundle).tlsOptions.roots = some text ∧
      (Utf8.encode text = bundle ↔ Utf8.WellFormed bundle)) ∧
    (∀ first second : Bytes, Utf8.WellFormed first → Utf8.WellFormed second → first ≠ second →
      (Trust.pinned first).tlsOptions ≠ (Trust.pinned second).tlsOptions) ∧
    ∀ {σ : Type} (handler : Handler Command Command.Answer σ) (state : σ) (fetcher : Fetcher)
      (server token path : String) (scope : Scope),
      let call := (fetcher.get server token path scope).run handler state
      (∀ fetched bundle, call.outcome = .ok fetched → fetched.bundle = some bundle →
        Transcript.Lacks .hardware call.events → Transcript.Roots call.events (Utf8.decode bundle)) ∧
      ∀ text, Transcript.Roots call.events text → ∃ bundle,
        (Trust.pinned bundle).tlsOptions.roots = some text ∧
        (∀ fetched, call.outcome = .ok fetched → fetched.bundle = some bundle) ∧
        (Utf8.WellFormed bundle →
          (∀ fetched, call.outcome = .ok fetched →
            fetched.checksum = Hex.encode (Digest.Sha256.hash (Utf8.encode text))) ∧
          Reports (Hex.encode (Digest.Sha256.hash (Utf8.encode text))) call.events) := by
  refine ⟨?lossless, ?distinct, ?fetch⟩
  case lossless =>
    intro bundle
    exact ⟨_, Trust.roots_pinned bundle, Utf8.encode_decode_iff bundle⟩
  case distinct =>
    intro first second wellFormed alsoWellFormed different same
    exact different (Trust.pinned_injective wellFormed alsoWellFormed same)
  case fetch =>
    intro σ handler state fetcher server token path scope call
    have course : Fetcher.Course fetcher server token path scope call.events call.outcome :=
      Fetcher.course_of_runs (Program.runs_run handler state _)
    constructor
    · intro fetched bundle succeeded present soft
      exact course.roots succeeded present soft
    · intro text roots
      obtain ⟨bundle, rfl, reports, returns⟩ := course.rooted roots
      refine ⟨bundle, rfl, fun fetched succeeded => (returns fetched succeeded).1, ?_⟩
      intro wellFormed
      rw [(Utf8.encode_decode_iff bundle).mpr wellFormed]
      exact ⟨fun fetched succeeded => (returns fetched succeeded).2, reports⟩

theorem pinned_roots_lossless_genuine :
    let call := (Fetcher.get {} GenuineServer.address "token" "/v3/import" .cluster).run
      (GenuineServer.handler "token" [0x43, 0x41] [2]) ()
    Utf8.WellFormed [0x43, 0x41] ∧
      (Trust.pinned [0x43]).tlsOptions ≠ (Trust.pinned [0x43, 0x41]).tlsOptions ∧
      call.outcome = .ok ⟨[2], some [0x43, 0x41], Integrity.checksum [0x43, 0x41]⟩ ∧
      Transcript.Lacks .hardware call.events ∧ Transcript.Roots call.events "CA" ∧
      Integrity.checksum [0x43, 0x41] = Hex.encode (Digest.Sha256.hash (Utf8.encode "CA")) := by
  intro call
  have one : Utf8.WellFormed [0x43] := (Utf8.encode_decode_iff _).mp (by decide +kernel)
  have two : Utf8.WellFormed [0x43, 0x41] := (Utf8.encode_decode_iff _).mp (by decide +kernel)
  have fetched : call.outcome = .ok ⟨[2], some [0x43, 0x41], Integrity.checksum [0x43, 0x41]⟩ :=
    GenuineServer.get_succeeds {} (List.cons_ne_nil _ _) GenuineServer.caUrl_address GenuineServer.resourceUrl_address
  have soft : Transcript.Lacks .hardware call.events :=
    (Fetcher.course_of_runs (Program.runs_run _ () _)).lacks_hardware
  have text : Utf8.decode [0x43, 0x41] = "CA" := by decide +kernel
  obtain ⟨_, distinct, fetch⟩ := pinned_roots_lossless
  obtain ⟨rooted, lossless⟩ := fetch (GenuineServer.handler "token" [0x43, 0x41] [2]) () {} GenuineServer.address
    "token" "/v3/import" .cluster
  have roots : Transcript.Roots call.events "CA" := by
    have decoded := rooted _ _ fetched rfl soft
    rwa [text] at decoded
  obtain ⟨bundle, _, returned, digest⟩ := lossless "CA" roots
  cases returned _ fetched
  have summed := (digest two).1 _ fetched
  exact ⟨two, distinct _ _ one two (by decide), fetched, soft, roots, summed⟩

end JoinTrust
