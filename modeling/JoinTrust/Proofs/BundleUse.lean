import JoinTrust.Proofs.RunEvidence

set_option autoImplicit false

/-!
What bundles are put to use for: as the roots of a client, in hardware, and in files. A bootstrap puts
none to use. A fetch uses the bundle that it established, and a run writes it before it reports on the
resource.
-/

namespace JoinTrust

def Trust.bundle? : Trust → Option Bytes
  | .pinned bundle => some bundle
  | _ => none

theorem Trust.bundle?_ofBundle (bundle : Option Bytes) : (Trust.ofBundle bundle).bundle? = bundle := by
  cases bundle <;> rfl

/-- The bundle that an operation puts to use: as the roots of a client, or in hardware. -/
def Command.bundle? : Command → Option Bytes
  | .create options => options.trust.bundle?
  | .fetchHardware bundle _ => bundle
  | _ => none

namespace Transcript

variable {bundle : Option Bytes} {used : Transcript → String} {events first rest : Transcript}

/-- Nothing but this bundle is put to use. -/
def UsesOnly (bundle : Option Bytes) (transcript : Transcript) : Prop :=
  ∀ event ∈ transcript, ∀ content, event.op.bundle? = some content → bundle = some content

/-- Every bundle that is put to use is authenticated by what came before, under the token that was in
use by then. -/
def UsesAuthenticated (used : Transcript → String) (transcript : Transcript) : Prop :=
  ∀ before event after content, transcript = before ++ event :: after →
    event.op.bundle? = some content → Authenticates before (used before) content

theorem usesOnly_nil : UsesOnly bundle [] :=
  fun _ member => by cases member

theorem usesOnly_cons_iff {event : Event Command Command.Answer} :
    UsesOnly bundle (event :: rest) ↔
      (∀ content, event.op.bundle? = some content → bundle = some content) ∧ UsesOnly bundle rest :=
  List.forall_mem_cons

theorem usesOnly_singleton {event : Event Command Command.Answer} (unused : event.op.bundle? = none) :
    UsesOnly bundle [event] := by
  intro used member content uses
  cases List.mem_singleton.mp member
  rw [unused] at uses
  cases uses

theorem usesOnly_append_iff :
    UsesOnly bundle (first ++ rest) ↔ UsesOnly bundle first ∧ UsesOnly bundle rest := by
  simp only [UsesOnly, List.forall_mem_append]

theorem usesOnly_of_lacks (noClient : Lacks .client events) (noHardware : Lacks .hardware events) :
    UsesOnly bundle events := by
  rintro ⟨op, answer⟩ member content uses
  cases op with
  | create options => exact absurd rfl (noClient _ member)
  | fetchHardware trusted url => exact absurd rfl (noHardware _ member)
  | _ => cases uses

theorem usesOnly_of_keepsTo {α : Type} {procedure : Procedure α} {topics : List Topic}
    {outcome : Except Thrown α} (runs : procedure.Runs events outcome) (keeps : procedure.KeepsTo topics)
    (noClient : .client ∉ topics) (noHardware : .hardware ∉ topics) : UsesOnly bundle events :=
  usesOnly_of_lacks (lacks_of_keepsTo runs keeps noClient) (lacks_of_keepsTo runs keeps noHardware)

theorem usesAuthenticated_of_usesOnly_none (none : UsesOnly none events) :
    UsesAuthenticated used events := by
  rintro before event after content rfl uses
  have member : event ∈ before ++ event :: after := List.mem_append_right _ List.mem_cons_self
  cases none event member content uses

/-- What is put to use later may rest on everything before it. -/
theorem UsesAuthenticated.append (authentic : UsesAuthenticated used first)
    (later : ∀ before event after content, rest = before ++ event :: after →
      event.op.bundle? = some content → Authenticates (first ++ before) (used (first ++ before)) content) :
    UsesAuthenticated used (first ++ rest) := by
  intro before event after content same uses
  rcases split_append_cons same with ⟨middle, inFirst⟩ | ⟨middle, rfl, inRest⟩
  · exact authentic before event middle content inFirst uses
  · exact later middle event after content inRest uses

end Transcript

open Transcript (UsesOnly UsesAuthenticated)

theorem Procedure.Exchanged.usesOnly {α : Type} {options : ClientOptions} {request : Request}
    {heard : Except Thrown Reply → Transcript → Except Thrown α → Prop} {events : Transcript}
    {outcome : Except Thrown α} (exchanged : Exchanged options request heard events outcome)
    (noClient : ∀ answer inner result, heard answer inner result → Transcript.Lacks .client inner)
    (noHardware : ∀ answer inner result, heard answer inner result → Transcript.Lacks .hardware inner) :
    UsesOnly options.trust.bundle? events := by
  cases exchanged with
  | unmade =>
      exact Transcript.usesOnly_cons_iff.mpr ⟨fun content uses => uses, Transcript.usesOnly_nil⟩
  | @made serial answer inner result closing follows =>
      have unused : UsesOnly options.trust.bundle? inner :=
        Transcript.usesOnly_of_lacks (noClient _ _ _ follows) (noHardware _ _ _ follows)
      refine Transcript.usesOnly_cons_iff.mpr ⟨fun content uses => uses, ?_⟩
      refine Transcript.usesOnly_cons_iff.mpr ⟨?_, ?_⟩
      · intro content uses
        cases uses
      · exact Transcript.usesOnly_append_iff.mpr ⟨unused, Transcript.usesOnly_singleton rfl⟩

/-!
## Bootstraps
-/

namespace Bootstrapper

variable {bootstrapper : Bootstrapper} {server token url : String} {scope : Scope} {events : Transcript}

private theorem drawing_usesOnly {source : Nonce.Source} {drawn : Except Thrown String}
    (drew : source.next.Runs events drawn) : UsesOnly none events :=
  Transcript.usesOnly_of_keepsTo drew (next_keepsTo source) (by decide) (by decide)

private theorem probing_usesOnly {timeout : Nat} {request : Request} {result : Except Thrown Bool}
    (probed : Procedure.Exchanged ⟨.system, timeout⟩ request (Probed url scope) events result) :
    UsesOnly none events :=
  probed.usesOnly (fun _ _ _ heard => probed_lacks heard (by decide))
    fun _ _ _ heard => probed_lacks heard (by decide)

private theorem download_usesOnly {timeout : Nat} {request : Request} {result : Except Thrown Reply}
    (downloaded : Procedure.Exchanged ⟨.insecure, timeout⟩ request (Downloaded url scope) events result) :
    UsesOnly none events :=
  downloaded.usesOnly (fun _ _ _ heard => heard.lacks (by decide)) fun _ _ _ heard => heard.lacks (by decide)

/-- A bootstrap does not use any bundle, not even the one that it verifies. -/
theorem Course.usesOnly {outcome : Except Thrown CaCerts}
    (course : Course bootstrapper server token scope events outcome) : UsesOnly none events := by
  cases course with
  | nonceFailed drew => exact drawing_usesOnly drew
  | serverRejected drew _ => exact drawing_usesOnly drew
  | probeFailed drew _ probed =>
      exact Transcript.usesOnly_append_iff.mpr ⟨drawing_usesOnly drew, probing_usesOnly probed⟩
  | trusted drew _ probed =>
      exact Transcript.usesOnly_append_iff.mpr ⟨drawing_usesOnly drew, probing_usesOnly probed⟩
  | downloadFailed drew _ probed downloaded =>
      refine Transcript.usesOnly_append_iff.mpr ⟨drawing_usesOnly drew, ?_⟩
      exact Transcript.usesOnly_append_iff.mpr ⟨probing_usesOnly probed, download_usesOnly downloaded⟩
  | judged drew _ probed downloaded =>
      refine Transcript.usesOnly_append_iff.mpr ⟨drawing_usesOnly drew, ?_⟩
      refine Transcript.usesOnly_append_iff.mpr ⟨probing_usesOnly probed, ?_⟩
      exact Transcript.usesOnly_append_iff.mpr
        ⟨download_usesOnly downloaded, Transcript.usesOnly_singleton rfl⟩

end Bootstrapper

/-!
## Fetches
-/

namespace Fetcher

variable {fetcher : Fetcher} {server token path url : String} {scope : Scope} {trusted : CaCerts}
  {events : Transcript}

theorem Establishing.usesOnly {outcome : Except Thrown Established}
    (establishing : Establishing fetcher server token scope events outcome) : UsesOnly none events := by
  have lookup {looked : Transcript} {resolved : Except Thrown ResolvedToken}
      (ran : (fetcher.usedToken token scope).Runs looked resolved) : UsesOnly none looked :=
    Transcript.usesOnly_of_keepsTo ran (fetcher.usedToken_keepsTo token scope) (by decide) (by decide)
  cases establishing with
  | unresolved looked => exact lookup looked
  | bootstrapped looked bootstrapped =>
      exact Transcript.usesOnly_append_iff.mpr
        ⟨lookup looked, (Bootstrapper.course_of_runs bootstrapped).usesOnly⟩

theorem HardwareFetched.usesOnly {outcome : Except Thrown Fetched}
    (fetched : HardwareFetched fetcher url trusted events outcome) : UsesOnly trusted.bundle events := by
  cases fetched with
  | missing => exact Transcript.usesOnly_nil
  | failed =>
      refine Transcript.usesOnly_cons_iff.mpr ⟨fun content uses => uses, ?_⟩
      exact Transcript.usesOnly_singleton rfl
  | untold => exact Transcript.usesOnly_cons_iff.mpr ⟨fun content uses => uses, Transcript.usesOnly_nil⟩
  | fetched =>
      refine Transcript.usesOnly_cons_iff.mpr ⟨fun content uses => uses, ?_⟩
      exact Transcript.usesOnly_singleton rfl

theorem PlainFetched.usesOnly {outcome : Except Thrown Fetched}
    (fetched : PlainFetched fetcher url token scope trusted events outcome) :
    UsesOnly trusted.bundle events := by
  have exchange {exchange : Transcript} {result : Except Thrown Reply}
      (exchanged : Procedure.Exchanged ⟨.ofBundle trusted.bundle, fetcher.timeout⟩
        (resourceRequest url token scope) (Procedure.Told (resourceFailure url) (Failure.resource url))
        exchange result) : UsesOnly trusted.bundle exchange := by
    rw [← Trust.bundle?_ofBundle trusted.bundle]
    exact exchanged.usesOnly (fun _ _ _ told => told.lacks (by decide))
      fun _ _ _ told => told.lacks (by decide)
  cases fetched with
  | failed exchanged => exact exchange exchanged
  | answered exchanged =>
      exact Transcript.usesOnly_append_iff.mpr ⟨exchange exchanged, Transcript.usesOnly_singleton rfl⟩

/-- A fetch past its bootstrap uses nothing but the bundle that its bootstrap authenticated. -/
private theorem usesAuthenticated_append {fetching : Transcript} {established : Established}
    (establishing : Establishing fetcher server token scope events (.ok established))
    (unasked : Transcript.Lacks .lookup fetching)
    (uses : UsesOnly established.trusted.bundle fetching) :
    UsesAuthenticated (Transcript.usedToken token scope) (events ++ fetching) := by
  refine (Transcript.usesAuthenticated_of_usesOnly_none establishing.usesOnly).append ?_
  rintro before event after content rfl used
  have trusted := uses event (List.mem_append_right _ List.mem_cons_self) content used
  have verified := establishing.bundle_eq rfl
  rw [trusted] at verified
  have authentic := (Transcript.authenticates_of_verifiedBundle? verified.symm).append [] before
  rw [Transcript.usedToken_append_left (Transcript.lacks_append_iff.mp unasked).1]
  exact authentic

theorem Course.usesAuthenticated {outcome : Except Thrown Fetched}
    (course : Course fetcher server token path scope events outcome) :
    UsesAuthenticated (Transcript.usedToken token scope) events := by
  cases course with
  | rejected => exact Transcript.usesAuthenticated_of_usesOnly_none Transcript.usesOnly_nil
  | unestablished _ establishing =>
      exact Transcript.usesAuthenticated_of_usesOnly_none establishing.usesOnly
  | hardware _ establishing _ fetching =>
      exact usesAuthenticated_append establishing (fetching.lacks (by decide) (by decide)) fetching.usesOnly
  | plain _ establishing _ fetching =>
      exact usesAuthenticated_append establishing (fetching.lacks (by decide) (by decide)) fetching.usesOnly

end Fetcher

/-!
## Runs
-/

namespace Transcript

/-- Until the resource is reported on, every file is the one for the bundle, and what is written to it
is authenticated by what came before. From then on, every file is the one for the resource. -/
def WritesAuthenticated (settings : Settings) (transcript : Transcript) : Prop :=
  ∀ before event after path content permissions, transcript = before ++ event :: after →
    event.op = .write path content permissions →
    (path = settings.caFile ∧
      Authenticates before (usedToken settings.token settings.scope before) content) ∨
    (path = settings.outputFile ∧ ReportsResource before)

theorem writesAuthenticated_of_lacks {settings : Settings} {events : Transcript}
    (noFile : Lacks .file events) : WritesAuthenticated settings events := by
  rintro before event after path content permissions rfl wrote
  have other := noFile event (List.mem_append_right _ List.mem_cons_self)
  rw [wrote] at other
  exact absurd rfl other

end Transcript

namespace Run

variable {fetcher : Fetcher} {settings : Settings} {events : Transcript}

theorem Gathering.usesAuthenticated {outcome : Except Thrown Gathered}
    (gathering : Gathering fetcher settings events outcome) :
    UsesAuthenticated (Transcript.usedToken settings.token settings.scope) events := by
  cases gathering with
  | bundle _ establishing => exact Transcript.usesAuthenticated_of_usesOnly_none establishing.usesOnly
  | resource _ course => exact course.usesAuthenticated

private theorem masked_lacks {answer : Except Thrown Unit} {topic : Topic} (other : topic ≠ .line) :
    Transcript.Lacks topic [⟨.print (.mask settings.token), answer⟩] :=
  Transcript.lacks_singleton other

private theorem masked_usesOnly {answer : Except Thrown Unit} :
    UsesOnly none [⟨.print (.mask settings.token), answer⟩] :=
  Transcript.usesOnly_of_lacks (masked_lacks (by decide)) (masked_lacks (by decide))

/-- What was gathered is authenticated by the whole run as well. -/
theorem authenticates_masked {content : Bytes} (answer : Except Thrown Unit) (rest : Transcript)
    (authentic : Transcript.Authenticates events
      (Transcript.usedToken settings.token settings.scope events) content)
    (unasked : Transcript.Lacks .lookup rest) :
    Transcript.Authenticates (⟨.print (.mask settings.token), answer⟩ :: (events ++ rest))
      (Transcript.usedToken settings.token settings.scope
        (⟨.print (.mask settings.token), answer⟩ :: (events ++ rest))) content := by
  rw [← List.singleton_append, Transcript.usedToken_append_right (masked_lacks (by decide)),
    Transcript.usedToken_append_left unasked, ← List.append_assoc]
  exact authentic.append _ rest

private theorem usesAuthenticated_masked (answer : Except Thrown Unit)
    (authentic : UsesAuthenticated (Transcript.usedToken settings.token settings.scope) events) :
    UsesAuthenticated (Transcript.usedToken settings.token settings.scope)
      (⟨.print (.mask settings.token), answer⟩ :: events) := by
  rw [← List.singleton_append]
  refine (Transcript.usesAuthenticated_of_usesOnly_none masked_usesOnly).append ?_
  intro before event after content same uses
  have earlier := authentic before event after content same uses
  have masked := authenticates_masked answer [] earlier Transcript.lacks_nil
  rwa [List.append_nil] at masked

theorem Course.usesAuthenticated {outcome : Except Thrown Summary}
    (course : Course fetcher settings events outcome) :
    UsesAuthenticated (Transcript.usedToken settings.token settings.scope) events := by
  cases course with
  | exposed => exact Transcript.usesAuthenticated_of_usesOnly_none masked_usesOnly
  | ungathered gathering => exact usesAuthenticated_masked _ gathering.usesAuthenticated
  | gathered gathering delivered =>
      refine usesAuthenticated_masked _ (gathering.usesAuthenticated.append ?_)
      rintro before event after content rfl uses
      have member : event ∈ before ++ event :: after := List.mem_append_right _ List.mem_cons_self
      have unused : UsesOnly none (before ++ event :: after) :=
        Transcript.usesOnly_of_keepsTo delivered (deliver_keepsTo settings _) (by decide) (by decide)
      cases unused event member content uses

theorem Course.writesAuthenticated {outcome : Except Thrown Summary}
    (course : Course fetcher settings events outcome) :
    Transcript.WritesAuthenticated settings events := by
  cases course with
  | exposed => exact Transcript.writesAuthenticated_of_lacks (masked_lacks (by decide))
  | ungathered gathering => exact Transcript.writesAuthenticated_of_lacks gathering.unwritten
  | @gathered gathering delivery gathered outcome before delivered =>
      have silent : Transcript.Lacks .file (⟨.print (.mask settings.token), .ok ()⟩ :: gathering) :=
        before.unwritten
      intro earlier event after path content permissions same wrote
      rw [← List.cons_append] at same
      -- Gathering keeps off files, so that every write belongs to the delivery.
      rcases split_append_cons same with ⟨middle, inGathering⟩ | ⟨middle, rfl, rfl⟩
      · have member : event ∈ earlier ++ event :: middle := List.mem_append_right _ List.mem_cons_self
        have other := silent event (inGathering ▸ member)
        rw [wrote] at other
        exact absurd rfl other
      · rcases deliver_writes delivered wrote with ⟨rfl, bundle⟩ | ⟨rfl, checksum, answer, reported⟩
        · have unasked := Transcript.lacks_of_keepsTo delivered (deliver_keepsTo settings _)
            (by decide : Topic.lookup ∉ [Topic.line, .file])
          have verified := before.bundle_eq rfl
          rw [bundle] at verified
          exact .inl ⟨rfl, authenticates_masked _ middle
            (Transcript.authenticates_of_verifiedBundle? verified.symm)
            (Transcript.lacks_append_iff.mp unasked).1⟩
        · exact .inr ⟨rfl, checksum, answer, List.mem_append_right _ reported⟩

end Run

end JoinTrust
