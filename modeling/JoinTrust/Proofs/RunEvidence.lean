import JoinTrust.Proofs.Delivery
import JoinTrust.Proofs.FetchEvidence

set_option autoImplicit false

/-!
What the transcript of a run shows. What was gathered is read off the events as for a fetch, and every
file that a delivery writes is the one for the bundle until the resource is reported on.
-/

namespace JoinTrust

namespace Transcript

/-- The checksum of what was fetched is reported. It is the first thing that is said about a resource. -/
def ReportsResource (transcript : Transcript) : Prop :=
  ∃ checksum answer, (⟨.print (.output .checksum checksum), answer⟩ : Event Command Command.Answer) ∈ transcript

end Transcript

namespace Run

variable {fetcher : Fetcher} {settings : Settings} {events : Transcript}

/-!
## Delivery
-/

/-- A delivery writes the bundle before it reports on the resource, and the resource afterwards. -/
theorem deliver_writes {gathered : Gathered} {outcome : Except Thrown Summary} {before after : Transcript}
    {event : Event Command Command.Answer} {path : String} {content : Bytes} {permissions : Nat}
    (runs : (deliver settings gathered).Runs (before ++ event :: after) outcome)
    (wrote : event.op = .write path content permissions) :
    (path = settings.caFile ∧ gathered.trusted.bundle = some content) ∨
      (path = settings.outputFile ∧ Transcript.ReportsResource before) := by
  obtain ⟨_, performed, _⟩ := performed_of_deliver runs
  obtain ⟨undone, same⟩ := performed.ops_prefix
  rw [List.map_append, List.map_cons, wrote, List.append_assoc, List.cons_append] at same
  rcases split_append_cons same.symm with ⟨middle, inBundle⟩ | ⟨middle, earlier, inBody⟩
  · have member := inBundle ▸ List.mem_append_right (before.map Event.op) List.mem_cons_self
    cases bundleStep_of_mem member with
    | written present => exact .inl ⟨rfl, present⟩
  · have member := inBody ▸ List.mem_append_right middle List.mem_cons_self
    cases body : gathered.body with
    | none =>
        rw [body] at member
        cases member
    | some content =>
        rw [body] at member inBody
        -- The report itself is not the write, so that it comes before.
        cases middle with
        | nil => cases (List.cons.inj inBody).1
        | cons report middle =>
            obtain rfl := (List.cons.inj inBody).1
            have reported : Command.print (.output .checksum gathered.trusted.checksum) ∈ before.map Event.op := by
              rw [earlier]
              exact List.mem_append_right _ List.mem_cons_self
            obtain ⟨⟨op, answer⟩, among, rfl⟩ := List.mem_map.mp reported
            cases bodyStep_of_mem member with
            | written => exact .inr ⟨rfl, _, answer, among⟩

/-!
## Gathering
-/

theorem Gathering.lacks {outcome : Except Thrown Gathered} {topic : Topic}
    (gathering : Gathering fetcher settings events outcome)
    (other : topic ∉ [Topic.lookup, .nonce, .client, .audit, .hardware]) :
    Transcript.Lacks topic events := by
  have notEstablishing : topic ∉ [Topic.lookup, .nonce, .client, .audit] := by
    intro member
    exact other (List.mem_append_left [Topic.hardware] member)
  simp only [List.mem_cons, not_or] at other
  obtain ⟨_, _, notClient, notAudit, notHardware, _⟩ := other
  cases gathering with
  | bundle _ establishing => exact establishing.lacks notEstablishing
  | resource _ course =>
      cases course with
      | rejected => exact Transcript.lacks_nil
      | unestablished _ establishing => exact establishing.lacks notEstablishing
      | hardware _ establishing _ fetching =>
          exact Transcript.lacks_append_iff.mpr
            ⟨establishing.lacks notEstablishing, fetching.lacks notHardware notAudit⟩
      | plain _ establishing _ fetching =>
          exact Transcript.lacks_append_iff.mpr
            ⟨establishing.lacks notEstablishing, fetching.lacks notClient notAudit⟩

/-- Up to its delivery a run prints the line that hides its token, and writes no file. -/
theorem Gathering.unwritten {outcome : Except Thrown Gathered} {answer : Except Thrown Unit}
    (gathering : Gathering fetcher settings events outcome) :
    Transcript.Lacks .file (⟨.print (.mask settings.token), answer⟩ :: events) :=
  Transcript.lacks_cons_iff.mpr ⟨Topic.noConfusion, gathering.lacks (by decide)⟩

theorem Gathering.bundle_eq {outcome : Except Thrown Gathered} {gathered : Gathered}
    (gathering : Gathering fetcher settings events outcome) (succeeded : outcome = .ok gathered) :
    gathered.trusted.bundle =
      Transcript.verifiedBundle? (Transcript.usedToken settings.token settings.scope events) events := by
  cases gathering with
  | @bundle established empty establishing =>
      cases established with
      | error thrown => cases succeeded
      | ok established =>
          cases succeeded
          exact establishing.bundle_eq rfl
  | @resource fetched nonempty course =>
      cases fetched with
      | error thrown => cases succeeded
      | ok fetched =>
          cases succeeded
          exact course.bundle_eq rfl

/-!
## Whole runs
-/

/-- A run with settings hides its token and gathers; everything else that it does is lines and files. -/
theorem gathering_between {outcome : Except Thrown ExitCode}
    (runs : (finish (start fetcher (.ok settings))).Runs events outcome) :
    (∀ event ∈ events, event.op.topic ∈ [Topic.line, .file]) ∨
      ∃ masked gathering rest gathered, events = masked ++ (gathering ++ rest) ∧
        Gathering fetcher settings gathering gathered ∧
        (∀ event ∈ masked, event.op.topic ∈ [Topic.line, .file]) ∧
        ∀ event ∈ rest, event.op.topic ∈ [Topic.line, .file] := by
  obtain ⟨run, told, rfl, tells, known⟩ := finish_split runs
  have masks (answer : Except Thrown Unit) :
      ∀ event ∈ ([⟨.print (.mask settings.token), answer⟩] : Transcript),
        event.op.topic ∈ [Topic.line, .file] := by
    intro event member
    cases List.mem_singleton.mp member
    exact List.mem_cons_self
  have tellsLines : ∀ event ∈ told, event.op.topic ∈ [Topic.line, .file] := by
    intro event member
    rcases tells with rfl | ⟨text, answer, rfl⟩
    · cases member
    · cases List.mem_singleton.mp member
      exact List.mem_cons_self
  rcases known with ⟨_, same, _⟩ | ⟨_, _, same, course⟩
  · cases same
  · cases same
    cases course with
    | exposed => exact .inl (List.forall_mem_append.mpr ⟨masks _, tellsLines⟩)
    | @ungathered gathering _ gathered => 
        exact .inr ⟨_, gathering, told, _, rfl, gathered, masks (.ok ()), tellsLines⟩
    | @gathered gathering delivery _ _ gathered delivered =>
        have delivers : ∀ event ∈ delivery, event.op.topic ∈ [Topic.line, .file] :=
          fun event member => delivered.allowed_of_mem (deliver_keepsTo settings _) member
        refine .inr ⟨_, gathering, delivery ++ told, _, ?_, gathered, masks (.ok ()), ?_⟩
        · rw [List.cons_append, List.append_assoc, List.singleton_append]
        · exact List.forall_mem_append.mpr ⟨delivers, tellsLines⟩

theorem lines_of_runs {failure : Failure} {outcome : Except Thrown ExitCode}
    (runs : (finish (start fetcher (.error failure))).Runs events outcome) :
    ∀ event ∈ events, event.op.topic = .line := by
  obtain ⟨run, told, rfl, tells, known⟩ := finish_split runs
  rcases known with ⟨_, _, rfl⟩ | ⟨_, _, same, _⟩
  · intro event member
    rcases tells with rfl | ⟨text, answer, rfl⟩
    · cases member
    · cases List.mem_singleton.mp member
      rfl
  · cases same

end Run

end JoinTrust
