import JoinTrust.Proofs.RunEvidence

set_option autoImplicit false

/-!
The checksum that goes with a bundle. Wherever a bundle comes out of a bootstrap, a fetch or a run, the
checksum beside it is the digest of that very bundle, and it is empty where there is no bundle.
-/

namespace JoinTrust

/-- The checksum is that of the bundle, and empty without one. -/
def CaCerts.Summed (trusted : CaCerts) : Prop :=
  trusted.checksum = (trusted.bundle.map Integrity.checksum).getD ""

theorem CaCerts.ofBody_summed (body : Bytes) : (ofBody body).Summed := by
  cases body <;> rfl

theorem CaCerts.Summed.checksum_eq {trusted : CaCerts} {bundle : Bytes} (summed : trusted.Summed)
    (present : trusted.bundle = some bundle) : trusted.checksum = Integrity.checksum bundle := by
  rw [summed, present]
  rfl

theorem Bootstrapper.Course.summed {bootstrapper : Bootstrapper} {server token : String} {scope : Scope}
    {events : Transcript} {outcome : Except Thrown CaCerts} {trusted : CaCerts}
    (course : Course bootstrapper server token scope events outcome) (succeeded : outcome = .ok trusted) :
    trusted.Summed := by
  cases course with
  | nonceFailed => cases succeeded
  | serverRejected => cases succeeded
  | probeFailed => cases succeeded
  | downloadFailed => cases succeeded
  | trusted =>
      cases succeeded
      rfl
  | @judged drawing probing download nonce url reply answer =>
      obtain ⟨_, judged⟩ := Program.closedWith_eq_ok_iff.mp succeeded
      cases judgement : reply.judge token nonce with
      | error failure =>
          rw [judgement] at judged
          cases judged
      | ok judgedTrusted =>
          rw [judgement] at judged
          cases judged
          obtain ⟨_, _, rfl⟩ := Reply.judge_eq_ok_iff.mp judgement
          exact CaCerts.ofBody_summed reply.body

namespace Fetcher

variable {fetcher : Fetcher} {server token path : String} {scope : Scope} {events : Transcript}

theorem Establishing.summed {outcome : Except Thrown Established} {established : Established}
    (establishing : Establishing fetcher server token scope events outcome)
    (succeeded : outcome = .ok established) : established.trusted.Summed := by
  cases establishing with
  | unresolved => cases succeeded
  | @bootstrapped lookup bootstrap resolved outcome looked bootstrapped =>
      cases outcome with
      | error thrown => cases succeeded
      | ok trusted =>
          cases succeeded
          exact (Bootstrapper.course_of_runs bootstrapped).summed rfl

theorem Course.summed {outcome : Except Thrown Fetched} {fetched : Fetched}
    (course : Course fetcher server token path scope events outcome) (succeeded : outcome = .ok fetched) :
    CaCerts.Summed ⟨fetched.bundle, fetched.checksum⟩ := by
  cases course with
  | rejected => cases succeeded
  | unestablished => cases succeeded
  | hardware _ establishing _ fetching =>
      rw [(fetching.eq_of_ok succeeded).1]
      exact establishing.summed rfl
  | plain _ establishing _ fetching =>
      rw [(fetching.eq_of_ok succeeded).1]
      exact establishing.summed rfl

end Fetcher

theorem Run.Gathering.summed {fetcher : Fetcher} {settings : Settings} {events : Transcript}
    {outcome : Except Thrown Gathered} {gathered : Gathered}
    (gathering : Gathering fetcher settings events outcome) (succeeded : outcome = .ok gathered) :
    gathered.trusted.Summed := by
  cases gathering with
  | @bundle established empty establishing =>
      cases established with
      | error thrown => cases succeeded
      | ok established =>
          cases succeeded
          exact establishing.summed rfl
  | @resource fetched nonempty course =>
      cases fetched with
      | error thrown => cases succeeded
      | ok fetched =>
          cases succeeded
          exact course.summed rfl

end JoinTrust
