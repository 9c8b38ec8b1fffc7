import JoinTrust.Proofs.BootstrapEvidence
import JoinTrust.Proofs.FetchCourse

set_option autoImplicit false

/-!
What the transcript of a fetch shows. The token that it uses, the bundle that it trusts and the requests
that it sends are read off the events alone, whichever course the fetch took.
-/

namespace JoinTrust

open Program (closedWith)

namespace Fetcher

variable {fetcher : Fetcher} {server token path url : String} {scope : Scope} {trusted : CaCerts}
  {events : Transcript} {topic : Topic}

/-!
## Topics
-/

theorem hardwareGet_keepsTo (fetcher : Fetcher) (url : String) (trusted : CaCerts) :
    (fetcher.hardwareGet url trusted).KeepsTo [.hardware, .audit] := by
  have audits {entry : Audit.Entry} : (Procedure.audit entry).KeepsTo [.hardware, .audit] :=
    .audit (by decide)
  cases has : fetcher.hasHardware with
  | false =>
      rw [hardwareGet, has, if_neg Bool.false_ne_true]
      trivial
  | true =>
      rw [hardwareGet, has, if_pos rfl]
      refine .bind (.recover (.perform List.mem_cons_self) fun thrown => ?_) fun body => ?_
      · exact .telling (.bind audits fun _ => trivial)
      · exact .bind audits fun _ => trivial

theorem plainGet_keepsTo (fetcher : Fetcher) (url token : String) (scope : Scope) (trusted : CaCerts) :
    (fetcher.plainGet url token scope trusted).KeepsTo [.client, .audit] := by
  have audits {entry : Audit.Entry} : (Procedure.audit entry).KeepsTo [.client, .audit] :=
    .audit (by decide)
  refine .bind (.withClient List.mem_cons_self fun client => ?_) fun reply => ?_
  · exact .recover (.get List.mem_cons_self) fun thrown => .telling (.bind audits fun _ => trivial)
  · by_cases refused : reply.status ≠ 200
    · rw [if_pos refused]
      exact .bind audits fun _ => trivial
    · rw [if_neg refused]
      exact .bind audits fun _ => trivial

theorem fetchUnder_keepsTo (fetcher : Fetcher) (url : String) (scope : Scope) (resolved : ResolvedToken)
    (trusted : CaCerts) :
    (fetcher.fetchUnder url scope resolved trusted).KeepsTo [.client, .hardware, .audit] := by
  cases backed : resolved.hardwareBacked with
  | true =>
      rw [fetchUnder, backed, if_pos rfl]
      exact (hardwareGet_keepsTo fetcher url trusted).wider (by simp)
  | false =>
      rw [fetchUnder, backed, if_neg Bool.false_ne_true]
      exact (plainGet_keepsTo fetcher url _ scope trusted).wider (by simp)

theorem lookup_lacks {looked : Except Thrown ResolvedToken}
    (runs : (fetcher.usedToken token scope).Runs events looked) (other : topic ≠ .lookup) :
    Transcript.Lacks topic events :=
  Transcript.lacks_of_keepsTo runs (fetcher.usedToken_keepsTo token scope) (by simpa using other)

private theorem bootstrap_lacks {bootstrapper : Bootstrapper} {outcome : Except Thrown CaCerts}
    (runs : (bootstrapper.caCerts server token scope).Runs events outcome)
    (other : topic ∉ [Topic.nonce, .client, .audit]) : Transcript.Lacks topic events :=
  Transcript.lacks_of_keepsTo runs bootstrapper.caCerts_keepsTo other

theorem Establishing.lacks {outcome : Except Thrown Established}
    (establishing : Establishing fetcher server token scope events outcome)
    (other : topic ∉ [Topic.lookup, .nonce, .client, .audit]) : Transcript.Lacks topic events := by
  rw [List.mem_cons, not_or] at other
  obtain ⟨notLookup, notBootstrap⟩ := other
  cases establishing with
  | unresolved looked => exact lookup_lacks looked notLookup
  | bootstrapped looked bootstrapped =>
      exact Transcript.lacks_append_iff.mpr
        ⟨lookup_lacks looked notLookup, bootstrap_lacks bootstrapped notBootstrap⟩

theorem HardwareFetched.lacks {outcome : Except Thrown Fetched}
    (fetched : HardwareFetched fetcher url trusted events outcome)
    (notHardware : topic ≠ .hardware) (notAudit : topic ≠ .audit) : Transcript.Lacks topic events := by
  cases fetched with
  | missing => exact Transcript.lacks_nil
  | failed =>
      refine Transcript.lacks_cons_iff.mpr ⟨notHardware.symm, ?_⟩
      exact Transcript.lacks_singleton notAudit
  | untold => exact Transcript.lacks_singleton notHardware
  | fetched =>
      refine Transcript.lacks_cons_iff.mpr ⟨notHardware.symm, ?_⟩
      exact Transcript.lacks_singleton notAudit

theorem PlainFetched.lacks {outcome : Except Thrown Fetched}
    (fetched : PlainFetched fetcher url token scope trusted events outcome)
    (notClient : topic ≠ .client) (notAudit : topic ≠ .audit) : Transcript.Lacks topic events := by
  cases fetched with
  | failed exchanged => exact exchanged.lacks (fun _ _ _ told => told.lacks notAudit) notClient
  | answered exchanged =>
      refine Transcript.lacks_append_iff.mpr
        ⟨exchanged.lacks (fun _ _ _ told => told.lacks notAudit) notClient, ?_⟩
      exact Transcript.lacks_singleton notAudit

/-!
## Establishing
-/

private theorem usedToken_bootstrapped {bootstrap : Transcript} {resolved : ResolvedToken}
    {outcome : Except Thrown CaCerts} (looked : (fetcher.usedToken token scope).Runs events (.ok resolved))
    (bootstrapped : (fetcher.bootstrapper.caCerts server resolved.token scope).Runs bootstrap outcome) :
    Transcript.usedToken token scope (events ++ bootstrap) = resolved.token := by
  rw [Transcript.usedToken_append_left (bootstrap_lacks bootstrapped (by decide)),
    usedToken_of_runs looked]

/-- Establishing trust sends nothing, or a probe, or a probe and then a download under the token that
was resolved. It cannot succeed without the probe. -/
theorem Establishing.sent_eq {outcome : Except Thrown Established}
    (establishing : Establishing fetcher server token scope events outcome) :
    (Transcript.sent events = [] ∧ ∃ thrown, outcome = .error thrown) ∨
      ∃ url, Server.caUrl server scope = .ok url ∧
        (Transcript.sent events = [(.system, { url })] ∨
          Transcript.sent events = [(.system, { url }),
            (.insecure, Bootstrapper.downloadRequest url
              (Transcript.nonceFrom fetcher.bootstrapper.nonces events)
              (Transcript.usedToken token scope events))]) := by
  cases establishing with
  | unresolved looked =>
      exact .inl ⟨Transcript.sent_eq_nil (lookup_lacks looked (by decide)), _, rfl⟩
  | @bootstrapped lookup bootstrap resolved outcome looked bootstrapped =>
      have unsent := Transcript.sent_eq_nil (lookup_lacks looked (by decide))
      have undrawn : Transcript.Lacks .nonce lookup := lookup_lacks looked (by decide)
      rw [Transcript.sent_append, unsent, List.nil_append, Transcript.nonceFrom_append_right undrawn,
        usedToken_bootstrapped looked bootstrapped]
      rcases (Bootstrapper.course_of_runs bootstrapped).sent_eq with ⟨silent, thrown, rfl⟩ | shown
      · exact .inl ⟨silent, thrown, rfl⟩
      · exact .inr shown

theorem Establishing.token_eq {outcome : Except Thrown Established} {established : Established}
    (establishing : Establishing fetcher server token scope events outcome)
    (succeeded : outcome = .ok established) :
    Transcript.usedToken token scope events = established.resolved.token := by
  cases establishing with
  | unresolved => cases succeeded
  | @bootstrapped lookup bootstrap resolved outcome looked bootstrapped =>
      rw [usedToken_bootstrapped looked bootstrapped]
      cases outcome with
      | error thrown => cases succeeded
      | ok trusted =>
          cases succeeded
          rfl

theorem Establishing.bundle_eq {outcome : Except Thrown Established} {established : Established}
    (establishing : Establishing fetcher server token scope events outcome)
    (succeeded : outcome = .ok established) :
    established.trusted.bundle =
      Transcript.verifiedBundle? (Transcript.usedToken token scope events) events := by
  cases establishing with
  | unresolved => cases succeeded
  | @bootstrapped lookup bootstrap resolved outcome looked bootstrapped =>
      rw [usedToken_bootstrapped looked bootstrapped, Transcript.verifiedBundle?_append,
        Transcript.verifiedBundle?_eq_none (lookup_lacks looked (by decide)), Option.none_or]
      cases outcome with
      | error thrown => cases succeeded
      | ok trusted =>
          cases succeeded
          exact (Bootstrapper.course_of_runs bootstrapped).bundle_eq rfl

/-!
## Fetching
-/

/-- A fetch that succeeds returns the outcome of the bootstrap, and the bytes that arrived. -/
theorem HardwareFetched.eq_of_ok {outcome : Except Thrown Fetched} {fetched : Fetched}
    (fetching : HardwareFetched fetcher url trusted events outcome) (succeeded : outcome = .ok fetched) :
    (⟨fetched.bundle, fetched.checksum⟩ : CaCerts) = trusted ∧ Transcript.bodies events = [fetched.body] := by
  cases fetching with
  | missing => cases succeeded
  | failed => cases (Program.closedWith_eq_ok_iff.mp succeeded).2
  | untold => cases succeeded
  | fetched =>
      cases (Program.closedWith_eq_ok_iff.mp succeeded).2
      exact ⟨rfl, rfl⟩

theorem PlainFetched.eq_of_ok {outcome : Except Thrown Fetched} {fetched : Fetched}
    (fetching : PlainFetched fetcher url token scope trusted events outcome)
    (succeeded : outcome = .ok fetched) :
    (⟨fetched.bundle, fetched.checksum⟩ : CaCerts) = trusted ∧ Transcript.bodies events = [fetched.body] := by
  cases fetching with
  | failed => cases succeeded
  | @answered exchange reply answer exchanged =>
      obtain ⟨_, accepted⟩ := Program.closedWith_eq_ok_iff.mp succeeded
      obtain ⟨serial, rfl⟩ := exchanged.eq_of_ok rfl
      by_cases refused : reply.status ≠ 200
      · rw [received, if_pos refused] at accepted
        cases accepted
      · rw [received, if_neg refused] at accepted
        cases accepted
        exact ⟨rfl, rfl⟩

theorem HardwareFetched.bundle_eq {outcome : Except Thrown Fetched} {fetched : Fetched}
    (fetching : HardwareFetched fetcher url trusted events outcome) (succeeded : outcome = .ok fetched) :
    fetched.bundle = trusted.bundle :=
  congrArg CaCerts.bundle (fetching.eq_of_ok succeeded).1

theorem PlainFetched.bundle_eq {outcome : Except Thrown Fetched} {fetched : Fetched}
    (fetching : PlainFetched fetcher url token scope trusted events outcome)
    (succeeded : outcome = .ok fetched) : fetched.bundle = trusted.bundle :=
  congrArg CaCerts.bundle (fetching.eq_of_ok succeeded).1

theorem PlainFetched.sent_eq {outcome : Except Thrown Fetched}
    (fetching : PlainFetched fetcher url token scope trusted events outcome) :
    Transcript.sent events = [] ∨
      Transcript.sent events = [(.ofBundle trusted.bundle, resourceRequest url token scope)] := by
  cases fetching with
  | failed exchanged =>
      rcases exchanged.sent_eq fun _ _ _ told => told.lacks (by decide) with ⟨silent, _⟩ | sent
      · exact .inl silent
      · exact .inr sent
  | answered exchanged =>
      have sent := exchanged.sent_eq_of_ok fun _ _ _ told => told.lacks (by decide)
      exact .inr (by rw [Transcript.sent_append, sent]; rfl)

/-- No bundle is given by a bundle: a client that trusts one verifies every reply. -/
theorem ofBundle_ne_insecure (bundle : Option Bytes) : Trust.ofBundle bundle ≠ .insecure := by
  cases bundle <;> exact Trust.noConfusion

theorem PlainFetched.verifiedBundle?_eq_none {used : String} {outcome : Except Thrown Fetched}
    (fetching : PlainFetched fetcher url token scope trusted events outcome) :
    Transcript.verifiedBundle? used events = none := by
  cases fetching with
  | failed exchanged =>
      exact exchanged.verifiedBundle?_eq_none (fun _ _ _ told => told.lacks (by decide))
        (ofBundle_ne_insecure _)
  | answered exchanged =>
      rw [Transcript.verifiedBundle?_append,
        exchanged.verifiedBundle?_eq_none (fun _ _ _ told => told.lacks (by decide))
          (ofBundle_ne_insecure _)]
      rfl

/-!
## Fetches
-/

/-- A fetch that got past its bootstrap: the bundle that was verified is the one that is trusted, and
the token that was resolved is the one that is sent. -/
theorem Establishing.evidence_append {fetching : Transcript} {established : Established}
    (establishing : Establishing fetcher server token scope events (.ok established))
    (unasked : Transcript.Lacks .lookup fetching)
    (unverified : ∀ used, Transcript.verifiedBundle? used fetching = none) :
    Transcript.usedToken token scope (events ++ fetching) = established.resolved.token ∧
      established.trusted.bundle = Transcript.verifiedBundle?
        (Transcript.usedToken token scope (events ++ fetching)) (events ++ fetching) := by
  rw [Transcript.usedToken_append_left unasked, Transcript.verifiedBundle?_append, unverified,
    Option.or_none]
  exact ⟨establishing.token_eq rfl, establishing.bundle_eq rfl⟩

/-- The bundle that a fetch returns is the one that its transcript verifies. -/
theorem Course.bundle_eq {outcome : Except Thrown Fetched} {fetched : Fetched}
    (course : Course fetcher server token path scope events outcome) (succeeded : outcome = .ok fetched) :
    fetched.bundle =
      Transcript.verifiedBundle? (Transcript.usedToken token scope events) events := by
  cases course with
  | rejected => cases succeeded
  | unestablished => cases succeeded
  | hardware accepted establishing backed fetching =>
      rw [fetching.bundle_eq succeeded]
      exact (establishing.evidence_append (fetching.lacks (by decide) (by decide)) fun used =>
        Transcript.verifiedBundle?_eq_none (fetching.lacks (by decide) (by decide))).2
  | plain accepted establishing backed fetching =>
      rw [fetching.bundle_eq succeeded]
      exact (establishing.evidence_append (fetching.lacks (by decide) (by decide)) fun used =>
        fetching.verifiedBundle?_eq_none).2

private theorem sent_established {resource : String} {fetching : Transcript} {established : Established}
    (establishing : Establishing fetcher server token scope events (.ok established))
    (undrawn : Transcript.Lacks .nonce fetching) (unasked : Transcript.Lacks .lookup fetching)
    (unverified : ∀ used, Transcript.verifiedBundle? used fetching = none)
    (asked : (Transcript.sent fetching).Sublist [(.ofBundle established.trusted.bundle,
      resourceRequest resource established.resolved.token scope)]) :
    ∃ url rest, Server.caUrl server scope = .ok url ∧
      Transcript.sent (events ++ fetching) = (.system, { url }) :: rest ∧
      rest.Sublist
        [(.insecure, Bootstrapper.downloadRequest url
            (Transcript.nonceFrom fetcher.bootstrapper.nonces (events ++ fetching))
            (Transcript.usedToken token scope (events ++ fetching))),
          (.ofBundle (Transcript.verifiedBundle?
              (Transcript.usedToken token scope (events ++ fetching)) (events ++ fetching)),
            resourceRequest resource (Transcript.usedToken token scope (events ++ fetching)) scope)] := by
  obtain ⟨used, verified⟩ := establishing.evidence_append unasked unverified
  rw [← verified, used, Transcript.nonceFrom_append_left undrawn, Transcript.sent_append]
  rcases establishing.sent_eq with ⟨_, thrown, same⟩ | ⟨url, accepted, probed | downloaded⟩
  · cases same
  · refine ⟨url, _, accepted, ?_, asked.cons _⟩
    rw [probed]
    rfl
  · rw [establishing.token_eq rfl] at downloaded
    refine ⟨url, _, accepted, ?_, asked.cons_cons _⟩
    rw [downloaded]
    rfl

/-- A fetch sends nothing, or a probe that is followed by at most one download and then at most one
request for the resource. -/
theorem Course.sent_eq {outcome : Except Thrown Fetched}
    (course : Course fetcher server token path scope events outcome) :
    Transcript.sent events = [] ∨
      ∃ url resource rest, Server.caUrl server scope = .ok url ∧
        Server.resourceUrl server path = .ok resource ∧
        Transcript.sent events = (.system, { url }) :: rest ∧
        rest.Sublist
          [(.insecure, Bootstrapper.downloadRequest url
              (Transcript.nonceFrom fetcher.bootstrapper.nonces events)
              (Transcript.usedToken token scope events)),
            (.ofBundle (Transcript.verifiedBundle? (Transcript.usedToken token scope events) events),
              resourceRequest resource (Transcript.usedToken token scope events) scope)] := by
  cases course with
  | rejected => exact .inl rfl
  | @unestablished resource _ thrown offered establishing =>
      rcases establishing.sent_eq with ⟨silent, _⟩ | ⟨url, accepted, probed | downloaded⟩
      · exact .inl silent
      · exact .inr ⟨url, resource, [], accepted, offered, probed, List.nil_sublist _⟩
      · refine .inr ⟨url, resource, _, accepted, offered, downloaded, ?_⟩
        exact (List.nil_sublist _).cons_cons _
  | @hardware resource establishing fetching established outcome offered first backed fetched =>
      have unsent := Transcript.sent_eq_nil (fetched.lacks (by decide) (by decide))
      obtain ⟨url, rest, accepted, sent, ordered⟩ := sent_established first
        (fetched.lacks (by decide) (by decide)) (fetched.lacks (by decide) (by decide))
        (fun used => Transcript.verifiedBundle?_eq_none (fetched.lacks (by decide) (by decide)))
        (by rw [unsent]; exact List.nil_sublist _)
      exact .inr ⟨url, resource, rest, accepted, offered, sent, ordered⟩
  | @plain resource establishing fetching established outcome offered first backed fetched =>
      have asked : (Transcript.sent fetching).Sublist [(.ofBundle established.trusted.bundle,
          resourceRequest resource established.resolved.token scope)] := by
        rcases fetched.sent_eq with silent | sent
        · rw [silent]
          exact List.nil_sublist _
        · simp [sent]
      obtain ⟨url, rest, accepted, sent, ordered⟩ := sent_established first
        (fetched.lacks (by decide) (by decide)) (fetched.lacks (by decide) (by decide))
        (fun used => fetched.verifiedBundle?_eq_none) asked
      exact .inr ⟨url, resource, rest, accepted, offered, sent, ordered⟩

end Fetcher

end JoinTrust
