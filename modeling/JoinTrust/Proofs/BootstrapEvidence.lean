import JoinTrust.Proofs.BootstrapCourse

set_option autoImplicit false

/-!
What the transcript of a bootstrap shows. Its requests are a probe and at most one download under the
nonce of that call, and a bundle that it returns is the one that its transcript verifies. No premise
restricts the answers: clients, generators and the audit trail may throw anywhere.
-/

namespace JoinTrust

open Program (closedWith)

namespace Bootstrapper

variable {bootstrapper : Bootstrapper} {server token : String} {scope : Scope} {events : Transcript}
  {outcome : Except Thrown CaCerts}

/-!
## Nonces
-/

private theorem drawn_of_runs_drawLetters {count : Nat} {letters : List Char}
    (runs : (Nonce.drawLetters count).Runs events (.ok letters)) :
    letters = (Transcript.drawn events).map Nonce.letter := by
  induction count generalizing events letters with
  | zero =>
      obtain ⟨rfl, same⟩ := Program.runs_done_iff.mp runs
      cases same
      rfl
  | succ count ih =>
      rcases Program.runs_bind_iff.mp runs with ⟨draw, _, _, drew, more, rfl⟩ | ⟨_, _, same⟩
      · obtain rfl := Procedure.runs_perform_iff.mp drew
        rcases Program.runs_bind_iff.mp more with ⟨rest, _, _, drewRest, ended, rfl⟩ | ⟨_, _, same⟩
        · obtain ⟨rfl, same⟩ := Program.runs_done_iff.mp ended
          cases same
          simp [Transcript.drawn, ih drewRest]
        · cases same
      · cases same

/-- The nonce that a source yields is the nonce that its transcript shows. -/
theorem nonceFrom_of_runs_next {source : Nonce.Source} {nonce : String}
    (runs : source.next.Runs events (.ok nonce)) : Transcript.nonceFrom source events = nonce := by
  cases source with
  | generated =>
      rcases Program.runs_bind_iff.mp runs with ⟨letters, _, _, drew, ended, rfl⟩ | ⟨_, _, same⟩
      · obtain ⟨rfl, same⟩ := Program.runs_done_iff.mp ended
        cases same
        rw [List.append_nil, Transcript.nonceFrom, drawn_of_runs_drawLetters drew]
      · cases same
  | supplied =>
      obtain rfl := Procedure.runs_perform_iff.mp runs
      rfl

/-!
## Requests
-/

private theorem probing_lacks {url : String} {result : Except Thrown Bool} {topic : Topic}
    {options : ClientOptions} {request : Request}
    (probed : Procedure.Exchanged options request (Probed url scope) events result)
    (notClient : topic ≠ .client) (notAudit : topic ≠ .audit) : Transcript.Lacks topic events :=
  probed.lacks (fun _ _ _ heard => probed_lacks heard notAudit) notClient

private theorem download_lacks {url : String} {result : Except Thrown Reply} {topic : Topic}
    {options : ClientOptions} {request : Request}
    (downloaded : Procedure.Exchanged options request (Downloaded url scope) events result)
    (notClient : topic ≠ .client) (notAudit : topic ≠ .audit) : Transcript.Lacks topic events :=
  downloaded.lacks (fun _ _ _ heard => heard.lacks notAudit) notClient

theorem drawing_lacks {source : Nonce.Source} {drawn : Except Thrown String} {topic : Topic}
    (drew : source.next.Runs events drawn) (other : topic ≠ .nonce) : Transcript.Lacks topic events :=
  Transcript.lacks_of_keepsTo drew (next_keepsTo source) (by simpa using other)

private theorem audit_lacks {entry : Audit.Entry} {answer : Except Thrown Unit} {topic : Topic}
    (other : topic ≠ .audit) : Transcript.Lacks topic [⟨.audit entry, answer⟩] :=
  Transcript.lacks_singleton other

private theorem nonceFrom_drawing {source : Nonce.Source} {nonce : String} {drawing rest : Transcript}
    (drew : source.next.Runs drawing (.ok nonce)) (after : Transcript.Lacks .nonce rest) :
    Transcript.nonceFrom source (drawing ++ rest) = nonce := by
  rw [Transcript.nonceFrom_append_left after, nonceFrom_of_runs_next drew]

/-- A bootstrap sends nothing, or a probe, or a probe and then a download under the nonce that its
transcript shows. It cannot succeed without the probe. -/
theorem Course.sent_eq (course : Course bootstrapper server token scope events outcome) :
    (Transcript.sent events = [] ∧ ∃ thrown, outcome = .error thrown) ∨
      ∃ url, Server.caUrl server scope = .ok url ∧
        (Transcript.sent events = [(.system, { url })] ∨
          Transcript.sent events = [(.system, { url }),
            (.insecure, downloadRequest url (Transcript.nonceFrom bootstrapper.nonces events) token)]) := by
  cases course with
  | nonceFailed drew => exact .inl ⟨Transcript.sent_eq_nil (drawing_lacks drew (by decide)), _, rfl⟩
  | serverRejected drew _ =>
      exact .inl ⟨Transcript.sent_eq_nil (drawing_lacks drew (by decide)), _, rfl⟩
  | @probeFailed drawing probing _ url _ drew accepted probed =>
      have undrawn := Transcript.sent_eq_nil (drawing_lacks drew (by decide))
      rcases probed.sent_eq fun _ _ _ heard => probed_lacks heard (by decide) with ⟨silent, _⟩ | sent
      · exact .inl ⟨by rw [Transcript.sent_append, undrawn, silent]; rfl, _, rfl⟩
      · exact .inr ⟨url, accepted, .inl (by rw [Transcript.sent_append, undrawn, sent]; rfl)⟩
  | @trusted drawing probing _ url drew accepted probed =>
      have undrawn := Transcript.sent_eq_nil (drawing_lacks drew (by decide))
      have sent := probed.sent_eq_of_ok fun _ _ _ heard => probed_lacks heard (by decide)
      exact .inr ⟨url, accepted, .inl (by rw [Transcript.sent_append, undrawn, sent]; rfl)⟩
  | @downloadFailed drawing probing download nonce url _ drew accepted probed downloaded =>
      have undrawn := Transcript.sent_eq_nil (drawing_lacks drew (by decide))
      have probe := probed.sent_eq_of_ok fun _ _ _ heard => probed_lacks heard (by decide)
      have nonce := nonceFrom_drawing drew (Transcript.lacks_append_iff.mpr
        ⟨probing_lacks probed (by decide) (by decide), download_lacks downloaded (by decide) (by decide)⟩)
      refine .inr ⟨url, accepted, ?_⟩
      rw [nonce]
      simp only [Transcript.sent_append, undrawn, probe, List.nil_append]
      rcases downloaded.sent_eq fun _ _ _ heard => heard.lacks (by decide) with
        ⟨silent, _⟩ | sent
      · exact .inl (by rw [silent]; rfl)
      · exact .inr (by rw [sent]; rfl)
  | @judged drawing probing download nonce url reply answer drew accepted probed downloaded =>
      have undrawn := Transcript.sent_eq_nil (drawing_lacks drew (by decide))
      have probe := probed.sent_eq_of_ok fun _ _ _ heard => probed_lacks heard (by decide)
      have sent := downloaded.sent_eq_of_ok fun _ _ _ heard => heard.lacks (by decide)
      refine .inr ⟨url, accepted, .inr ?_⟩
      rw [nonceFrom_drawing drew]
      · simp only [Transcript.sent_append, undrawn, probe, sent]
        rfl
      · refine Transcript.lacks_append_iff.mpr ⟨probing_lacks probed (by decide) (by decide), ?_⟩
        exact Transcript.lacks_append_iff.mpr
          ⟨download_lacks downloaded (by decide) (by decide), audit_lacks (by decide)⟩

/-!
## Bundles
-/

/-- A download verifies the body of its reply, unless that is empty, if the reply is judged to be
trusted. -/
private theorem verifiedBundle?_download {url nonce : String} {timeout : Nat} {reply : Reply}
    {trusted : CaCerts} (judged : reply.judge token nonce = .ok trusted)
    (downloaded : Procedure.Exchanged ⟨.insecure, timeout⟩ (downloadRequest url nonce token)
      (Downloaded url scope) events (.ok reply)) :
    Transcript.verifiedBundle? token events = trusted.bundle := by
  obtain ⟨status, hash, rfl⟩ := Reply.judge_eq_ok_iff.mp judged
  obtain ⟨serial, rfl⟩ := downloaded.eq_of_ok rfl
  have carried : (downloadRequest url nonce token).headers.get? "X-Cattle-Nonce" = some nonce := rfl
  have heard : Transcript.verifiedBody? token
      ⟨.get ⟨⟨.insecure, timeout⟩, serial⟩ (downloadRequest url nonce token), .ok reply⟩ =
        (CaCerts.ofBody reply.body).bundle := by
    simp only [Transcript.verifiedBody?, carried, status, hash, true_and, and_true]
    cases body : reply.body with
    | nil => rfl
    | cons octet rest => rfl
  change (Transcript.verifiedBundle? token [_, _, _]) = _
  rw [Transcript.verifiedBundle?_cons, Transcript.verifiedBundle?_cons, heard]
  exact Option.or_none

/-- The bundle that a bootstrap returns is the one that its transcript verifies; where it returns none,
the transcript verifies none. -/
theorem Course.bundle_eq {trusted : CaCerts}
    (course : Course bootstrapper server token scope events outcome) (succeeded : outcome = .ok trusted) :
    trusted.bundle = Transcript.verifiedBundle? token events := by
  cases course with
  | nonceFailed => cases succeeded
  | serverRejected => cases succeeded
  | probeFailed => cases succeeded
  | downloadFailed => cases succeeded
  | trusted drew _ probed =>
      cases succeeded
      rw [Transcript.verifiedBundle?_append,
        Transcript.verifiedBundle?_eq_none (drawing_lacks drew (by decide)),
        probed.verifiedBundle?_eq_none (fun _ _ _ heard => probed_lacks heard (by decide)) (by simp)]
      rfl
  | @judged drawing probing download nonce url reply answer drew _ probed downloaded =>
      obtain ⟨rfl, judged⟩ := Program.closedWith_eq_ok_iff.mp succeeded
      cases judgement : reply.judge token nonce with
      | error failure =>
          rw [judgement] at judged
          cases judged
      | ok judgedTrusted =>
          rw [judgement] at judged
          cases judged
          rw [Transcript.verifiedBundle?_append,
            Transcript.verifiedBundle?_eq_none (drawing_lacks drew (by decide)),
            Transcript.verifiedBundle?_append,
            probed.verifiedBundle?_eq_none (fun _ _ _ heard => probed_lacks heard (by decide)) (by simp),
            Transcript.verifiedBundle?_append, verifiedBundle?_download judgement downloaded]
          simp [Transcript.verifiedBundle?, Transcript.verifiedBody?]

end Bootstrapper

end JoinTrust
