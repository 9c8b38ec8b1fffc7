import JoinTrust.Proofs.RunEvidence

set_option autoImplicit false

/-!
Which credential goes where. The token itself leaves in a request for a resource alone, over a client
that verifies the server; a server that is not verified gets to see its digest. The statement ranges
over every handler, so that no fault changes it.
-/

namespace JoinTrust

/-- The probe: the roots of the host decide, and nothing is shown. -/
def probeRequest (url : String) : Trust × Request :=
  (.system, { url, headers := [] })

/-- The request for the bundle: nobody is verified, and the token shows as its digest. -/
def bundleRequest (url nonce token : String) : Trust × Request :=
  (.insecure, {
    url
    headers := [("X-Cattle-Nonce", nonce),
      ("Authorization", "Bearer " ++ Text.Base64.encode (Digest.Sha256.hash (Text.Utf8.encode token)))]
  })

/-- The request for a resource: the verified bundle decides, or the roots of the host when there is
none. A machine token is shown as it is, and a cluster token is not shown. -/
def resourceRequest (url token : String) (scope : Scope) (bundle : Option Bytes) : Trust × Request :=
  (match bundle with
    | some bundle => .pinned bundle
    | none => .system, {
    url
    headers := match scope with
      | .cluster => []
      | .machine => [("Authorization", "Bearer " ++ Text.Base64.encode (Text.Utf8.encode token))]
  })

/-- The order of requests: none, or a probe that is followed by at most one request for the bundle, to
the same address, and then by at most one of each of these. -/
def SentInOrder (server nonce token : String) (scope : Scope) (resources : List (Trust × Request))
    (sent : List (Trust × Request)) : Prop :=
  sent = [] ∨ ∃ url rest, Server.caUrl server scope = .ok url ∧ sent = probeRequest url :: rest ∧
    rest.Sublist (bundleRequest url nonce token :: resources)

def resourceRequests (server path token : String) (scope : Scope) (bundle : Option Bytes) :
    List (Trust × Request) :=
  match Server.resourceUrl server path with
  | .ok url => [resourceRequest url token scope bundle]
  | .error _ => []

variable {events : Transcript} {server token path : String} {scope : Scope}

theorem Bootstrapper.Course.sentInOrder {bootstrapper : Bootstrapper} {outcome : Except Thrown CaCerts}
    (course : Course bootstrapper server token scope events outcome) :
    SentInOrder server (Transcript.nonceFrom bootstrapper.nonces events) token scope []
      (Transcript.sent events) := by
  rcases course.sent_eq with ⟨silent, _⟩ | ⟨url, accepted, probed | downloaded⟩
  · exact .inl silent
  · exact .inr ⟨url, [], accepted, probed, List.nil_sublist _⟩
  · exact .inr ⟨url, _, accepted, downloaded, List.Sublist.refl _⟩

theorem Fetcher.Establishing.sentInOrder {fetcher : Fetcher} {outcome : Except Thrown Established}
    (establishing : Establishing fetcher server token scope events outcome) :
    SentInOrder server (Transcript.nonceFrom fetcher.bootstrapper.nonces events)
      (Transcript.usedToken token scope events) scope [] (Transcript.sent events) := by
  rcases establishing.sent_eq with ⟨silent, _⟩ | ⟨url, accepted, probed | downloaded⟩
  · exact .inl silent
  · exact .inr ⟨url, [], accepted, probed, List.nil_sublist _⟩
  · exact .inr ⟨url, _, accepted, downloaded, List.Sublist.refl _⟩

private theorem resource_eq (url token : String) (scope : Scope) (bundle : Option Bytes) :
    (Trust.ofBundle bundle, Fetcher.resourceRequest url token scope) =
      resourceRequest url token scope bundle := by
  cases bundle <;> cases scope <;> rfl

theorem Fetcher.Course.sentInOrder {fetcher : Fetcher} {outcome : Except Thrown Fetched}
    (course : Course fetcher server token path scope events outcome) :
    SentInOrder server (Transcript.nonceFrom fetcher.bootstrapper.nonces events)
      (Transcript.usedToken token scope events) scope
      (resourceRequests server path (Transcript.usedToken token scope events) scope
        (Transcript.verifiedBundle? (Transcript.usedToken token scope events) events))
      (Transcript.sent events) := by
  rcases course.sent_eq with silent | ⟨url, resource, rest, accepted, offered, sent, ordered⟩
  · exact .inl silent
  · rw [resource_eq] at ordered
    rw [resourceRequests, offered]
    exact .inr ⟨url, rest, accepted, sent, ordered⟩

theorem Run.Gathering.sentInOrder {fetcher : Fetcher} {settings : Settings}
    {outcome : Except Thrown Gathered} (gathering : Gathering fetcher settings events outcome) :
    SentInOrder settings.server (Transcript.nonceFrom fetcher.bootstrapper.nonces events)
      (Transcript.usedToken settings.token settings.scope events) settings.scope
      (if settings.path.isEmpty then []
        else resourceRequests settings.server settings.path
          (Transcript.usedToken settings.token settings.scope events) settings.scope
          (Transcript.verifiedBundle? (Transcript.usedToken settings.token settings.scope events) events))
      (Transcript.sent events) := by
  cases gathering with
  | bundle empty establishing =>
      rw [if_pos empty]
      exact establishing.sentInOrder
  | resource nonempty course =>
      rw [nonempty, if_neg Bool.false_ne_true]
      exact course.sentInOrder

private theorem lacks_of_lines {transcript : Transcript}
    (lines : ∀ event ∈ transcript, event.op.topic ∈ [Topic.line, .file]) :
    ∀ topic ∈ [Topic.nonce, .lookup, .client], Transcript.Lacks topic transcript := by
  have apart : ∀ topic ∈ [Topic.nonce, .lookup, .client], topic ∉ [Topic.line, .file] := by decide
  intro topic member event among same
  have delivered := lines event among
  rw [same] at delivered
  exact apart topic member delivered

theorem Run.sentInOrder_of_runs {fetcher : Fetcher} {settings : Settings}
    {outcome : Except Thrown ExitCode}
    (runs : (Run.finish (Run.start fetcher (.ok settings))).Runs events outcome) :
    SentInOrder settings.server (Transcript.nonceFrom fetcher.bootstrapper.nonces events)
      (Transcript.usedToken settings.token settings.scope events) settings.scope
      (if settings.path.isEmpty then []
        else resourceRequests settings.server settings.path
          (Transcript.usedToken settings.token settings.scope events) settings.scope
          (Transcript.verifiedBundle? (Transcript.usedToken settings.token settings.scope events) events))
      (Transcript.sent events) := by
  rcases Run.gathering_between runs with lines | ⟨masked, gathering, rest, _, rfl, gathered, masks, lines⟩
  · exact .inl (Transcript.sent_eq_nil (lacks_of_lines lines .client (by decide)))
  · have before := lacks_of_lines masks
    have after := lacks_of_lines lines
    simp only [Transcript.sent_append, Transcript.verifiedBundle?_append,
      Transcript.sent_eq_nil (before .client (by decide)),
      Transcript.sent_eq_nil (after .client (by decide)),
      Transcript.verifiedBundle?_eq_none (before .client (by decide)),
      Transcript.verifiedBundle?_eq_none (after .client (by decide)),
      Transcript.nonceFrom_append_right (before .nonce (by decide)),
      Transcript.nonceFrom_append_left (after .nonce (by decide)),
      Transcript.usedToken_append_right (before .lookup (by decide)),
      Transcript.usedToken_append_left (after .lookup (by decide)),
      List.nil_append, List.append_nil, Option.none_or, Option.or_none]
    exact gathered.sentInOrder

/-- Whatever answers and whatever throws, requests leave in one order, each at most once, and each
under its own trust with its own credential. Nothing but a machine token's resource request shows the
token, and that request is never sent to a server that nobody verified. -/
theorem requests_in_order {σ : Type} (handler : Handler Command Command.Answer σ) (state : σ)
    (bootstrapper : Bootstrapper) (fetcher : Fetcher) (server token path : String) (scope : Scope)
    (loaded : Except Failure Settings) :
    (let call := (bootstrapper.caCerts server token scope).run handler state
     SentInOrder server (Transcript.nonceFrom bootstrapper.nonces call.events) token scope []
      (Transcript.sent call.events)) ∧
    (let call := (fetcher.caCerts server token scope).run handler state
     let used := Transcript.usedToken token scope call.events
     SentInOrder server (Transcript.nonceFrom fetcher.bootstrapper.nonces call.events) used scope []
      (Transcript.sent call.events)) ∧
    (let call := (fetcher.get server token path scope).run handler state
     let used := Transcript.usedToken token scope call.events
     SentInOrder server (Transcript.nonceFrom fetcher.bootstrapper.nonces call.events) used scope
      (resourceRequests server path used scope (Transcript.verifiedBundle? used call.events))
      (Transcript.sent call.events)) ∧
    (let call := (Run.finish (Run.start fetcher loaded)).run handler state
     match loaded with
     | .error _ => Transcript.sent call.events = []
     | .ok settings =>
       let used := Transcript.usedToken settings.token settings.scope call.events
       SentInOrder settings.server (Transcript.nonceFrom fetcher.bootstrapper.nonces call.events) used
        settings.scope
        (if settings.path.isEmpty then []
          else resourceRequests settings.server settings.path used settings.scope
            (Transcript.verifiedBundle? used call.events))
        (Transcript.sent call.events)) := by
  refine ⟨?bootstrap, ?establish, ?fetch, ?run⟩
  case bootstrap => exact (Bootstrapper.course_of_runs (Program.runs_run handler state _)).sentInOrder
  case establish =>
    obtain ⟨established, establishing, _⟩ := Fetcher.establishing_of_runs_caCerts
      (Program.runs_run handler state (fetcher.caCerts server token scope))
    exact establishing.sentInOrder
  case fetch => exact (Fetcher.course_of_runs (Program.runs_run handler state _)).sentInOrder
  case run =>
    cases loaded with
    | ok settings => exact Run.sentInOrder_of_runs (Program.runs_run handler state _)
    | error failure =>
        have lines := Run.lines_of_runs (Program.runs_run handler state
          (Run.finish (Run.start fetcher (.error failure))))
        apply Transcript.sent_eq_nil
        intro event member same
        rw [lines event member] at same
        cases same

end JoinTrust
