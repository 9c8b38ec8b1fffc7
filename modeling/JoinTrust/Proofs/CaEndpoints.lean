import JoinTrust.Exchange
import JoinTrust.Proofs.GenuineServer
import JoinTrust.Proofs.ResourceUrls
import JoinTrust.Proofs.TypedFailures
import JoinTrust.Proofs.Verdict

set_option autoImplicit false

/-!
The endpoints for the bundle. They are on the host of the server, over https and with nothing else of its address. The
host was read under the scheme of the server, though, and is read again under https: a host with a scheme that is not
special may come out as another one, or as none at all.
-/

namespace JoinTrust

/-!
## Hosts over https
-/

/-- A host that keeps its text under https. -/
def Host.FitsHttps (host : Host) : Prop :=
  (Host.special? host.text).map Host.text = some host.text

namespace Url

variable {url : Url} {host : Host} {scheme : List Char} {segments : List (List Char)}

/-- Under a special scheme, and in brackets, a host is what it is over https. -/
theorem WrittenHost.fitsHttps (written : WrittenHost scheme host)
    (steady : isSpecialScheme scheme = true ∨ ∃ pieces, host = .ipv6 pieces) : host.FitsHttps := by
  have read := written.read
  rw [Host.FitsHttps]
  rcases steady with special | ⟨pieces, rfl⟩
  · rw [readHost?, if_pos special] at read
    rw [read, Option.map_some]
  · have same : readHost? scheme (Host.ipv6 pieces).text = Host.special? (Host.ipv6 pieces).text := by
      unfold readHost?
      split
      · rfl
      · rfl
    rw [← same, read, Option.map_some]

theorem readPort?_https {port : Option Nat} (written : WrittenPort scheme port) :
    readPort? "https".toList (portDigits port) = some (if port = some 443 then none else port) := by
  have usual : defaultPort? "https".toList = some 443 := by decide
  rw [readPort?_portDigits_eq fun number given => (written number given).1, usual]
  cases port with
  | none => rfl
  | some number =>
      by_cases same : number = 443
      · simp [Option.filter, same]
      · simp [Option.filter, same, Ne.symm same]

end Url

/-!
## Addresses of endpoints
-/

namespace Server

variable {url : Url} {host : Host} {segments : List (List Char)}

/-- The URL of an endpoint on a host. The port of https goes without saying. -/
def endpointUrl (scope : Scope) (port : Option Nat) (host : Host) : Url where
  scheme := "https".toList
  host := some host
  port := if port = some 443 then none else port
  path := .segments (Url.readSegments "https".toList scope.endpoint.toList)

/-- An endpoint that has the host and the port of a server, and nothing else of it. -/
structure HostAlone (server : Url) (scope : Scope) (endpoint : Url) : Prop where
  scheme : endpoint.scheme = "https".toList
  username : endpoint.username = []
  password : endpoint.password = []
  host : endpoint.host.map Host.text = server.host.map Host.text
  port : endpoint.port = if server.port = some 443 then none else server.port
  path : endpoint.pathText = scope.endpoint
  query : endpoint.query = none
  fragment : endpoint.fragment = none

theorem endpoint_chars (scope : Scope) :
    (Url.Path.segments (Url.readSegments "https".toList scope.endpoint.toList)).chars = scope.endpoint.toList := by
  cases scope <;> decide +kernel

theorem hostAlone_endpointUrl_iff {read : Host} (held : url.host = some host) (scope : Scope) :
    HostAlone url scope (endpointUrl scope url.port read) ↔ read.text = host.text := by
  constructor
  · intro alone
    simpa [endpointUrl, held] using alone.host
  · intro same
    refine ⟨rfl, rfl, rfl, ?_, rfl, ?_, rfl, rfl⟩
    · simp [endpointUrl, held, same]
    · rw [endpointUrl, Url.pathText, endpoint_chars, String.ofList_toList]

/-- The authority of an endpoint is the host and the port of the server, read under https. -/
theorem readAuthority?_endpoint (written : Url.WrittenAuthority url host) (scope : Scope) :
    (Url.readAuthority? "https".toList url.hostChars).map (fun found =>
        { found with path := .segments (Url.readSegments "https".toList scope.endpoint.toList) }) =
      (Host.special? host.text).map (endpointUrl scope url.port) := by
  have unsigned : '@' ∉ url.hostChars := written.notMem_hostChars (by decide)
  have special : Url.isSpecialScheme "https".toList = true := by decide
  rw [Url.readAuthority?_eq, Url.cutAtLast_of_notMem unsigned]
  simp only [Option.isSome_none, Bool.false_eq_true, false_and, if_false]
  rw [Url.hostChars_eq written.held, written.hosted.readHostPort?_eq, Url.readHost?, if_pos special,
    Url.readPort?_https written.port]
  cases Host.special? host.text with
  | none => rfl
  | some read => rfl

theorem readBody?_endpoint (written : Url.WrittenAuthority url host) (scope : Scope) :
    Url.readBody? "https".toList ('/' :: '/' :: (url.hostChars ++ scope.endpoint.toList)) =
      (Host.special? host.text).map (endpointUrl scope url.port) := by
  have notFile : "https".toList ≠ "file".toList := by decide
  have special : Url.isSpecialScheme "https".toList = true := by decide
  have clear : ∀ character ∈ url.hostChars, (!Url.isSlash character) = true :=
    fun _ member => written.not_isSlash (List.mem_append_right _ member)
  have hierarchy := Url.dropWhile_isSlash clear written.hostChars_ne_nil scope.endpoint.toList
  have cut := Url.cut_path clear (by decide) (Url.readSegments "https".toList scope.endpoint.toList)
  rw [endpoint_chars] at cut
  rw [Url.readBody?.eq_def, if_neg notFile, if_pos special]
  simp only [hierarchy, cut.1, cut.2]
  exact readAuthority?_endpoint written scope

/-- What the address of an endpoint spells: the endpoint on the host that the text of the host is under https, if it
is one. -/
theorem parse?_endpoint (written : Url.WrittenAuthority url host) (scope : Scope) :
    Url.parse? ("https://" ++ url.hostText ++ scope.endpoint) =
      (Host.special? host.text).map (endpointUrl scope url.port) := by
  have led : Url.WrittenScheme "https".toList :=
    ⟨⟨'h', "ttps".toList, rfl, by decide⟩, Text.forall_mem_of_all (by decide)⟩
  have text : ("https://" ++ url.hostText ++ scope.endpoint).toList =
      "https".toList ++ ':' :: ('/' :: '/' :: (url.hostChars ++ scope.endpoint.toList)) := by
    simp [Url.hostText, String.toList_append]
  have plain : ∀ character ∈ scope.endpoint.toList, 0x20 < character.toNat ∧ character ≠ '#' ∧ character ≠ '?' := by
    cases scope <;> exact Text.forall_mem_of_all (by decide +kernel)
  have visible : Url.Visible ("https://" ++ url.hostText ++ scope.endpoint).toList := by
    have opening : ∀ character ∈ "https://".toList, 0x20 < character.toNat :=
      Text.forall_mem_of_all (by decide)
    intro character member
    simp only [String.toList_append, List.mem_append, Url.hostText, String.toList_ofList] at member
    rcases member with (opened | named) | endpoint
    · exact opening character opened
    · exact written.visible_hostChars character named
    · exact (plain character endpoint).1
  have unmarked {mark : Char} (among : mark ∈ ['#', '?']) :
      mark ∉ '/' :: '/' :: (url.hostChars ++ scope.endpoint.toList) := by
    have apart : ∀ mark ∈ ['#', '?'], mark ≠ '/' ∧ mark ∈ ['#', '/', '?', '@', '\\'] :=
      Text.forall_mem_of_all (by decide)
    obtain ⟨notSlash, ends⟩ := apart mark among
    simp only [List.mem_cons, List.mem_append, notSlash, false_or]
    rintro (named | endpoint)
    · exact written.notMem_hostChars ends named
    · obtain ⟨_, notHash, notQuestion⟩ := plain mark endpoint
      simp [notHash, notQuestion] at among
  -- This need not be the text of a written URL, since the host may be none under https: it is read part by part.
  rw [Url.parse?_of_visible visible, text, Url.readChars?, led.readScheme?]
  simp only [Option.bind_eq_bind, Option.bind_some, Url.cutAt_of_notMem (unmarked (by decide : '#' ∈ ['#', '?'])),
    Url.cutAt_of_notMem (unmarked (by decide : '?' ∈ ['#', '?'])), readBody?_endpoint written scope]
  cases Host.special? host.text with
  | none => rfl
  | some read => rfl

/-- The endpoint of a server is well formed exactly if its host fits https. -/
theorem hostAlone_iff_fitsHttps (written : Url.WrittenAuthority url host) (scope : Scope) :
    (∃ endpoint, Url.parse? ("https://" ++ url.hostText ++ scope.endpoint) = some endpoint ∧
      HostAlone url scope endpoint) ↔ host.FitsHttps := by
  rw [parse?_endpoint written, Host.FitsHttps]
  cases Host.special? host.text with
  | none => simp
  | some read => simp [hostAlone_endpointUrl_iff written.held]

end Server

/-!
## Bootstraps
-/

/-- A request to no URL fails for that, whatever the client. -/
def Handler.ChecksUrls {σ : Type} (handler : Handler Command Command.Answer σ) : Prop :=
  ∀ state client request, Exchange.start? client.options request = none →
    (handler.answer state (.get client request)).2 = .error .invalidUrl

/-- A calm exchange whose request fails hears of that and nothing else. -/
theorem Procedure.Exchanged.heard_of_unanswered {α : Type} {options : ClientOptions} {request : Request}
    {heard : Except Thrown Reply → Transcript → Except Thrown α → Prop} {events : Transcript}
    {outcome : Except Thrown α} {thrown : Thrown} (exchanged : Exchanged options request heard events outcome)
    (calm : Transcript.Calm events)
    (unanswered : ∀ client answer, ⟨.get client request, answer⟩ ∈ events → answer = .error thrown) :
    ∃ inner, heard (.error thrown) inner outcome ∧ Transcript.Calm inner := by
  cases exchanged with
  | unmade =>
      obtain ⟨serial, made⟩ := (Transcript.calm_cons_iff.mp calm).1
      cases made
  | @made serial answer inner result closing follows =>
      obtain ⟨_, calm⟩ := Transcript.calm_cons_iff.mp calm
      obtain ⟨_, calm⟩ := Transcript.calm_cons_iff.mp calm
      obtain ⟨calmInner, last⟩ := Transcript.calm_append_iff.mp calm
      obtain ⟨closed, _⟩ := Transcript.calm_cons_iff.mp last
      cases closed
      obtain rfl := unanswered ⟨options, serial⟩ answer (by simp)
      exact ⟨inner, follows, calmInner⟩

theorem Transcript.created_append (first rest : Transcript) :
    created (first ++ rest) = created first ++ created rest :=
  List.filterMap_append ..

theorem Transcript.created_eq_nil {transcript : Transcript} (lacks : Lacks .client transcript) :
    created transcript = [] := by
  apply filterMap_eq_nil_of_lacks lacks
  intro event other
  obtain ⟨op, answer⟩ := event
  cases op with
  | create options => exact absurd rfl other
  | _ => rfl

/-- A calm exchange has one client. -/
theorem Procedure.Exchanged.created_of_calm {α : Type} {options : ClientOptions} {request : Request}
    {heard : Except Thrown Reply → Transcript → Except Thrown α → Prop} {events : Transcript}
    {outcome : Except Thrown α} (exchanged : Exchanged options request heard events outcome)
    (quiet : ∀ answer inner result, heard answer inner result → Transcript.Lacks .client inner)
    (calm : Transcript.Calm events) : (Transcript.created events).length = 1 := by
  cases exchanged with
  | unmade =>
      obtain ⟨serial, made⟩ := (Transcript.calm_cons_iff.mp calm).1
      cases made
  | @made serial answer inner result closing follows =>
      have silent := Transcript.created_eq_nil (quiet _ _ _ follows)
      simp only [Transcript.created] at silent
      simp [Transcript.created, silent]

namespace Bootstrapper

variable {bootstrapper : Bootstrapper} {server token url : String} {scope : Scope} {failure : Failure}
  {events : Transcript} {outcome : Except Thrown CaCerts} {thrown : Thrown}

/-- Without a nonce a bootstrap ends with what its source of nonces failed with, told if it has a message. -/
def FailsForNonce (bootstrapper : Bootstrapper) (events : Transcript) (outcome : Except Thrown CaCerts) : Prop :=
  ∃ cause, bootstrapper.nonces.next.Runs events (.error cause) ∧
    outcome = .error (cause.toldAs .nonceGeneration)

theorem FailsForNonce.lacks_client (failed : bootstrapper.FailsForNonce events outcome) :
    Transcript.Lacks .client events := by
  obtain ⟨cause, drew, _⟩ := failed
  exact drawing_lacks drew (by decide)

/-- A generator that answers leaves no bootstrap without a nonce. -/
theorem not_failsForNonce {σ : Type} {handler : Handler Command Command.Answer σ} {state : σ}
    {procedure : Procedure CaCerts} {timeout : Nat}
    (answers : ∀ before, ∃ nonce, (handler.answer before .nonce).2 = .ok nonce) :
    ¬ FailsForNonce ⟨.supplied, timeout⟩ (procedure.run handler state).events outcome := by
  intro failed
  obtain ⟨cause, drew, _⟩ := failed
  have asked : ⟨.nonce, .error cause⟩ ∈ (procedure.run handler state).events := by
    rw [Procedure.runs_perform_iff.mp drew]
    exact List.mem_singleton_self _
  obtain ⟨before, answered⟩ := Program.answered_of_mem_run asked
  obtain ⟨nonce, supplied⟩ := answers before
  cases answered.trans supplied

/-- An address that is not accepted ends a bootstrap that has a nonce before there is a client. -/
theorem Course.rejected_of_caUrl (course : Course bootstrapper server token scope events outcome)
    (rejected : Server.caUrl server scope = .error failure) :
    bootstrapper.FailsForNonce events outcome ∨
      Transcript.Lacks .client events ∧ RejectedAs .configuration outcome := by
  cases course with
  | nonceFailed drew => exact .inl ⟨_, drew, rfl⟩
  | serverRejected drew found =>
      exact .inr ⟨drawing_lacks drew (by decide), _, rfl, Server.kind_of_caUrl found⟩
  | probeFailed _ accepted => cases accepted.symm.trans rejected
  | trusted _ accepted => cases accepted.symm.trans rejected
  | downloadFailed _ accepted => cases accepted.symm.trans rejected
  | judged _ accepted => cases accepted.symm.trans rejected

/-- A probe that is not answered shows no trust. -/
theorem probed_of_unanswered {options : ClientOptions} {request : Request} {result : Except Thrown Bool}
    (probed : Procedure.Exchanged options request (Probed url scope) events result) (calm : Transcript.Calm events)
    (spoken : thrown.silence? = none)
    (unanswered : ∀ client answer, ⟨.get client request, answer⟩ ∈ events → answer = .error thrown) :
    result = .ok false := by
  obtain ⟨inner, heard, calm⟩ := probed.heard_of_unanswered calm unanswered
  cases heard with
  | untrusted doubted =>
      cases doubted with
      | recorded =>
          obtain ⟨taken, _⟩ := Transcript.calm_cons_iff.mp calm
          cases taken
          rfl
      | untold silent => cases spoken.symm.trans silent

/-- A download that is not answered fails under its class. -/
theorem downloaded_of_unanswered {options : ClientOptions} {request : Request} {result : Except Thrown Reply}
    (downloaded : Procedure.Exchanged options request (Downloaded url scope) events result)
    (calm : Transcript.Calm events) (spoken : thrown.silence? = none)
    (unanswered : ∀ client answer, ⟨.get client request, answer⟩ ∈ events → answer = .error thrown) :
    result = .error (.failure (.download url thrown)) := by
  obtain ⟨inner, heard, calm⟩ := downloaded.heard_of_unanswered calm unanswered
  cases heard with
  | refused =>
      obtain ⟨taken, _⟩ := Transcript.calm_cons_iff.mp calm
      cases taken
      rfl
  | untold silent => cases spoken.symm.trans silent

/-- A calm bootstrap whose requests are not answered gets as far as the download, over its second client,
unless it has no nonce. -/
theorem Course.download_of_unanswered (course : Course bootstrapper server token scope events outcome)
    (calm : Transcript.Calm events) (accepted : Server.caUrl server scope = .ok url)
    (spoken : thrown.silence? = none)
    (unanswered : ∀ client request answer, ⟨.get client request, answer⟩ ∈ events → request.url = url →
      answer = .error thrown) :
    bootstrapper.FailsForNonce events outcome ∨
      outcome = .error (.failure (.download url thrown)) ∧ (Transcript.created events).length = 2 := by
  cases course with
  | nonceFailed drew => exact .inl ⟨_, drew, rfl⟩
  | serverRejected _ rejected => cases accepted.symm.trans rejected
  | probeFailed _ found probed =>
      obtain rfl := Except.ok.inj (found.symm.trans accepted)
      cases probed_of_unanswered probed (Transcript.calm_append_iff.mp calm).2 spoken
        fun client answer member => unanswered client _ answer (by simp [member]) rfl
  | trusted _ found probed =>
      obtain rfl := Except.ok.inj (found.symm.trans accepted)
      cases probed_of_unanswered probed (Transcript.calm_append_iff.mp calm).2 spoken
        fun client answer member => unanswered client _ answer (by simp [member]) rfl
  | downloadFailed drew found probed downloaded =>
      obtain rfl := Except.ok.inj (found.symm.trans accepted)
      obtain ⟨calmProbing, calm⟩ := Transcript.calm_append_iff.mp (Transcript.calm_append_iff.mp calm).2
      have failed := downloaded_of_unanswered downloaded calm spoken
        fun client answer member => unanswered client _ answer (by simp [member]) rfl
      cases failed
      refine .inr ⟨rfl, ?_⟩
      rw [Transcript.created_append, Transcript.created_append,
        Transcript.created_eq_nil (drawing_lacks drew (by decide)), List.nil_append, List.length_append,
        probed.created_of_calm (fun _ _ _ heard => probed_lacks heard (by decide)) calmProbing,
        downloaded.created_of_calm (fun _ _ _ told => told.lacks (by decide)) calm]
  | judged _ found _ downloaded =>
      obtain rfl := Except.ok.inj (found.symm.trans accepted)
      have calm := (Transcript.calm_append_iff.mp
        (Transcript.calm_append_iff.mp (Transcript.calm_append_iff.mp calm).2).2).1
      cases downloaded_of_unanswered downloaded calm spoken
        fun client answer member => unanswered client _ answer (by simp [member]) rfl

end Bootstrapper

/-- The endpoint for the bundle is on the host of the server, as this is read under https: with a special scheme or in
brackets the host is the same, and in general the endpoint is well formed exactly if the host fits. Where it is no host
under https, a bootstrap fails only at its requests. An address that is not accepted ends a bootstrap before there is a
client. -/
theorem endpoints_carry_host_alone {σ : Type} (handler : Handler Command Command.Answer σ) (state : σ)
    (bootstrapper : Bootstrapper) (server token : String) (scope : Scope) :
    let call := (bootstrapper.caCerts server token scope).run handler state
    (∀ url, Server.parse server = .ok url → ∃ host address,
      url.host = some host ∧ Server.caUrl server scope = .ok address ∧
      Url.parse? address = (Host.special? host.text).map (Server.endpointUrl scope url.port) ∧
      ((∃ endpoint, Url.parse? address = some endpoint ∧ Server.HostAlone url scope endpoint) ↔ host.FitsHttps) ∧
      (url.isSpecial = true ∨ (∃ pieces, host = .ipv6 pieces) → host.FitsHttps) ∧
      (Host.special? host.text = none → handler.ChecksUrls →
        (∀ state op, Event.Calm ⟨op, (handler.answer state op).2⟩) →
        bootstrapper.FailsForNonce call.events call.outcome ∨
          call.outcome = .error (.failure (.download address .invalidUrl)))) ∧
    (∀ failure, Server.parse server = .error failure →
      Server.caUrl server scope = .error failure ∧ Transcript.Lacks .client call.events ∧
        (bootstrapper.FailsForNonce call.events call.outcome ∨ RejectedAs .configuration call.outcome)) := by
  intro call
  have course := Bootstrapper.course_of_runs
    (Program.runs_run handler state (bootstrapper.caCerts server token scope))
  constructor
  · intro url accepted
    obtain ⟨host, segments, written⟩ := Server.written_of_parse accepted
    have address := Server.caUrl_of_parse accepted scope
    refine ⟨host, _, written.held, address, Server.parse?_endpoint written.toWrittenAuthority scope,
      Server.hostAlone_iff_fitsHttps written.toWrittenAuthority scope, written.hosted.fitsHttps, ?_⟩
    intro unreadable checks calm
    refine (course.download_of_unanswered (Program.calm_run calm state _) address rfl
      fun client request answer member same => ?_).imp_right And.left
    obtain ⟨before, answered⟩ := Program.answered_of_mem_run member
    refine answered.trans (checks before client request ?_)
    rw [Exchange.start?, same, Server.parse?_endpoint written.toWrittenAuthority, unreadable]
    rfl
  · intro failure rejected
    have refused : Server.caUrl server scope = .error failure := by
      rw [Server.caUrl, rejected]
      rfl
    rcases course.rejected_of_caUrl refused with failed | ⟨clientless, rejected⟩
    · exact ⟨refused, failed.lacks_client, .inl failed⟩
    · exact ⟨refused, clientless, .inr rejected⟩

theorem endpoints_carry_host_alone_plain :
    let url : Url :=
      { scheme := "http".toList, username := "u".toList, password := "p".toList,
        host := some (.domain "rancher.test".toList), port := some 443, path := .segments ["x".toList],
        query := some "y=1".toList, fragment := some "z".toList }
    Server.parse "http://u:p@RANCHER.test:443/x?y=1#z" = .ok url ∧
      (∃ endpoint, Url.parse? "https://rancher.test:443/cacerts" = some endpoint ∧
        Server.HostAlone url .cluster endpoint) ∧
      Server.parse "file:///etc/hosts" = .error (.serverWithoutHost "file:///etc/hosts") ∧
      RejectedAs .configuration ((Bootstrapper.caCerts { nonces := .supplied } "file:///etc/hosts" "token"
        .cluster).run (GenuineServer.handler "token" [1] [2]) ()).outcome := by
  intro url
  have accepted : Server.parse "http://u:p@RANCHER.test:443/x?y=1#z" = .ok url :=
    Server.parse_eq_ok_iff.mpr ⟨by decide +kernel, by decide +kernel⟩
  have local_ : Url.parse? "file:///etc/hosts" = some
      { scheme := "file".toList, host := some .empty, path := .segments ["etc".toList, "hosts".toList] } := by
    decide +kernel
  have rejected : Server.parse "file:///etc/hosts" = .error (.serverWithoutHost "file:///etc/hosts") := by
    rw [Server.parse, local_]
    rfl
  let world := GenuineServer.handler "token" [1] [2]
  obtain ⟨host, address, _, derived, _, fits, steady, _⟩ :=
    (endpoints_carry_host_alone world () {} "http://u:p@RANCHER.test:443/x?y=1#z" "token" .cluster).1 url accepted
  have written : "https://" ++ url.hostText ++ Scope.cluster.endpoint = "https://rancher.test:443/cacerts" := by decide
  rw [Server.caUrl_of_parse accepted, written] at derived
  cases derived
  refine ⟨accepted, fits.mpr (steady (.inl (by decide))), rejected, ?_⟩
  have ended := ((endpoints_carry_host_alone world () { nonces := .supplied } "file:///etc/hosts" "token" .cluster).2
    _ rejected).2.2
  exact ended.resolve_left (Bootstrapper.not_failsForNonce fun _ => ⟨"nonce", rfl⟩)

/-- The requests to no URL. -/
def Command.isUnsendable : Command → Bool
  | .get client request => (Exchange.start? client.options request).isNone
  | _ => false

theorem Command.calm_of_isUnsendable (op : Command) (answer : Except Thrown op.Answer)
    (unsendable : op.isUnsendable = true) : Event.Calm ⟨op, answer⟩ := by
  cases op with
  | get client request => trivial
  | _ => cases unsendable

theorem Handler.checksUrls_failing {σ : Type} (others : Handler Command Command.Answer σ) :
    (others.failing Command.isUnsendable .invalidUrl).ChecksUrls := by
  intro state client request unread
  simp [Handler.failing, Command.isUnsendable, unread]

/-- An address with a host that is none under https is accepted all the same, and the bootstrap goes as far as an
unverified download, which fails for its URL. -/
theorem unreadable_endpoint_fails_in_transit :
    let server := "foo://a%zz"
    let world := (GenuineServer.handler "token" [1] [2]).failing Command.isUnsendable .invalidUrl
    let call := (Bootstrapper.caCerts { nonces := .supplied } server "token" .cluster).run world ()
    (∃ url, Server.parse server = .ok url) ∧ Server.caUrl server .cluster = .ok "https://a%zz/cacerts" ∧
      Url.parse? "https://a%zz/cacerts" = none ∧ world.ChecksUrls ∧
      (Transcript.created call.events).length = 2 ∧
      call.outcome = .error (.failure (.download "https://a%zz/cacerts" .invalidUrl)) ∧
      (Failure.download "https://a%zz/cacerts" .invalidUrl).kind = .transport := by
  intro server world call
  have accepted : Server.parse server = .ok { scheme := "foo".toList, host := some (.plain "a%zz".toList) } :=
    Server.parse_eq_ok_iff.mpr ⟨by decide +kernel, by decide +kernel⟩
  have unreadable : Url.parse? "https://a%zz/cacerts" = none := by decide +kernel
  have derived : Server.caUrl server .cluster = .ok "https://a%zz/cacerts" := by
    rw [Server.caUrl_of_parse accepted]
    rfl
  have checks : world.ChecksUrls := Handler.checksUrls_failing _
  have calm : Transcript.Calm call.events :=
    Program.calm_run (Handler.calm_failing (GenuineServer.calm "token" [1] [2]) Command.calm_of_isUnsendable) () _
  have course := Bootstrapper.course_of_runs (Program.runs_run world ()
    (Bootstrapper.caCerts { nonces := .supplied } server "token" .cluster))
  have unanswered : ∀ client request answer, ⟨.get client request, answer⟩ ∈ call.events →
      request.url = "https://a%zz/cacerts" → answer = .error .invalidUrl := by
    intro client request answer member same
    obtain ⟨before, answered⟩ := Program.answered_of_mem_run member
    refine answered.trans (checks before client request ?_)
    rw [Exchange.start?, same, unreadable]
    rfl
  have ended := course.download_of_unanswered calm derived rfl unanswered
  obtain ⟨failed, twice⟩ := ended.resolve_left (Bootstrapper.not_failsForNonce fun _ => ⟨"nonce", rfl⟩)
  exact ⟨⟨_, accepted⟩, derived, unreadable, checks, twice, failed, rfl⟩

end JoinTrust
