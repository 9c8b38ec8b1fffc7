import JoinTrust.Proofs.BootstrapEvidence
import JoinTrust.Proofs.GenuineServer
import JoinTrust.Proofs.UnitForm
import JoinTrust.Script

set_option autoImplicit false

/-!
What an authenticated message is made of. A nonce without a zero octet and a body are read back from their frame,
although the body may hold zeros and a server chooses it. Every generated nonce is without one, so that no two
calls with different nonces have the same message authenticated. A nonce may come as any sequence of UTF-16 units;
half of a pair that stands alone is framed as U+FFFD, so that only well-formed units are read back.
-/

namespace JoinTrust

/-- The messages whose digest a call compares: for every reply to a request that carries a nonce, the frame of
that nonce and of the body of the reply. -/
def Transcript.messages (transcript : Transcript) : List Bytes :=
  transcript.filterMap fun
    | ⟨.get _ request, .ok reply⟩ =>
      (request.headers.get? "X-Cattle-Nonce").map fun nonce => Integrity.frame nonce reply.body
    | _ => none

/-!
## Frames
-/

namespace Integrity

/-- Two texts that are cut at the first zero octet are cut at the same place. -/
theorem append_zero_inj {first second left right : Bytes} (firstHolds : (0 : UInt8) ∉ first)
    (secondHolds : (0 : UInt8) ∉ second) (same : first ++ 0 :: left = second ++ 0 :: right) :
    first = second ∧ left = right := by
  induction first generalizing second with
  | nil =>
      cases second with
      | nil => exact ⟨rfl, (List.cons.inj same).2⟩
      | cons octet second => exact absurd (List.cons.inj same).1 fun zero => secondHolds (zero ▸ List.mem_cons_self)
  | cons octet first ih =>
      cases second with
      | nil => exact absurd (List.cons.inj same).1 fun zero => firstHolds (zero ▸ List.mem_cons_self)
      | cons other second =>
          simp only [List.cons_append, List.cons.injEq] at same
          simp only [List.mem_cons, not_or] at firstHolds secondHolds
          obtain ⟨rfl, rfl⟩ := ih firstHolds.2 secondHolds.2 same.2
          exact ⟨by rw [same.1], rfl⟩

theorem frameUnits_eq (nonce : List UInt16) (body : Bytes) :
    frameUnits nonce body = frame (String.ofList (Text.Units.read nonce)) body := by
  rw [frame, Text.Utf8.encode, String.toList_ofList, frameUnits, octets]

theorem frameUnits_spell (nonce : String) (body : Bytes) :
    frameUnits (Text.Units.spell nonce.toList) body = frame nonce body := by
  rw [frameUnits_eq, Text.Units.read_spell, String.ofList_toList]

theorem responseHashUnits_spell (token nonce : String) (body : Bytes) :
    responseHashUnits token (Text.Units.spell nonce.toList) body = responseHash token nonce body := by
  rw [responseHashUnits, responseHash, frameUnits_spell]

theorem frame_inj {first second : String} {left right : Bytes} (firstHolds : (0 : UInt8) ∉ Text.Utf8.encode first)
    (secondHolds : (0 : UInt8) ∉ Text.Utf8.encode second) (same : frame first left = frame second right) :
    first = second ∧ left = right := by
  simp only [frame, List.append_assoc, List.singleton_append] at same
  obtain ⟨nonces, rest⟩ := append_zero_inj firstHolds secondHolds same
  exact ⟨Text.Utf8.encode_inj.mp nonces, List.append_cancel_right rest⟩

/-- Frames of nonces without a zero octet are the same exactly if the nonces read alike and the bodies are the
same. -/
theorem frameUnits_eq_iff {first second : List UInt16} (left right : Bytes) (firstHolds : (0 : UInt8) ∉ octets first)
    (secondHolds : (0 : UInt8) ∉ octets second) :
    frameUnits first left = frameUnits second right ↔
      Text.Units.read first = Text.Units.read second ∧ left = right := by
  constructor
  · intro same
    rw [frameUnits_eq, frameUnits_eq] at same
    obtain ⟨nonces, bodies⟩ := frame_inj (by rwa [Text.Utf8.encode, String.toList_ofList])
      (by rwa [Text.Utf8.encode, String.toList_ofList]) same
    exact ⟨String.ofList_injective nonces, bodies⟩
  · intro alike
    rw [frameUnits_eq, frameUnits_eq, alike.1, alike.2]

end Integrity

/-!
## Nonces
-/

namespace Nonce

theorem letter_mem_alphabet (draw : Nat) : letter draw ∈ alphabet := by
  rw [letter, List.getD_eq_getElem?_getD]
  cases drawn : alphabet[draw]? with
  | none => decide
  | some character => exact List.mem_of_getElem? drawn

/-- Whatever is drawn, the word for it is without a zero octet. -/
theorem zero_notMem_encode_letters (draws : List Nat) :
    (0 : UInt8) ∉ Text.Utf8.encode (String.ofList (draws.map letter)) := by
  have letters : (alphabet.all fun character => !(Text.Utf8.encodeChar character).contains 0) = true := by
    decide +kernel
  rw [Text.Utf8.encode, String.toList_ofList]
  intro within
  obtain ⟨character, spelled, octet⟩ := List.mem_flatMap.mp within
  obtain ⟨draw, _, rfl⟩ := List.mem_map.mp spelled
  have spared := List.all_eq_true.mp letters _ (letter_mem_alphabet draw)
  simp [octet] at spared

end Nonce

theorem Transcript.zero_notMem_encode_nonceFrom (events : Transcript) :
    (0 : UInt8) ∉ Text.Utf8.encode (nonceFrom .generated events) :=
  Nonce.zero_notMem_encode_letters _

/-!
## Calls
-/

/-- Every message of a bootstrap is framed with the nonce of that bootstrap. -/
theorem Bootstrapper.Course.framed {bootstrapper : Bootstrapper} {server token : String} {scope : Scope}
    {events : Transcript} {outcome : Except Thrown CaCerts} {message : Bytes}
    (course : Course bootstrapper server token scope events outcome)
    (member : message ∈ Transcript.messages events) :
    ∃ body, message = Integrity.frame (Transcript.nonceFrom bootstrapper.nonces events) body := by
  obtain ⟨⟨op, answer⟩, happened, framed⟩ := List.mem_filterMap.mp member
  cases op with
  | get client request =>
      cases answer with
      | error thrown => cases framed
      | ok reply =>
          obtain ⟨nonce, carried, rfl⟩ := Option.map_eq_some_iff.mp framed
          have asked : (client, request) ∈ Transcript.requests events :=
            List.mem_filterMap.mpr ⟨⟨.get client request, .ok reply⟩, happened, rfl⟩
          have sent : (client.options.trust, request) ∈ Transcript.sent events :=
            List.mem_map.mpr ⟨_, asked, rfl⟩
          -- A request that carries a nonce is the download, because a probe carries nothing.
          have download : ∃ url,
              request = downloadRequest url (Transcript.nonceFrom bootstrapper.nonces events) token := by
            rcases course.sent_eq with ⟨silent, _⟩ | ⟨url, _, probed | downloaded⟩
            · simp [silent] at sent
            · obtain ⟨_, rfl⟩ : _ ∧ request = { url } := by simpa [probed] using sent
              cases carried
            · rw [downloaded] at sent
              rcases List.mem_cons.mp sent with probe | last
              · obtain ⟨_, rfl⟩ := Prod.mk.inj probe
                cases carried
              · exact ⟨url, (Prod.mk.inj (List.mem_singleton.mp last)).2⟩
          obtain ⟨url, rfl⟩ := download
          cases carried
          exact ⟨reply.body, rfl⟩
  | _ => cases framed

/-- The response hash is a keyed digest over a frame. Nonces without a zero octet have the same frame exactly if they
read alike and the bodies are the same, so that the frame of a well-formed nonce determines the nonce and the body.
Generated nonces hold no zero octet: two bootstraps that drew different nonces have no message in common, whatever
bodies servers send. -/
theorem frames_determine_nonce_and_body :
    (∀ (token : String) (nonce : List UInt16) (body : Bytes),
      Integrity.responseHashUnits token nonce body =
        Text.Base64.encode (Digest.Hmac.sha512 (Text.Utf8.encode token) (Integrity.frameUnits nonce body)) ∧
      Integrity.frameUnits nonce body =
        Text.Utf8.encodeChars (Text.Units.read nonce) ++ [0] ++ body ++ [0]) ∧
    (∀ (token nonce : String) (body : Bytes),
      Integrity.responseHashUnits token (Text.Units.spell nonce.toList) body =
        Integrity.responseHash token nonce body ∧
      Integrity.frameUnits (Text.Units.spell nonce.toList) body = Integrity.frame nonce body) ∧
    (∀ (first second : List UInt16) (left right : Bytes),
      (0 : UInt8) ∉ Integrity.octets first → (0 : UInt8) ∉ Integrity.octets second →
        (Integrity.frameUnits first left = Integrity.frameUnits second right ↔
          Text.Units.read first = Text.Units.read second ∧ left = right) ∧
        (Text.Units.WellFormed first → Text.Units.WellFormed second →
          (Integrity.frameUnits first left = Integrity.frameUnits second right ↔ first = second ∧ left = right))) ∧
    (∀ (events : Transcript) (nonce : String), Nonce.generate.Runs events (.ok nonce) →
      (0 : UInt8) ∉ Text.Utf8.encode nonce) ∧
    ∀ {σ τ : Type} (handler : Handler Command Command.Answer σ) (state : σ)
      (other : Handler Command Command.Answer τ) (otherState : τ) (bootstrapper otherBootstrapper : Bootstrapper)
      (server otherServer token otherToken : String) (scope otherScope : Scope),
      bootstrapper.nonces = .generated → otherBootstrapper.nonces = .generated →
      let call := ((bootstrapper.caCerts server token scope).run handler state).events
      let otherCall := ((otherBootstrapper.caCerts otherServer otherToken otherScope).run other otherState).events
      Transcript.nonceFrom .generated call ≠ Transcript.nonceFrom .generated otherCall →
        ∀ message ∈ Transcript.messages call, message ∉ Transcript.messages otherCall := by
  refine ⟨fun token nonce body => ⟨rfl, rfl⟩, fun token nonce body => ⟨?_, ?_⟩, ?_, ?_, ?_⟩
  · exact Integrity.responseHashUnits_spell token nonce body
  · exact Integrity.frameUnits_spell nonce body
  · intro first second left right firstHolds secondHolds
    have alike := Integrity.frameUnits_eq_iff left right firstHolds secondHolds
    refine ⟨alike, fun formed alsoFormed => alike.trans (and_congr_left' ⟨?_, congrArg _⟩)⟩
    exact formed.eq_of_read alsoFormed
  · intro events nonce runs
    have next : Nonce.Source.generated.next.Runs events (.ok nonce) := runs
    rw [← Bootstrapper.nonceFrom_of_runs_next next]
    exact Transcript.zero_notMem_encode_nonceFrom events
  · intro σ τ handler state other otherState bootstrapper otherBootstrapper server otherServer token otherToken
      scope otherScope generated otherGenerated call otherCall differ message member otherMember
    obtain ⟨body, rfl⟩ := (Bootstrapper.course_of_runs (Program.runs_run handler state _)).framed member
    obtain ⟨otherBody, same⟩ :=
      (Bootstrapper.course_of_runs (Program.runs_run other otherState _)).framed otherMember
    rw [generated, otherGenerated] at same
    have equal := Integrity.frame_inj (Transcript.zero_notMem_encode_nonceFrom _)
      (Transcript.zero_notMem_encode_nonceFrom _) same
    exact differ equal.1

/-- A zero in a body does not move the end of the nonce, and two servers that send a body with zeros under two
nonces have two messages. -/
theorem frames_determine_nonce_and_body_zeros :
    let refusal : ScriptedReply := .reply ⟨500, "No", [], [0, 98, 0]⟩ none
    let call (draw : Nat) := ((Bootstrapper.caCerts {} GenuineServer.address "token" .cluster).run
      (Script.handler { draws := [.ok draw], replies := [.throws .undefined, refusal] }) {}).events
    Integrity.frameUnits (Text.Units.spell ['b']) [98, 0, 98] ≠
        Integrity.frameUnits (Text.Units.spell ['b', 'b']) [98] ∧
      (Transcript.messages (call 1)).length = 1 ∧
      Transcript.nonceFrom .generated (call 0) ≠ Transcript.nonceFrom .generated (call 1) ∧
      ∀ message ∈ Transcript.messages (call 0), message ∉ Transcript.messages (call 1) := by
  intro refusal call
  obtain ⟨_, _, frames, _, calls⟩ := frames_determine_nonce_and_body
  have differ : Transcript.nonceFrom .generated (call 0) ≠ Transcript.nonceFrom .generated (call 1) := by
    decide +kernel
  have law := (frames (Text.Units.spell ['b']) (Text.Units.spell ['b', 'b']) [98, 0, 98] [98]
    (by decide) (by decide)).2 (Text.Units.wellFormed_spell _) (Text.Units.wellFormed_spell _)
  refine ⟨fun same => ?_, by decide +kernel, differ, ?_⟩
  · exact absurd (law.mp same).1 (by decide)
  · exact calls _ _ _ _ {} {} GenuineServer.address GenuineServer.address "token" "token" .cluster .cluster rfl rfl
      differ

/-- A nonce that is half of a pair and one that is U+FFFD hold no zero octet, are different, and have the same frame
for every body. -/
theorem lone_half_shares_frame :
    let half : List UInt16 := [0xD800]
    let replaced : List UInt16 := [0xFFFD]
    half ≠ replaced ∧ (0 : UInt8) ∉ Integrity.octets half ∧ (0 : UInt8) ∉ Integrity.octets replaced ∧
      ∀ body, Integrity.frameUnits half body = Integrity.frameUnits replaced body ∧
        ∀ token, Integrity.responseHashUnits token half body = Integrity.responseHashUnits token replaced body := by
  intro half replaced
  have alike (body : Bytes) : Integrity.frameUnits half body = Integrity.frameUnits replaced body := by
    have same : Text.Units.read half = Text.Units.read replaced := by decide
    rw [Integrity.frameUnits_eq, Integrity.frameUnits_eq, same]
  refine ⟨by decide, by decide, by decide, fun body => ⟨alike body, fun token => ?_⟩⟩
  rw [Integrity.responseHashUnits, Integrity.responseHashUnits, alike]

end JoinTrust
