import JoinTrust.Proofs.Conversation
import JoinTrust.Integrity
import JoinTrust.Nonce
import JoinTrust.Transcript

set_option autoImplicit false

/-!
What a transcript is evidence of: the requests that left, the nonce and the token of the call, and
the bundle that it verified. These views read recorded events only. They do not look at the program
that held the conversation, so that a statement about them cannot repeat its decisions.
-/

namespace JoinTrust

/-!
## Topics
-/

inductive Topic where
  | nonce
  | lookup
  | client
  | audit
  | hardware
  | file
  | line
deriving DecidableEq, Repr

def Command.topic : Command → Topic
  | .nonce => .nonce
  | .draw _ => .nonce
  | .create _ => .client
  | .get _ _ => .client
  | .close _ => .client
  | .resolve _ => .lookup
  | .unsealToken _ => .lookup
  | .fetchHardware _ _ => .hardware
  | .audit _ => .audit
  | .write _ _ _ => .file
  | .print _ => .line

/-- A procedure keeps to these topics, whatever it is answered. -/
def Procedure.KeepsTo {α : Type} (topics : List Topic) (procedure : Procedure α) : Prop :=
  procedure.AsksOnly fun command => command.topic ∈ topics

theorem Procedure.KeepsTo.wider {α : Type} {topics wider : List Topic} {procedure : Procedure α}
    (keeps : procedure.KeepsTo topics) (widens : topics ⊆ wider) : procedure.KeepsTo wider :=
  keeps.mono fun _ among => widens among

namespace Program.AsksOnly

variable {α : Type} {topics : List Topic}

theorem audit {entry : Audit.Entry} (among : .audit ∈ topics) :
    (Procedure.audit entry).KeepsTo topics :=
  .perform among

theorem get {client : Client} {request : Request} (among : .client ∈ topics) :
    (Procedure.get client request).KeepsTo topics :=
  .perform among

theorem ofResult (result : Except Failure α) : (Procedure.ofResult result).KeepsTo topics := by
  cases result <;> trivial

theorem telling {thrown : Thrown} {next : Procedure α} {allowed : Command → Prop}
    (asks : next.AsksOnly allowed) : (Procedure.telling thrown next).AsksOnly allowed := by
  unfold Procedure.telling
  split
  · exact asks
  · trivial

theorem withClient {options : ClientOptions} {use : Client → Procedure α} (among : .client ∈ topics)
    (uses : ∀ client, (use client).KeepsTo topics) :
    (Procedure.withClient options use).KeepsTo topics :=
  .bind (.perform among) fun _ => .ensuring (uses _) (.perform among)

end Program.AsksOnly

/-- An element of two parts lies in the first of them, or past its end. -/
theorem split_append_cons {α : Type} {first rest before after : List α} {element : α}
    (same : first ++ rest = before ++ element :: after) :
    (∃ middle, first = before ++ element :: middle) ∨
      ∃ middle, before = first ++ middle ∧ rest = middle ++ element :: after := by
  rcases List.append_eq_append_iff.mp same with ⟨middle, rfl, split⟩ | ⟨middle, rfl, split⟩
  · exact .inr ⟨middle, rfl, split⟩
  · cases middle with
    | nil => exact .inr ⟨[], by simp, split.symm⟩
    | cons head middle =>
        cases split
        exact .inl ⟨middle, rfl⟩

namespace Transcript

/-- Nothing in a transcript is about a topic. -/
def Lacks (topic : Topic) (transcript : Transcript) : Prop :=
  ∀ event ∈ transcript, event.op.topic ≠ topic

theorem lacks_of_keepsTo {α : Type} {procedure : Procedure α} {topics : List Topic} {topic : Topic}
    {transcript : Transcript} {outcome : Except Thrown α}
    (runs : procedure.Runs transcript outcome) (keeps : procedure.KeepsTo topics)
    (other : topic ∉ topics) : Lacks topic transcript := by
  intro event member same
  have among : event.op.topic ∈ topics := runs.allowed_of_mem keeps member
  exact other (same ▸ among)

theorem lacks_nil {topic : Topic} : Lacks topic [] :=
  fun _ member => by cases member

theorem lacks_cons_iff {topic : Topic} {event : Event Command Command.Answer} {rest : Transcript} :
    Lacks topic (event :: rest) ↔ event.op.topic ≠ topic ∧ Lacks topic rest :=
  List.forall_mem_cons

theorem lacks_singleton {topic : Topic} {event : Event Command Command.Answer}
    (other : topic ≠ event.op.topic) : Lacks topic [event] :=
  lacks_cons_iff.mpr ⟨other.symm, lacks_nil⟩

theorem lacks_append_iff {topic : Topic} {first rest : Transcript} :
    Lacks topic (first ++ rest) ↔ Lacks topic first ∧ Lacks topic rest := by
  simp only [Lacks, List.forall_mem_append]

/-- What a transcript has about one topic. -/
def about (topic : Topic) (transcript : Transcript) : Transcript :=
  transcript.filter fun event => event.op.topic = topic

theorem about_append (topic : Topic) (first rest : Transcript) :
    about topic (first ++ rest) = about topic first ++ about topic rest :=
  List.filter_append ..

theorem about_eq_nil {topic : Topic} {transcript : Transcript} (lacks : Lacks topic transcript) :
    about topic transcript = [] := by
  rw [about, List.filter_eq_nil_iff]
  intro event member
  simpa using lacks event member

theorem about_eq_self {topic : Topic} {transcript : Transcript}
    (keeps : ∀ event ∈ transcript, event.op.topic = topic) :
    about topic transcript = transcript := by
  rw [about, List.filter_eq_self]
  intro event member
  exact decide_eq_true (keeps event member)

/-!
## Requests and replies
-/

def sent (transcript : Transcript) : List (Trust × Request) :=
  transcript.requests.map fun request => (request.1.options.trust, request.2)

def replies (transcript : Transcript) : List (Except Thrown Reply) :=
  transcript.filterMap fun
    | ⟨.get _ _, answer⟩ => some answer
    | _ => none

/-- The bytes that arrived, from a server or through hardware. -/
def bodies (transcript : Transcript) : List Bytes :=
  transcript.filterMap fun
    | ⟨.get _ _, .ok reply⟩ => some reply.body
    | ⟨.fetchHardware _ _, .ok body⟩ => some body
    | _ => none

@[simp] theorem sent_append (first rest : Transcript) :
    sent (first ++ rest) = sent first ++ sent rest := by
  simp [sent, requests]

@[simp] theorem replies_append (first rest : Transcript) :
    replies (first ++ rest) = replies first ++ replies rest := by
  simp [replies]

theorem filterMap_eq_nil_of_lacks {View : Type} {topic : Topic} {transcript : Transcript}
    {view : Event Command Command.Answer → Option View} (lacks : Lacks topic transcript)
    (blind : ∀ event, event.op.topic ≠ topic → view event = none) :
    transcript.filterMap view = [] := by
  rw [List.filterMap_eq_nil_iff]
  intro event member
  exact blind event (lacks event member)

/-- A view that is blind to every other topic sees all that it sees in what is about its own. -/
theorem filterMap_about {View : Type} {topic : Topic} {view : Event Command Command.Answer → Option View}
    (blind : ∀ event, event.op.topic ≠ topic → view event = none) (transcript : Transcript) :
    (about topic transcript).filterMap view = transcript.filterMap view := by
  rw [about, List.filterMap_filter]
  congr 1
  funext event
  by_cases same : event.op.topic = topic
  · simp [same]
  · simp [same, blind event same]

theorem sent_eq_nil {transcript : Transcript} (lacks : Lacks .client transcript) :
    sent transcript = [] := by
  rw [sent, List.map_eq_nil_iff]
  apply filterMap_eq_nil_of_lacks lacks
  rintro ⟨op, answer⟩ other
  cases op with
  | get client request => exact absurd rfl other
  | _ => rfl

theorem replies_eq_nil {transcript : Transcript} (lacks : Lacks .client transcript) :
    replies transcript = [] := by
  apply filterMap_eq_nil_of_lacks lacks
  rintro ⟨op, answer⟩ other
  cases op with
  | get client request => exact absurd rfl other
  | _ => rfl

theorem bodies_append (first rest : Transcript) : bodies (first ++ rest) = bodies first ++ bodies rest :=
  List.filterMap_append ..

theorem bodies_eq_nil {transcript : Transcript} (noClient : Lacks .client transcript)
    (noHardware : Lacks .hardware transcript) : bodies transcript = [] := by
  rw [bodies, List.filterMap_eq_nil_iff]
  rintro ⟨op, answer⟩ member
  cases op with
  | get client request => exact absurd rfl (noClient _ member)
  | fetchHardware bundle url => exact absurd rfl (noHardware _ member)
  | _ => rfl

/-!
## Nonces
-/

def drawn (transcript : Transcript) : List Nat :=
  transcript.filterMap fun
    | ⟨.draw _, .ok value⟩ => some value
    | _ => none

def supplied (transcript : Transcript) : List String :=
  transcript.filterMap fun
    | ⟨.nonce, .ok nonce⟩ => some nonce
    | _ => none

/-- The nonce of a call: what the generator supplied, or else the letters for what was drawn. -/
def nonceFrom (source : Nonce.Source) (transcript : Transcript) : String :=
  match source with
  | .generated => String.ofList ((drawn transcript).map Nonce.letter)
  | .supplied => (supplied transcript).headD ""

theorem drawn_append (first rest : Transcript) :
    drawn (first ++ rest) = drawn first ++ drawn rest := by
  simp [drawn]

theorem drawn_eq_nil {transcript : Transcript} (lacks : Lacks .nonce transcript) :
    drawn transcript = [] := by
  apply filterMap_eq_nil_of_lacks lacks
  rintro ⟨op, answer⟩ other
  cases op with
  | draw bound => exact absurd rfl other
  | _ => rfl

theorem supplied_eq_nil {transcript : Transcript} (lacks : Lacks .nonce transcript) :
    supplied transcript = [] := by
  apply filterMap_eq_nil_of_lacks lacks
  rintro ⟨op, answer⟩ other
  cases op with
  | nonce => exact absurd rfl other
  | _ => rfl

theorem supplied_append (first rest : Transcript) :
    supplied (first ++ rest) = supplied first ++ supplied rest := by
  simp [supplied]

theorem nonceFrom_append_left {source : Nonce.Source} {first rest : Transcript}
    (after : Lacks .nonce rest) : nonceFrom source (first ++ rest) = nonceFrom source first := by
  cases source with
  | generated => rw [nonceFrom, drawn_append, drawn_eq_nil after, List.append_nil, nonceFrom]
  | supplied => rw [nonceFrom, supplied_append, supplied_eq_nil after, List.append_nil, nonceFrom]

theorem nonceFrom_append_right {source : Nonce.Source} {first rest : Transcript}
    (before : Lacks .nonce first) : nonceFrom source (first ++ rest) = nonceFrom source rest := by
  cases source with
  | generated => rw [nonceFrom, drawn_append, drawn_eq_nil before, List.nil_append, nonceFrom]
  | supplied => rw [nonceFrom, supplied_append, supplied_eq_nil before, List.nil_append, nonceFrom]

/-!
## Tokens
-/

/-- The first token that a resolver or a source of sealed tokens answered with. -/
def answeredToken? (transcript : Transcript) : Option String :=
  transcript.findSome? fun
    | ⟨.resolve _, .ok resolved⟩ => some resolved.token
    | ⟨.unsealToken _, .ok token⟩ => some token
    | _ => none

/-- The token after resolution: a cluster token is used as given, and a machine token is what the
resolver answered. A resolver that need not ask anyone leaves the token as it was given. -/
def usedToken (token : String) (scope : Scope) (transcript : Transcript) : String :=
  match scope with
  | .cluster => token
  | .machine => (answeredToken? transcript).getD token

theorem answeredToken?_eq_none {transcript : Transcript} (lacks : Lacks .lookup transcript) :
    answeredToken? transcript = none := by
  rw [answeredToken?, List.findSome?_eq_none_iff]
  rintro ⟨op, answer⟩ member
  have other := lacks _ member
  cases op with
  | resolve token => exact absurd rfl other
  | unsealToken reference => exact absurd rfl other
  | _ => rfl

theorem answeredToken?_append (first rest : Transcript) :
    answeredToken? (first ++ rest) = (answeredToken? first).or (answeredToken? rest) := by
  simp [answeredToken?]

theorem usedToken_append_left {token : String} {scope : Scope} {first rest : Transcript}
    (after : Lacks .lookup rest) :
    usedToken token scope (first ++ rest) = usedToken token scope first := by
  cases scope with
  | cluster => rfl
  | machine =>
      rw [usedToken, answeredToken?_append, answeredToken?_eq_none after, Option.or_none, usedToken]

theorem usedToken_append_right {token : String} {scope : Scope} {first rest : Transcript}
    (before : Lacks .lookup first) :
    usedToken token scope (first ++ rest) = usedToken token scope rest := by
  cases scope with
  | cluster => rfl
  | machine =>
      rw [usedToken, answeredToken?_append, answeredToken?_eq_none before, Option.none_or, usedToken]

/-!
## Bundles
-/

/-- The body of a reply to an unverified request, if it is not empty, came with status 200, and
carries the response hash for the nonce of that very request. -/
def verifiedBody? (token : String) : Event Command Command.Answer → Option Bytes
  | ⟨.get client request, .ok reply⟩ =>
    match request.headers.get? "X-Cattle-Nonce" with
    | none => none
    | some nonce =>
      if client.options.trust = .insecure ∧ reply.status = 200 ∧ reply.body ≠ [] ∧
          reply.headers.get? "x-cattle-hash" = some (Integrity.responseHash token nonce reply.body) then
        some reply.body
      else none
  | _ => none

/-- The bundle that a call verified, if it verified one. -/
def verifiedBundle? (token : String) (transcript : Transcript) : Option Bytes :=
  transcript.findSome? (verifiedBody? token)

/-- A transcript authenticates a bundle under a token: the bundle is the body of a reply in it to an
unverified request, that reply had status 200, and its response hash is the one that only a holder of
the token computes for the nonce of that very request. -/
def Authenticates (transcript : Transcript) (token : String) (bundle : Bytes) : Prop :=
  bundle ≠ [] ∧ ∃ client request reply nonce,
    (⟨.get client request, .ok reply⟩ : Event Command Command.Answer) ∈ transcript ∧
      client.options.trust = .insecure ∧ request.headers.get? "X-Cattle-Nonce" = some nonce ∧
      reply.status = 200 ∧ reply.body = bundle ∧
      reply.headers.get? "x-cattle-hash" = some (Integrity.responseHash token nonce bundle)

theorem verifiedBundle?_eq_none {token : String} {transcript : Transcript}
    (lacks : Lacks .client transcript) : verifiedBundle? token transcript = none := by
  rw [verifiedBundle?, List.findSome?_eq_none_iff]
  rintro ⟨op, answer⟩ member
  have other := lacks _ member
  cases op with
  | get client request => exact absurd rfl other
  | _ => rfl

theorem verifiedBundle?_cons (token : String) (event : Event Command Command.Answer)
    (rest : Transcript) :
    verifiedBundle? token (event :: rest) =
      (verifiedBody? token event).or (verifiedBundle? token rest) := by
  cases found : verifiedBody? token event <;> simp [verifiedBundle?, found]

theorem verifiedBundle?_append (token : String) (first rest : Transcript) :
    verifiedBundle? token (first ++ rest) =
      (verifiedBundle? token first).or (verifiedBundle? token rest) := by
  simp [verifiedBundle?]

theorem authenticates_of_verifiedBundle? {token : String} {transcript : Transcript} {bundle : Bytes}
    (verified : verifiedBundle? token transcript = some bundle) :
    Authenticates transcript token bundle := by
  obtain ⟨event, member, found⟩ := List.exists_of_findSome?_eq_some verified
  unfold verifiedBody? at found
  split at found
  · next client request reply =>
      split at found
      · cases found
      · next nonce carried =>
          split at found
          · next accepted =>
              obtain ⟨insecure, status, nonempty, hash⟩ := accepted
              cases found
              exact ⟨nonempty, client, request, reply, nonce, member, insecure, carried, status, rfl, hash⟩
          · cases found
  · cases found

/-- What a part of a transcript authenticates, the whole authenticates. -/
theorem Authenticates.append {token : String} {bundle : Bytes} {middle : Transcript}
    (authentic : Authenticates middle token bundle) (first rest : Transcript) :
    Authenticates (first ++ middle ++ rest) token bundle := by
  obtain ⟨nonempty, client, request, reply, nonce, member, shape⟩ := authentic
  refine ⟨nonempty, client, request, reply, nonce, ?_, shape⟩
  exact List.mem_append_left _ (List.mem_append_right _ member)

end Transcript

end JoinTrust
