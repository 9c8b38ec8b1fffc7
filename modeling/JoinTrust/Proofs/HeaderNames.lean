import JoinTrust.Proofs.Associations
import JoinTrust.Proofs.ExchangeOutcome
import JoinTrust.Proofs.HashComparison
import JoinTrust.Proofs.LowerCase
import JoinTrust.Proofs.Verdict

set_option autoImplicit false

/-!
Headers under lower-case names. Whatever the spellings are that a name arrives in, it is looked up under one; of all
that arrived under it the last one with a value counts. A bootstrap reads the response hash this way, and a list of
values is none.
-/

namespace JoinTrust

open Program (closedWith)

/-!
## Names
-/

namespace HeaderValue

/-- What a header says: its value, or its values in one line. -/
inductive Carries : HeaderValue → String → Prop where
  | single (value : String) : Carries (.single value) value
  | several (values : List String) : Carries (.several values) (", ".intercalate values)

/-- Nothing that arrived under this name has a value. -/
def Silent (key : String) (headers : List (String × HeaderValue)) : Prop :=
  ∀ header ∈ headers, Text.lower header.1 = key → header.2 = .missing

/-- The last of the values that arrived under this name, in whatever spelling. -/
inductive Latest (key : String) : List (String × HeaderValue) → HeaderValue → Prop where
  | here {name : String} {value : HeaderValue} {later : List (String × HeaderValue)} :
      Text.lower name = key → value ≠ .missing → Silent key later → Latest key ((name, value) :: later) value
  | later {header : String × HeaderValue} {later : List (String × HeaderValue)} {value : HeaderValue} :
      Latest key later value → Latest key (header :: later) value

/-- One header among those before it. -/
def put (normal : Headers) (header : String × HeaderValue) : Headers :=
  match header.2.text? with
  | some value =>
    let name := Text.lower header.1
    if name = reservedName then normal else normal.insert name value
  | none => normal

variable {key name text : String} {value : HeaderValue} {normal : Headers} {header : String × HeaderValue}
  {headers : List (String × HeaderValue)}

theorem normalize_eq (headers : List (String × HeaderValue)) :
    normalize headers = (Assoc.ofList headers).foldl put [] := rfl

theorem carries_iff : Carries value text ↔ value.text? = some text := by
  cases value with
  | single held =>
      constructor
      · rintro ⟨⟩
        rfl
      · rintro ⟨⟩
        exact .single _
  | several values =>
      constructor
      · rintro ⟨⟩
        rfl
      · rintro ⟨⟩
        exact .several _
  | missing =>
      constructor
      · rintro ⟨⟩
      · rintro ⟨⟩

theorem exists_carries (defined : value ≠ .missing) : ∃ text, Carries value text := by
  cases value with
  | single value => exact ⟨_, .single value⟩
  | several values => exact ⟨_, .several values⟩
  | missing => exact absurd rfl defined

theorem Silent.not_latest (silent : Silent key headers) : ¬Latest key headers value := by
  intro latest
  induction latest with
  | here spelled defined _ => exact defined (silent _ List.mem_cons_self spelled)
  | later _ ih => exact ih fun header member => silent header (List.mem_cons_of_mem _ member)

theorem Latest.defined (latest : Latest key headers value) : value ≠ .missing := by
  induction latest with
  | here _ defined _ => exact defined
  | later _ ih => exact ih

/-- Something arrived under a name, or nothing with a value did. -/
theorem silent_or_latest (key : String) (headers : List (String × HeaderValue)) :
    Silent key headers ∨ ∃ value, Latest key headers value := by
  induction headers with
  | nil => exact .inl fun header member => absurd member List.not_mem_nil
  | cons header rest ih =>
      obtain ⟨name, value⟩ := header
      rcases ih with silent | ⟨other, latest⟩
      · by_cases speaks : Text.lower name = key ∧ value ≠ .missing
        · exact .inr ⟨value, .here speaks.1 speaks.2 silent⟩
        · refine .inl (List.forall_mem_cons.mpr ⟨?_, silent⟩)
          intro spelled
          exact Decidable.not_not.mp fun defined => speaks ⟨spelled, defined⟩
      · exact .inr ⟨other, .later latest⟩

theorem exists_latest_iff :
    (∃ value, Latest key headers value) ↔ ∃ header ∈ headers, Text.lower header.1 = key ∧ header.2 ≠ .missing := by
  constructor
  · rintro ⟨value, latest⟩
    refine Decidable.byContradiction fun nothing => ?_
    have silent : Silent key headers := fun header member spelled =>
      Decidable.not_not.mp fun defined => nothing ⟨header, member, spelled, defined⟩
    exact silent.not_latest latest
  · rintro ⟨header, member, spelled, defined⟩
    rcases silent_or_latest key headers with silent | latest
    · exact absurd (silent header member spelled) defined
    · exact latest

/-!
## Normal headers
-/

theorem get?_put (allowed : Text.lower header.1 ≠ reservedName) :
    (put normal header).get? key =
      if Text.lower header.1 = key then header.2.text?.or (normal.get? key) else normal.get? key := by
  cases read : header.2.text? with
  | none => simp [put, read]
  | some value =>
      rw [put, read]
      simp only [if_neg allowed, Assoc.get?_insert, Option.some_or]
      by_cases spelled : Text.lower header.1 = key
      · rw [if_pos spelled, if_pos spelled.symm]
      · rw [if_neg spelled, if_neg (Ne.symm spelled)]

/-- A header takes the place of what was there under its name, if it has a value. -/
theorem get?_put_eq_some_iff (allowed : Text.lower header.1 ≠ reservedName) :
    (put normal header).get? key = some text ↔
      (Text.lower header.1 = key ∧ Carries header.2 text) ∨
        (Text.lower header.1 = key → header.2 = .missing) ∧ normal.get? key = some text := by
  rw [get?_put allowed, carries_iff]
  by_cases spelled : Text.lower header.1 = key
  · cases header.2 with
    | single value => simp [spelled, text?]
    | several values => simp [spelled, text?]
    | missing => simp [spelled, text?]
  · simp [spelled]

/-- What is found under a name after all headers: what the last of its values says, or what was there before. -/
theorem get?_foldl_put (allowed : ∀ header ∈ headers, Text.lower header.1 ≠ reservedName) :
    (headers.foldl put normal).get? key = some text ↔
      (∃ value, Latest key headers value ∧ Carries value text) ∨ Silent key headers ∧ normal.get? key = some text := by
  induction headers generalizing normal with
  | nil =>
      constructor
      · intro found
        exact .inr ⟨fun header member => absurd member List.not_mem_nil, found⟩
      · rintro (⟨value, latest, _⟩ | ⟨_, found⟩)
        · cases latest
        · exact found
  | cons header rest ih =>
      obtain ⟨first, others⟩ := List.forall_mem_cons.mp allowed
      rw [List.foldl_cons, ih others, get?_put_eq_some_iff first]
      constructor
      · rintro (⟨value, latest, carries⟩ | ⟨silent, ⟨spelled, carries⟩ | ⟨quiet, found⟩⟩)
        · exact .inl ⟨value, .later latest, carries⟩
        · have defined : header.2 ≠ .missing := by
            intro missing
            rw [missing] at carries
            cases carries
          exact .inl ⟨header.2, .here spelled defined silent, carries⟩
        · exact .inr ⟨List.forall_mem_cons.mpr ⟨quiet, silent⟩, found⟩
      · rintro (⟨value, latest, carries⟩ | ⟨silent, found⟩)
        · cases latest with
          | here spelled _ silent => exact .inr ⟨silent, .inl ⟨spelled, carries⟩⟩
          | later latest => exact .inl ⟨value, latest, carries⟩
        · obtain ⟨quiet, silent⟩ := List.forall_mem_cons.mp silent
          exact .inr ⟨silent, .inr ⟨quiet, found⟩⟩

/-- What every header preserves is preserved by all of them. -/
theorem foldl_put_induction (holds : Headers → Prop) (start : holds normal)
    (step : ∀ normal name value, holds normal → Text.lower name = name → holds (normal.insert name value)) :
    holds (headers.foldl put normal) := by
  induction headers generalizing normal with
  | nil => exact start
  | cons header rest ih =>
      apply ih
      rw [put]
      split
      · simp only
        split
        · exact start
        · exact step normal _ _ start (Text.lower_lower header.1)
      · exact start

theorem lower_of_mem_normalize : ∀ name ∈ (normalize headers).names, Text.lower name = name := by
  rw [normalize_eq]
  apply foldl_put_induction fun normal => ∀ name ∈ normal.names, Text.lower name = name
  · intro name member
    cases member
  · intro normal name value lowered lower other member
    rw [Assoc.names_insert] at member
    split at member
    · exact lowered other member
    · rcases List.mem_append.mp member with among | last
      · exact lowered other among
      · cases List.mem_singleton.mp last
        exact lower

theorem nodup_normalize : (normalize headers).names.Nodup := by
  rw [normalize_eq]
  apply foldl_put_induction fun normal => normal.names.Nodup
  · exact List.nodup_nil
  · intro normal name value distinct lower
    exact Assoc.nodup_insert distinct

/-- Under a name there is what the last of its values says, and nothing if nothing has a value. -/
theorem get?_normalize_eq_some_iff (distinct : (headers.map Prod.fst).Nodup)
    (allowed : ∀ header ∈ headers, Text.lower header.1 ≠ reservedName) :
    (normalize headers).get? key = some text ↔ ∃ value, Latest key headers value ∧ Carries value text := by
  rw [normalize_eq, Assoc.ofList_of_nodup distinct, get?_foldl_put allowed]
  constructor
  · rintro (latest | ⟨_, found⟩)
    · exact latest
    · cases found
  · exact .inl

theorem isSome_get?_normalize_iff (distinct : (headers.map Prod.fst).Nodup)
    (allowed : ∀ header ∈ headers, Text.lower header.1 ≠ reservedName) :
    ((normalize headers).get? key).isSome ↔
      ∃ header ∈ headers, Text.lower header.1 = key ∧ header.2 ≠ .missing := by
  rw [Option.isSome_iff_exists, ← exists_latest_iff]
  constructor
  · rintro ⟨text, found⟩
    obtain ⟨value, latest, _⟩ := (get?_normalize_eq_some_iff distinct allowed).mp found
    exact ⟨value, latest⟩
  · rintro ⟨value, latest⟩
    obtain ⟨text, carries⟩ := exists_carries latest.defined
    exact ⟨text, (get?_normalize_eq_some_iff distinct allowed).mpr ⟨value, latest, carries⟩⟩

end HeaderValue

open HeaderValue (Latest Silent)

/-!
## Replies over the wire
-/

namespace WireEvent

variable {status status' : Option Int} {statusText statusText' : Option String}
  {headers headers' : List (String × HeaderValue)} {events : List WireEvent}

theorem Orderly.not_headed (orderly : Orderly true events) : .head status statusText headers ∉ events := by
  induction events with
  | nil => exact List.not_mem_nil
  | cons event rest ih =>
      intro member
      cases event with
      | head => exact absurd orderly.1 (by decide)
      | requestError => exact ih orderly ((List.mem_cons.mp member).resolve_left nofun)
      | deadline => exact ih orderly ((List.mem_cons.mp member).resolve_left nofun)
      | _ => exact ih orderly.2 ((List.mem_cons.mp member).resolve_left nofun)

/-- A reply has one head. -/
theorem Orderly.headers_unique {headed : Bool} (orderly : Orderly headed events)
    (first : .head status statusText headers ∈ events) (second : .head status' statusText' headers' ∈ events) :
    headers = headers' := by
  induction events generalizing headed with
  | nil => cases first
  | cons event rest ih =>
      cases event with
      | head _ _ _ =>
          rcases List.mem_cons.mp first with here | later
          · rcases List.mem_cons.mp second with alsoHere | later
            · cases here
              cases alsoHere
              rfl
            · exact absurd later orderly.2.not_headed
          · exact absurd later orderly.2.not_headed
      | requestError =>
          exact @ih headed orderly ((List.mem_cons.mp first).resolve_left nofun)
            ((List.mem_cons.mp second).resolve_left nofun)
      | deadline =>
          exact @ih headed orderly ((List.mem_cons.mp first).resolve_left nofun)
            ((List.mem_cons.mp second).resolve_left nofun)
      | _ =>
          exact ih orderly.2 ((List.mem_cons.mp first).resolve_left nofun)
            ((List.mem_cons.mp second).resolve_left nofun)

end WireEvent

/-- A request over the wire gets this reply, and its headers arrived like this. -/
def Exchange.Delivers (options : ClientOptions) (request : Request) (headers : List (String × HeaderValue))
    (reply : Reply) : Prop :=
  ∃ sent events status statusText, Exchange.start? options request = some sent ∧
    WireEvent.Orderly false events ∧ .head status statusText headers ∈ events ∧
      (sent.run events).settled = some (.ok reply)

theorem Exchange.Delivers.headers_eq {options : ClientOptions} {request : Request}
    {headers : List (String × HeaderValue)} {reply : Reply} (delivers : Delivers options request headers reply) :
    reply.headers = HeaderValue.normalize headers := by
  obtain ⟨sent, events, status, statusText, started, orderly, headed, settled⟩ := delivers
  obtain ⟨url, _, rfl⟩ := Option.map_eq_some_iff.mp started
  have fresh : Fresh { options, url, headers := request.headers } := ⟨rfl, rfl, rfl, rfl⟩
  have loud : ¬ ∀ event ∈ events, event.ends = false := by
    intro quiet
    rw [run_quiet quiet] at settled
    cases settled
  obtain ⟨before, ending, after, rfl, quiet, ends⟩ := WireEvent.split_at_ending loud
  obtain ⟨outcome, destroyed, decides, settles, _⟩ := fresh.over_run quiet ends orderly
  cases settles.symm.trans settled
  cases decides with
  | replied first =>
      rw [orderly.headers_unique headed (List.mem_append_left _ first)]

/-- What is found in a reply is what the last header with a value says. -/
theorem Exchange.Delivers.get?_eq_some_iff {options : ClientOptions} {request : Request}
    {headers : List (String × HeaderValue)} {reply : Reply} (delivers : Delivers options request headers reply)
    (distinct : (headers.map Prod.fst).Nodup) (allowed : ∀ header ∈ headers, Text.lower header.1 ≠ "__proto__")
    {key text : String} :
    reply.headers.get? key = some text ↔ ∃ value, Latest key headers value ∧ value.Carries text := by
  rw [delivers.headers_eq]
  exact HeaderValue.get?_normalize_eq_some_iff distinct allowed

/-!
## Bootstraps
-/

/-- The request of an exchange is sent over its client, and what is heard of the answer is all that follows. -/
theorem Procedure.Exchanged.heard_of_mem {α : Type} {options : ClientOptions} {request sent : Request}
    {heard : Except Thrown Reply → Transcript → Except Thrown α → Prop} {events : Transcript}
    {outcome : Except Thrown α} {client : Client} {answer : Except Thrown Reply}
    (exchanged : Exchanged options request heard events outcome)
    (quiet : ∀ answer inner result, heard answer inner result → Transcript.Lacks .client inner)
    (member : (⟨.get client sent, answer⟩ : Event Command Command.Answer) ∈ events) :
    client.options = options ∧ sent = request ∧ ∃ inner result closing,
      heard answer inner result ∧ outcome = closedWith closing result ∧
        (Transcript.Calm events → closing = .ok ()) := by
  cases exchanged with
  | unmade => cases List.mem_singleton.mp member
  | @made serial answer inner result closing follows =>
      rcases List.mem_append.mp member with spoken | closed
      · rcases List.mem_cons.mp spoken with created | spoken
        · cases created
        · rcases List.mem_cons.mp spoken with asked | among
          · cases asked
            refine ⟨rfl, rfl, inner, result, closing, follows, rfl, ?_⟩
            intro calm
            exact calm ⟨.close ⟨options, serial⟩, closing⟩ (List.mem_append_right _ List.mem_cons_self)
          · exact absurd rfl (quiet _ _ _ follows _ among)
      · cases List.mem_singleton.mp closed

namespace Bootstrapper

variable {bootstrapper : Bootstrapper} {server token nonce url : String} {scope : Scope} {events : Transcript}
  {client : Client} {request : Request} {reply : Reply}

/-- How a bootstrap ends that got a reply to judge: as the reply is judged, or for want of calm with something else. -/
inductive EndsJudged (token nonce : String) (reply : Reply) (events : Transcript) (outcome : Except Thrown CaCerts) :
    Prop where
  | interrupted (thrown : Thrown) : ¬Transcript.Calm events → outcome = .error thrown →
      EndsJudged token nonce reply events outcome
  | judged (answer : Except Thrown Unit) : (Transcript.Calm events → answer = .ok ()) →
      outcome = closedWith answer ((reply.judge token nonce).mapError .failure) →
      EndsJudged token nonce reply events outcome

theorem EndsJudged.outcome_of_calm {outcome : Except Thrown CaCerts}
    (ends : EndsJudged token nonce reply events outcome) (calm : Transcript.Calm events) :
    outcome = (reply.judge token nonce).mapError .failure := by
  cases ends with
  | interrupted _ uncalm _ => exact absurd calm uncalm
  | judged answer takes ended => rw [ended, takes calm]; rfl

/-- What is refused gives no bundle, calm or not. -/
theorem EndsJudged.error_of_refused {outcome : Except Thrown CaCerts} {failure : Failure}
    (ends : EndsJudged token nonce reply events outcome) (refused : reply.judge token nonce = .error failure) :
    ∃ thrown, outcome = .error thrown := by
  cases ends with
  | interrupted thrown _ failed => exact ⟨thrown, failed⟩
  | judged answer _ ended =>
      rw [refused] at ended
      cases answer with
      | ok _ => exact ⟨_, ended⟩
      | error thrown => exact ⟨thrown, ended⟩

theorem reply_notMem_drawing {drawing : Transcript} {drawn : Except Thrown String}
    (drew : bootstrapper.nonces.next.Runs drawing drawn) :
    (⟨.get client request, .ok reply⟩ : Event Command Command.Answer) ∉ drawing := by
  have silent : Transcript.Lacks .client drawing := drawing_lacks drew (by decide)
  exact fun among => silent _ among rfl

theorem unverified_notMem_probing {probing : Transcript} {result : Except Thrown Bool}
    (probed : Procedure.Exchanged ⟨.system, bootstrapper.timeout⟩ { url } (Probed url scope) probing result)
    (unverified : client.options.trust = .insecure) :
    (⟨.get client request, .ok reply⟩ : Event Command Command.Answer) ∉ probing := by
  intro among
  obtain ⟨same, _⟩ := probed.heard_of_mem (fun _ _ _ heard => probed_lacks heard (by decide)) among
  rw [same] at unverified
  cases unverified

theorem downloaded_of_mem {download : Transcript} {result : Except Thrown Reply}
    (downloaded : Procedure.Exchanged ⟨.insecure, bootstrapper.timeout⟩ (downloadRequest url nonce token)
      (Downloaded url scope) download result)
    (among : (⟨.get client request, .ok reply⟩ : Event Command Command.Answer) ∈ download) :
    request.headers.get? "X-Cattle-Nonce" = some nonce ∧
      ∃ closing, result = closedWith closing (.ok reply) ∧ (Transcript.Calm download → closing = .ok ()) := by
  obtain ⟨_, rfl, inner, _, closing, heard, ended, calm⟩ :=
    downloaded.heard_of_mem (fun _ _ _ told => told.lacks (by decide)) among
  cases heard
  exact ⟨rfl, closing, ended, calm⟩

/-- A reply over a client that verifies nothing is judged under the nonce that was sent. -/
theorem Course.judged_of_mem {outcome : Except Thrown CaCerts}
    (course : Course bootstrapper server token scope events outcome)
    (member : (⟨.get client request, .ok reply⟩ : Event Command Command.Answer) ∈ events)
    (unverified : client.options.trust = .insecure) :
    ∃ nonce, request.headers.get? "X-Cattle-Nonce" = some nonce ∧ EndsJudged token nonce reply events outcome := by
  cases course with
  | nonceFailed drew => exact absurd member (reply_notMem_drawing drew)
  | serverRejected drew => exact absurd member (reply_notMem_drawing drew)
  | probeFailed drew _ probed =>
      rcases List.mem_append.mp member with among | among
      · exact absurd among (reply_notMem_drawing drew)
      · exact absurd among (unverified_notMem_probing probed unverified)
  | trusted drew _ probed =>
      rcases List.mem_append.mp member with among | among
      · exact absurd among (reply_notMem_drawing drew)
      · exact absurd among (unverified_notMem_probing probed unverified)
  | @downloadFailed drawing probing download nonce url thrown drew _ probed failed =>
      rcases List.mem_append.mp member with among | among
      · exact absurd among (reply_notMem_drawing drew)
      rcases List.mem_append.mp among with among | among
      · exact absurd among (unverified_notMem_probing probed unverified)
      · obtain ⟨sent, closing, ended, closes⟩ := downloaded_of_mem failed among
        refine ⟨nonce, sent, .interrupted thrown ?_ rfl⟩
        intro calm
        rw [closes (Transcript.calm_append_iff.mp (Transcript.calm_append_iff.mp calm).2).2] at ended
        cases ended
  | @judged drawing probing download nonce url judged answer drew _ probed succeeded =>
      rcases List.mem_append.mp member with among | among
      · exact absurd among (reply_notMem_drawing drew)
      rcases List.mem_append.mp among with among | among
      · exact absurd among (unverified_notMem_probing probed unverified)
      rcases List.mem_append.mp among with among | among
      · obtain ⟨sent, closing, ended, _⟩ := downloaded_of_mem succeeded among
        cases (Program.closedWith_eq_ok_iff.mp ended.symm).2
        refine ⟨nonce, sent, .judged answer ?_ rfl⟩
        intro calm
        simp only [Transcript.calm_append_iff, Transcript.calm_cons_iff] at calm
        exact calm.2.2.2.1
      · cases List.mem_singleton.mp among

end Bootstrapper

/-- Several values in one line are no response hash, which has no comma in it. -/
theorem Integrity.verify_several {token nonce : String} {body : Bytes} {values : List String}
    (several : 2 ≤ values.length) : verify token nonce body (some (", ".intercalate values)) = false := by
  rw [← Bool.not_eq_true, verify_eq_true_iff, Option.some.injEq]
  intro same
  have comma : ',' ∈ (", ".intercalate values).toList := by
    match values, several with
    | first :: second :: rest, _ => simp [String.toList_intercalate, List.intercalate]
  rw [same] at comma
  exact Text.Base64.notMem_encode (by decide) _ comma

theorem Reply.judge_refused {token nonce : String} {reply : Reply}
    (refused : Integrity.verify token nonce reply.body (reply.headers.get? "x-cattle-hash") = false) :
    ∃ failure, reply.judge token nonce = .error failure := by
  cases judgement : reply.judge token nonce with
  | error failure => exact ⟨failure, rfl⟩
  | ok trusted =>
      obtain ⟨_, found, _⟩ := judge_eq_ok_iff.mp judgement
      rw [Integrity.verify_eq_true_iff.mpr found] at refused
      cases refused

/-- What a bundle is accepted for: the response hash is found under its name. -/
theorem Reply.judge_found (token nonce : String) {reply : Reply} (ok : reply.status = 200) :
    (reply.headers.get? "x-cattle-hash" = some (Integrity.responseHash token nonce reply.body) →
      (reply.judge token nonce).mapError Thrown.failure = .ok (CaCerts.ofBody reply.body)) ∧
    (reply.headers.get? "x-cattle-hash" ≠ some (Integrity.responseHash token nonce reply.body) →
      RejectedAs .integrityMismatch ((reply.judge token nonce).mapError Thrown.failure)) := by
  constructor
  · intro found
    rw [judge_eq_ok_iff.mpr ⟨ok, found, rfl⟩]
    rfl
  · intro other
    have settles := reply.settles_judge token nonce
    rwa [Settles, if_neg (not_not_intro ok), if_pos other] at settles

namespace Exchange.Delivers

variable {options : ClientOptions} {request : Request} {headers : List (String × HeaderValue)} {reply : Reply}

/-- A list of values that came last verifies nothing. -/
theorem verify_several (delivers : Delivers options request headers reply) (distinct : (headers.map Prod.fst).Nodup)
    (allowed : ∀ header ∈ headers, Text.lower header.1 ≠ "__proto__") (token nonce : String) {values : List String}
    (latest : Latest "x-cattle-hash" headers (.several values)) (several : 2 ≤ values.length) :
    Integrity.verify token nonce reply.body (reply.headers.get? "x-cattle-hash") = false := by
  rw [(delivers.get?_eq_some_iff distinct allowed).mpr ⟨_, latest, .several values⟩]
  exact Integrity.verify_several several

/-- The last header with a value decides on the bundle. -/
theorem judge_latest (delivers : Delivers options request headers reply) (distinct : (headers.map Prod.fst).Nodup)
    (allowed : ∀ header ∈ headers, Text.lower header.1 ≠ "__proto__") (token nonce : String) (ok : reply.status = 200)
    {value : HeaderValue} {text : String} (latest : Latest "x-cattle-hash" headers value)
    (carries : value.Carries text) :
    (text = Integrity.responseHash token nonce reply.body →
      (reply.judge token nonce).mapError Thrown.failure = .ok (CaCerts.ofBody reply.body)) ∧
    (text ≠ Integrity.responseHash token nonce reply.body →
      RejectedAs .integrityMismatch ((reply.judge token nonce).mapError Thrown.failure)) := by
  have shown := (delivers.get?_eq_some_iff distinct allowed).mpr ⟨_, latest, carries⟩
  obtain ⟨accepts, rejects⟩ := Reply.judge_found token nonce ok
  rw [shown, Option.some.injEq] at accepts
  rw [shown, Ne, Option.some.injEq] at rejects
  exact ⟨accepts, rejects⟩

/-- Without a value under its name there is no response hash. -/
theorem judge_silent (delivers : Delivers options request headers reply) (distinct : (headers.map Prod.fst).Nodup)
    (allowed : ∀ header ∈ headers, Text.lower header.1 ≠ "__proto__") (token nonce : String) (ok : reply.status = 200)
    (silent : Silent "x-cattle-hash" headers) :
    RejectedAs .integrityMismatch ((reply.judge token nonce).mapError Thrown.failure) := by
  apply (Reply.judge_found token nonce ok).2
  intro shown
  obtain ⟨value, latest, _⟩ := (delivers.get?_eq_some_iff distinct allowed).mp shown
  exact silent.not_latest latest

end Exchange.Delivers

/-- Headers are looked up under lower-case names: there is a value if anything with a value arrived under some spelling
of the name, and then it is that of the last such header. A bootstrap judges a bundle by what it finds under the name of
the response hash this way, and never accepts one for a list of two values or more. -/
theorem headers_found_in_any_spelling :
    (∀ (options : ClientOptions) (request : Request) (headers : List (String × HeaderValue)) (reply : Reply),
      Exchange.Delivers options request headers reply → (headers.map Prod.fst).Nodup →
      (∀ header ∈ headers, Text.lower header.1 ≠ "__proto__") →
        (∀ key, ((reply.headers.get? key).isSome ↔
            ∃ header ∈ headers, Text.lower header.1 = key ∧ header.2 ≠ .missing) ∧
          ∀ text, reply.headers.get? key = some text ↔ ∃ value, Latest key headers value ∧ value.Carries text) ∧
        (∀ name ∈ reply.headers.names, Text.lower name = name) ∧ reply.headers.names.Nodup) ∧
    (∀ name : String, name.toLower = "x-cattle-hash" → Text.lower name = "x-cattle-hash") ∧
    ∀ {σ : Type} (handler : Handler Command Command.Answer σ) (state : σ) (bootstrapper : Bootstrapper)
      (server token : String) (scope : Scope) (client : Client) (request : Request) (reply : Reply)
      (headers : List (String × HeaderValue)),
      let call := (bootstrapper.caCerts server token scope).run handler state
      (⟨.get client request, .ok reply⟩ : Event Command Command.Answer) ∈ call.events →
      client.options.trust = .insecure → Exchange.Delivers client.options request headers reply →
      (headers.map Prod.fst).Nodup → (∀ header ∈ headers, Text.lower header.1 ≠ "__proto__") →
        ∃ nonce, request.headers.get? "X-Cattle-Nonce" = some nonce ∧
          (∀ values, Latest "x-cattle-hash" headers (.several values) → 2 ≤ values.length →
            Integrity.verify token nonce reply.body (reply.headers.get? "x-cattle-hash") = false ∧
              ∃ thrown, call.outcome = .error thrown) ∧
          (Transcript.Calm call.events → reply.status = 200 →
            (∀ value text, Latest "x-cattle-hash" headers value → value.Carries text →
              (text = Integrity.responseHash token nonce reply.body →
                call.outcome = .ok (CaCerts.ofBody reply.body)) ∧
              (text ≠ Integrity.responseHash token nonce reply.body →
                RejectedAs .integrityMismatch call.outcome)) ∧
            (Silent "x-cattle-hash" headers → RejectedAs .integrityMismatch call.outcome)) := by
  refine ⟨?lookup, ?spelling, ?bootstrap⟩
  case lookup =>
    intro options request headers reply delivers distinct allowed
    refine ⟨fun key => ⟨?_, fun text => delivers.get?_eq_some_iff distinct allowed⟩, ?_, ?_⟩
    · rw [delivers.headers_eq]
      exact HeaderValue.isSome_get?_normalize_iff distinct allowed
    · rw [delivers.headers_eq]
      exact HeaderValue.lower_of_mem_normalize
    · rw [delivers.headers_eq]
      exact HeaderValue.nodup_normalize
  case spelling =>
    intro name spelled
    exact Text.lower_of_toLower (by simp) spelled
  case bootstrap =>
    intro σ handler state bootstrapper server token scope client request reply headers call member unverified delivers
      distinct allowed
    obtain ⟨nonce, sent, ends⟩ :=
      (Bootstrapper.course_of_runs (Program.runs_run handler state _)).judged_of_mem member unverified
    refine ⟨nonce, sent, ?_, ?_⟩
    · intro values latest several
      have refused := delivers.verify_several distinct allowed token nonce latest several
      obtain ⟨failure, judgement⟩ := Reply.judge_refused refused
      exact ⟨refused, ends.error_of_refused judgement⟩
    · intro calm ok
      rw [ends.outcome_of_calm calm]
      constructor
      · intro value text latest carries
        exact delivers.judge_latest distinct allowed token nonce ok latest carries
      · intro silent
        exact delivers.judge_silent distinct allowed token nonce ok silent

/-- A name that arrives three times: with two values, then with the response hash, and last without a value. -/
def GenuineServer.spellings (hash : String) : List (String × HeaderValue) :=
  [("X-Cattle-HASH", .several ["a", "b"]), ("X-CATTLE-hash", .single hash), ("x-cattle-hash", .missing)]

open GenuineServer (spellings)

private theorem normalize_spellings (hash : String) :
    HeaderValue.normalize (spellings hash) = [("x-cattle-hash", hash)] := by
  have first : Text.lower "X-Cattle-HASH" = "x-cattle-hash" := by decide +kernel
  have second : Text.lower "X-CATTLE-hash" = "x-cattle-hash" := by decide +kernel
  simp [spellings, HeaderValue.normalize_eq, HeaderValue.put, Assoc.ofList, Assoc.insertAll, Assoc.insert,
    HeaderValue.text?, first, second, HeaderValue.reservedName]

private theorem delivers_spellings (hash : String) (body : Bytes) :
    Exchange.Delivers ⟨.insecure, 5000⟩ (Bootstrapper.downloadRequest "https://rancher.local/cacerts" "nonce" "token")
      (spellings hash) ⟨200, "OK", [("x-cattle-hash", hash)], body⟩ := by
  have parsed : Url.parse? "https://rancher.local/cacerts" =
      some {
        scheme := "https".toList
        host := some (.domain "rancher.local".toList)
        path := .segments ["cacerts".toList] } := by decide +kernel
  rw [← normalize_spellings hash]
  exact ⟨_, [.head (some 200) (some "OK") (spellings hash), .chunk body, .finish], some 200, some "OK",
    congrArg (Option.map fun url => ({ options := ⟨.insecure, 5000⟩, url, headers := _ } : Exchange)) parsed, ⟨rfl, rfl, rfl, trivial⟩,
    List.mem_cons_self, rfl⟩

theorem headers_found_in_any_spelling_genuine :
    let request := Bootstrapper.downloadRequest "https://rancher.local/cacerts" "nonce" "token"
    let hash := Integrity.responseHash "token" "nonce" [1]
    let reply : Reply := ⟨200, "OK", [("x-cattle-hash", hash)], [1]⟩
    let call := (Bootstrapper.caCerts { nonces := .supplied } GenuineServer.address "token" .cluster).run
      (GenuineServer.handler "token" [1] [2]) ()
    Exchange.Delivers ⟨.insecure, 5000⟩ request (spellings hash) reply ∧
      (⟨.get ⟨⟨.insecure, 5000⟩, 0⟩ request, .ok reply⟩ : Event Command Command.Answer) ∈ call.events ∧
      reply.headers.get? "x-cattle-hash" = some hash ∧ call.outcome = .ok (CaCerts.ofBody [1]) := by
  intro request hash reply call
  have delivers : Exchange.Delivers ⟨.insecure, 5000⟩ request (spellings hash) reply := delivers_spellings hash [1]
  have distinct : ((spellings hash).map Prod.fst).Nodup := by
    change ["X-Cattle-HASH", "X-CATTLE-hash", "x-cattle-hash"].Nodup
    decide
  have allowed : ∀ header ∈ spellings hash, Text.lower header.1 ≠ "__proto__" := by
    simp only [spellings, List.forall_mem_cons]
    exact ⟨by decide +kernel, by decide +kernel, by decide +kernel, fun header member => by cases member⟩
  have latest : Latest "x-cattle-hash" (spellings hash) (.single hash) := by
    refine .later (.here (by decide +kernel) nofun ?_)
    intro header member _
    cases List.mem_singleton.mp member
    rfl
  have member : (⟨.get ⟨⟨.insecure, 5000⟩, 0⟩ request, .ok reply⟩ : Event Command Command.Answer) ∈ call.events := by
    simp only [call]
    unfold Bootstrapper.caCerts
    rw [GenuineServer.caUrl_address]
    refine .tail _ (.tail _ (.tail _ (.tail _ (.tail _ (.tail _ ?_)))))
    exact .head _
  have calm : Transcript.Calm call.events := Program.calm_run (GenuineServer.calm "token" [1] [2]) () _
  obtain ⟨lookup, _, bootstrap⟩ := headers_found_in_any_spelling
  obtain ⟨nonce, sent, _, judges⟩ := bootstrap (GenuineServer.handler "token" [1] [2]) () { nonces := .supplied }
    GenuineServer.address "token" .cluster _ _ _ _ member rfl delivers distinct allowed
  obtain rfl : "nonce" = nonce := Option.some.inj sent
  obtain ⟨found, _⟩ := lookup _ _ _ _ delivers distinct allowed
  have shown := ((found "x-cattle-hash").2 hash).mpr ⟨_, latest, .single hash⟩
  exact ⟨delivers, member, shown, ((judges calm rfl).1 _ _ latest (.single hash)).1 rfl⟩

end JoinTrust
