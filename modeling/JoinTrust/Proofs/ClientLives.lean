import JoinTrust.Artifact
import JoinTrust.Proofs.RunEvidence

set_option autoImplicit false

/-!
The lives of clients. A client is made, sends one request and is closed before the next one is made. No
fault changes this order or leaves a client open, and a client that cannot be made ends the call. The
bounds are proved part by part, so that a procedure that is put together from others needs no argument of
its own.
-/

namespace JoinTrust

namespace Transcript

/-!
## Whole lives
-/

/-- Whole lives of clients, one after the other: each client is made, sends one request and is closed,
whatever comes of the request and of the closing. -/
inductive Lives : Nat → Transcript → Prop where
  | none : Lives 0 []
  | next {count : Nat} {options : ClientOptions} {serial : Nat} {request : Request}
      {answer : Except Thrown Reply} {closing : Except Thrown Unit} {rest : Transcript} :
      Lives count rest →
      Lives (count + 1)
        (⟨.create options, .ok serial⟩ :: ⟨.get ⟨options, serial⟩ request, answer⟩ ::
          ⟨.close ⟨options, serial⟩, closing⟩ :: rest)

/-- At most one client is open after a transcript, and it is the last one that was made. -/
def OneOpen (transcript : Transcript) : Prop :=
  ∃ standing, created transcript = closed transcript ++ standing ∧ standing.length ≤ 1

theorem Lives.append {first rest : Nat} {before after : Transcript} (lives : Lives first before)
    (later : Lives rest after) : Lives (first + rest) (before ++ after) := by
  induction lives with
  | none => simpa using later
  | next _ ih =>
      rw [Nat.add_right_comm]
      exact .next ih

theorem Lives.created_eq_closed {count : Nat} {calls : Transcript} (lives : Lives count calls) :
    created calls = closed calls := by
  induction lives with
  | none => rfl
  | next _ ih =>
      simp only [created, closed] at ih
      simp [created, closed, ih]

/-- No client is made while another one is open. -/
theorem Lives.oneOpen {count : Nat} {calls before : Transcript} (lives : Lives count calls)
    (within : before <+: calls) : OneOpen before := by
  induction lives generalizing before with
  | none =>
      obtain rfl := List.prefix_nil.mp within
      exact ⟨[], rfl, Nat.zero_le _⟩
  -- The moment is before the client is made, while it is open, or after it is closed.
  | @next _ options serial _ _ _ _ _ ih =>
      rcases List.prefix_cons_iff.mp within with rfl | ⟨_, rfl, made⟩
      · exact ⟨[], rfl, Nat.zero_le _⟩
      rcases List.prefix_cons_iff.mp made with rfl | ⟨_, rfl, sent⟩
      · exact ⟨[⟨options, serial⟩], rfl, Nat.le_refl _⟩
      rcases List.prefix_cons_iff.mp sent with rfl | ⟨_, rfl, ended⟩
      · exact ⟨[⟨options, serial⟩], rfl, Nat.le_refl _⟩
      obtain ⟨standing, same, few⟩ := ih ended
      simp only [created, closed] at same
      exact ⟨standing, by simp [created, closed, same], few⟩

/-!
## Calls and their clients
-/

/-- What a call does with clients, of which it makes at most so many. Each of them lives a whole life,
unless one cannot be made: then the call ends there, with what the maker threw. -/
inductive Tends {α : Type} (most : Nat) : Transcript → Except Thrown α → Prop where
  | whole {events : Transcript} {outcome : Except Thrown α} {count : Nat} :
      Lives count (about .client events) → count ≤ most → Tends most events outcome
  | unmade {events : Transcript} {options : ClientOptions} {thrown : Thrown} {count : Nat} :
      Lives count (about .client events) → count < most →
      Tends most (events ++ [⟨.create options, .error thrown⟩]) (.error thrown)

theorem created_about (transcript : Transcript) : created (about .client transcript) = created transcript := by
  refine filterMap_about ?_ transcript
  rintro ⟨op, answer⟩ other
  cases op with
  | create options => exact absurd rfl other
  | _ => rfl

theorem closed_about (transcript : Transcript) : closed (about .client transcript) = closed transcript := by
  refine filterMap_about ?_ transcript
  rintro ⟨op, answer⟩ other
  cases op with
  | close client => exact absurd rfl other
  | _ => rfl

variable {α β : Type} {most : Nat} {events : Transcript} {outcome : Except Thrown α}

/-- Who fails does not come to more clients than were allowed for. -/
theorem Tends.throw {fewer : Nat} {thrown : Thrown} (tends : Tends fewer events (.error thrown : Except Thrown α))
    (fits : fewer ≤ most) : Tends most events (.error thrown : Except Thrown β) := by
  cases tends with
  | whole lives bound => exact .whole lives (Nat.le_trans bound fits)
  | unmade lives bound => exact .unmade lives (Nat.lt_of_lt_of_le bound fits)

theorem Tends.append {first rest : Nat} {later : Transcript} {value : α} {ended : Except Thrown β}
    (tends : Tends first events (.ok value)) (further : Tends rest later ended) :
    Tends (first + rest) (events ++ later) ended := by
  cases tends with
  | whole lives bound =>
      cases further with
      | whole more others =>
          refine .whole ?_ (Nat.add_le_add bound others)
          rw [about_append]
          exact lives.append more
      | unmade more others =>
          rw [← List.append_assoc]
          refine .unmade ?_ (Nat.add_lt_add_of_le_of_lt bound others)
          rw [about_append]
          exact lives.append more

/-- Every moment of a call has at most one open client, and its end has none. -/
structure ClientsInTurn (most : Nat) (transcript : Transcript) (outcome : Except Thrown α) : Prop where
  tends : Tends most transcript outcome
  one {before : Transcript} : before <+: transcript → OneOpen before
  none : created transcript = closed transcript

private theorem oneOpen_of_lives {count : Nat} {before : Transcript}
    (lives : Lives count (about .client events)) (within : before <+: events) : OneOpen before := by
  have among : about .client before <+: about .client events := within.filter _
  obtain ⟨standing, same, few⟩ := lives.oneOpen among
  rw [created_about, closed_about] at same
  exact ⟨standing, same, few⟩

private theorem created_eq_closed_of_lives {count : Nat} (lives : Lives count (about .client events)) :
    created events = closed events := by
  rw [← created_about, ← closed_about]
  exact lives.created_eq_closed

theorem Tends.clientsInTurn (tends : Tends most events outcome) : ClientsInTurn most events outcome := by
  refine ⟨tends, ?_, ?_⟩
  · intro before within
    cases tends with
    | whole lives _ => exact oneOpen_of_lives lives within
    | unmade lives _ =>
        rcases List.prefix_concat_iff.mp within with rfl | within
        · refine ⟨[], ?_, Nat.zero_le _⟩
          have same := created_eq_closed_of_lives lives
          simp only [created, closed] at same
          simp [created, closed, same]
        · exact oneOpen_of_lives lives within
  · cases tends with
    | whole lives _ => exact created_eq_closed_of_lives lives
    | unmade lives _ =>
        have same := created_eq_closed_of_lives lives
        simp only [created, closed] at same
        simp [created, closed, same]

end Transcript

/-!
## Procedures
-/

namespace Procedure

variable {α β : Type} {most : Nat} {procedure : Procedure α}

/-- Every conversation of a procedure makes at most so many clients and tends them. -/
def Tends (most : Nat) (procedure : Procedure α) : Prop :=
  ∀ events outcome, procedure.Runs events outcome → Transcript.Tends most events outcome

theorem tends_of_keepsTo {topics : List Topic} (keeps : procedure.KeepsTo topics)
    (noClient : .client ∉ topics) : procedure.Tends most := by
  intro events outcome runs
  refine .whole ?_ (Nat.zero_le most)
  rw [Transcript.about_eq_nil (Transcript.lacks_of_keepsTo runs keeps noClient)]
  exact .none

theorem Tends.bind {first : Nat} {next : α → Procedure β} (tends : procedure.Tends first) (rest : Nat)
    (further : ∀ value, (next value).Tends rest) :
    Procedure.Tends (first + rest) (Program.bind procedure next) := by
  intro events outcome runs
  rcases Program.runs_bind_iff.mp runs with ⟨value, _, _, ran, continued, rfl⟩ | ⟨thrown, ran, rfl⟩
  · exact (tends _ _ ran).append (further value _ _ continued)
  · exact (tends _ _ ran).throw (Nat.le_add_right first rest)

theorem Tends.clientsInTurn {σ : Type} (tends : procedure.Tends most)
    (handler : Handler Command Command.Answer σ) (state : σ) :
    Transcript.ClientsInTurn most (procedure.run handler state).events
      (procedure.run handler state).outcome :=
  Transcript.Tends.clientsInTurn (tends _ _ (Program.runs_run handler state procedure))

/-- What keeps away from clients leaves all of them to the rest. -/
theorem Tends.after {topics : List Topic} {next : α → Procedure β} (keeps : procedure.KeepsTo topics)
    (noClient : .client ∉ topics) (further : ∀ value, (next value).Tends most) :
    Procedure.Tends most (Program.bind procedure next) := by
  have none : procedure.Tends 0 := tends_of_keepsTo keeps noClient
  rw [← Nat.zero_add most]
  exact none.bind most further

theorem Tends.before {topics : List Topic} {next : α → Procedure β} (tends : procedure.Tends most)
    (keeps : ∀ value, (next value).KeepsTo topics) (noClient : .client ∉ topics) :
    Procedure.Tends most (Program.bind procedure next) := by
  have none (value : α) : (next value).Tends 0 := tends_of_keepsTo (keeps value) noClient
  exact tends.bind 0 none

theorem Exchanged.tends {options : ClientOptions} {request : Request}
    {heard : Except Thrown Reply → Transcript → Except Thrown α → Prop} {events : Transcript}
    {outcome : Except Thrown α} (exchanged : Exchanged options request heard events outcome)
    (quiet : ∀ answer inner result, heard answer inner result → Transcript.Lacks .client inner) :
    Transcript.Tends 1 events outcome := by
  cases exchanged with
  | unmade =>
      have before : Transcript.Lives 0 (Transcript.about .client []) := .none
      exact .unmade before Nat.zero_lt_one
  | @made serial answer inner result closing follows =>
      have silent : Transcript.about .client inner = [] :=
        Transcript.about_eq_nil (quiet _ _ _ follows)
      refine .whole ?_ (Nat.le_refl 1)
      rw [Transcript.about_append]
      change Transcript.Lives 1 (_ :: _ :: Transcript.about .client inner ++ _)
      rw [silent]
      exact .next .none

end Procedure

variable {token url : String} {scope : Scope}

namespace Bootstrapper

theorem probe_tends (bootstrapper : Bootstrapper) : (bootstrapper.probe url scope).Tends 1 :=
  fun _ _ runs => (probed_of_runs runs).tends fun _ _ _ heard => probed_lacks heard (by decide)

theorem download_tends (bootstrapper : Bootstrapper) (nonce : String) :
    (bootstrapper.download url scope nonce token).Tends 1 :=
  fun _ _ runs => (downloaded_of_runs runs).tends fun _ _ _ heard => heard.lacks (by decide)

theorem caCerts_tends (bootstrapper : Bootstrapper) (server token : String) (scope : Scope) :
    (bootstrapper.caCerts server token scope).Tends 2 := by
  refine .after bootstrapper.nextNonce_keepsTo (by decide) fun nonce => ?_
  refine .after (.ofResult _) (List.not_mem_nil) fun url => ?_
  refine bootstrapper.probe_tends.bind 1 fun trusted => ?_
  -- A probe that was trusted is the end. Only the other answer needs a second client.
  cases trusted with
  | true => exact Procedure.tends_of_keepsTo trivial List.not_mem_nil
  | false => exact (bootstrapper.download_tends nonce).before (fun reply => conclude_keepsTo _) (by decide)

end Bootstrapper

theorem Artifact.anchor_tends (bootstrapper : Bootstrapper) (server token : String) :
    (Artifact.anchor bootstrapper server token).Tends 2 :=
  (bootstrapper.caCerts_tends server token .cluster).before (fun _ => trivial) List.not_mem_nil

namespace Fetcher

theorem establish_tends (fetcher : Fetcher) (server token : String) (scope : Scope) :
    (fetcher.establish server token scope).Tends 2 := by
  refine .after (fetcher.usedToken_keepsTo token scope) (by decide) fun resolved => ?_
  exact (fetcher.bootstrapper.caCerts_tends server _ scope).before (fun _ => trivial) List.not_mem_nil

theorem caCerts_tends (fetcher : Fetcher) (server token : String) (scope : Scope) :
    (fetcher.caCerts server token scope).Tends 2 :=
  (fetcher.establish_tends server token scope).before (fun _ => trivial) List.not_mem_nil

theorem plainGet_tends (fetcher : Fetcher) (url token : String) (scope : Scope) (trusted : CaCerts) :
    (fetcher.plainGet url token scope trusted).Tends 1 := by
  intro events outcome runs
  cases plainFetched_of_runs runs with
  | failed exchanged =>
      have asked := exchanged.tends fun _ _ _ told => told.lacks (by decide)
      exact asked.throw (Nat.le_refl 1)
  | answered exchanged =>
      have asked := exchanged.tends fun _ _ _ told => told.lacks (by decide)
      exact asked.append (.whole .none (Nat.le_refl 0))

theorem get_tends (fetcher : Fetcher) (server token path : String) (scope : Scope) :
    (fetcher.get server token path scope).Tends 3 := by
  refine .after (.ofResult _) List.not_mem_nil fun url => ?_
  refine (fetcher.establish_tends server token scope).bind 1 fun established => ?_
  cases established.resolved.hardwareBacked with
  | true => exact Procedure.tends_of_keepsTo (fetcher.hardwareGet_keepsTo url _) (by decide)
  | false => exact fetcher.plainGet_tends url _ scope _

end Fetcher

namespace Run

theorem gather_tends (fetcher : Fetcher) (settings : Settings) : (gather fetcher settings).Tends 3 := by
  unfold gather
  split
  · refine (fetcher.caCerts_tends _ _ _).bind 1 fun _ => ?_
    exact Procedure.tends_of_keepsTo trivial List.not_mem_nil
  · exact (fetcher.get_tends _ _ _ _).before (fun _ => trivial) List.not_mem_nil

theorem start_tends (fetcher : Fetcher) (loaded : Except Failure Settings) :
    (start fetcher loaded).Tends 3 := by
  refine .after (.ofResult loaded) List.not_mem_nil fun settings => ?_
  rw [withSettings_eq]
  have masks : (Procedure.print (.mask settings.token)).KeepsTo [.line] := .perform List.mem_cons_self
  refine .after masks (by decide) fun _ => ?_
  exact (gather_tends fetcher settings).before (deliver_keepsTo settings) (by decide)

end Run

open Transcript (ClientsInTurn)

/-- Whatever answers and whatever throws, a call makes one client after the other, sends one request over
each, closes it, and is left with none. A bootstrap makes at most two, and a fetch or a run at most three. -/
theorem clients_live_in_turn {σ : Type} (handler : Handler Command Command.Answer σ) (state : σ)
    (bootstrapper : Bootstrapper) (fetcher : Fetcher) (server token path : String) (scope : Scope)
    (loaded : Except Failure Settings) :
    (let call := (bootstrapper.caCerts server token scope).run handler state
     ClientsInTurn 2 call.events call.outcome) ∧
    (let call := (Artifact.anchor bootstrapper server token).run handler state
     ClientsInTurn 2 call.events call.outcome) ∧
    (let call := (fetcher.caCerts server token scope).run handler state
     ClientsInTurn 2 call.events call.outcome) ∧
    (let call := (fetcher.get server token path scope).run handler state
     ClientsInTurn 3 call.events call.outcome) ∧
    (let call := (Run.start fetcher loaded).run handler state
     ClientsInTurn 3 call.events call.outcome) := by
  refine ⟨?bootstrap, ?anchor, ?establish, ?fetch, ?run⟩
  case bootstrap => exact (bootstrapper.caCerts_tends server token scope).clientsInTurn handler state
  case anchor => exact (Artifact.anchor_tends bootstrapper server token).clientsInTurn handler state
  case establish => exact (fetcher.caCerts_tends server token scope).clientsInTurn handler state
  case fetch => exact (fetcher.get_tends server token path scope).clientsInTurn handler state
  case run => exact (Run.start_tends fetcher loaded).clientsInTurn handler state

end JoinTrust
