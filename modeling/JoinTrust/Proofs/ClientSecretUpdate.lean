import JoinTrust.ClientSecret
import JoinTrust.Proofs.Conversation
import JoinTrust.Proofs.SecretAddresses

set_option autoImplicit false

/-!
Bringing the client secret of a cluster up to date. An update either sets its two keys and tells so, or leaves the store
as it was. The audit trail comes after the write, and what it throws takes nothing back.
-/

namespace JoinTrust

namespace ClusterStore

variable {store : ClusterStore} {space name : String} {data : SecretData}

/-- Putting the data that a secret has changes nothing. -/
theorem putSecret_of_secret (held : store.secret space name = .ok data) : store.putSecret space name data = store := by
  rw [putSecret, Assoc.insert_of_get? (secret_eq_ok_iff.mp held)]

theorem secret_putSecret_self (store : ClusterStore) (space name : String) (data : SecretData) :
    (store.putSecret space name data).secret space name = .ok data := by
  rw [secret_eq_ok_iff, putSecret, Assoc.get?_insert, if_pos rfl]

theorem secret_putSecret_of_ne {otherSpace otherName : String}
    (apart : secretKey otherSpace otherName ≠ secretKey space name) :
    (store.putSecret space name data).secret otherSpace otherName = store.secret otherSpace otherName := by
  simp only [secret, putSecret, Assoc.get?_insert, if_neg apart]

theorem updateSecret_of_secret (held : store.secret space name = .ok data) (next : SecretData) :
    store.updateSecret space name next = .ok (store.putSecret space name next) := by
  rw [updateSecret, secret_eq_ok_iff.mp held]

end ClusterStore

namespace Program

variable {Op : Type} {Answer : Op → Type} {σ β : Type} {handler : Handler Op Answer σ} {before after : σ} {op : Op}

theorem run_perform_bind_of_ok {value : Answer op} {next : Answer op → Program Op Answer β}
    (answered : handler.answer before op = (after, .ok value)) :
    ((perform op).bind next).run handler before =
      ⟨((next value).run handler after).state, ⟨op, .ok value⟩ :: ((next value).run handler after).events,
        ((next value).run handler after).outcome⟩ := by
  rw [run_bind, run_perform, answered]
  rfl

theorem run_perform_bind_of_error {thrown : Thrown} {next : Answer op → Program Op Answer β}
    (answered : handler.answer before op = (after, .error thrown)) :
    ((perform op).bind next).run handler before = ⟨after, [⟨op, .error thrown⟩], .error thrown⟩ := by
  rw [run_bind, run_perform, answered]

end Program

namespace ClientSecret

/-!
## When an update is made
-/

/-- What an update needs: both settings say something, and there is a secret to update. -/
structure Ready (store : ClusterStore) (serverUrl roots : String) (data : SecretData) : Prop where
  serverUrlSet : store.setting serverUrlSetting = .ok serverUrl
  rootsSet : store.setting rootsSetting = .ok roots
  stated : serverUrl ≠ "" ∧ roots ≠ ""
  secret : store.secret space name = .ok data

/-- Why an update is not made. The settings are looked at before the secret. -/
inductive Refused (store : ClusterStore) : Thrown → Prop where
  | serverUrlMissing {thrown : Thrown} (missing : store.setting serverUrlSetting = .error thrown) :
      Refused store thrown
  | rootsMissing {serverUrl : String} {thrown : Thrown}
      (serverUrlSet : store.setting serverUrlSetting = .ok serverUrl)
      (missing : store.setting rootsSetting = .error thrown) : Refused store thrown
  | settingEmpty {serverUrl roots : String} (serverUrlSet : store.setting serverUrlSetting = .ok serverUrl)
      (rootsSet : store.setting rootsSetting = .ok roots) (empty : serverUrl = "" ∨ roots = "") :
      Refused store (.failure .clientSettingsMissing)
  | secretMissing {serverUrl roots : String} {thrown : Thrown}
      (serverUrlSet : store.setting serverUrlSetting = .ok serverUrl)
      (rootsSet : store.setting rootsSetting = .ok roots) (stated : serverUrl ≠ "" ∧ roots ≠ "")
      (missing : store.secret space name = .error thrown) : Refused store thrown

/-- The two keys of the secret are set; its other keys, all other secrets and the settings are what they were. -/
structure Sets (before after : ClusterStore) (serverUrl roots : String) (data : SecretData) : Prop where
  settings : ∀ setting, after.setting setting = before.setting setting
  others : ∀ otherSpace otherName, ¬ (otherSpace = space ∧ otherName = name) →
    after.secret otherSpace otherName = before.secret otherSpace otherName
  secret : ∃ next, after.secret space name = .ok next ∧
    next.get? "apiServerURL" = some (Text.Utf8.encode serverUrl) ∧
    next.get? "apiServerCA" = some (Text.Utf8.encode roots) ∧
    ∀ key, key ≠ "apiServerURL" → key ≠ "apiServerCA" → next.get? key = data.get? key

def writes (events : List (Event Operation Operation.Answer)) : List (String × String × SecretData) :=
  events.filterMap fun
    | ⟨.updateSecret space name data, _⟩ => some (space, name, data)
    | _ => none

variable {store : ClusterStore} {serverUrl roots : String} {data : SecretData} {thrown : Thrown}
  {sink : Audit.Entry → Option Thrown}

theorem ready_or_refused (store : ClusterStore) :
    (∃ serverUrl roots data, Ready store serverUrl roots data) ∨ ∃ thrown, Refused store thrown := by
  cases serverUrlSet : store.setting serverUrlSetting with
  | error thrown => exact .inr ⟨thrown, .serverUrlMissing serverUrlSet⟩
  | ok serverUrl =>
      cases rootsSet : store.setting rootsSetting with
      | error thrown => exact .inr ⟨thrown, .rootsMissing serverUrlSet rootsSet⟩
      | ok roots =>
          by_cases stated : serverUrl ≠ "" ∧ roots ≠ ""
          · cases secret : store.secret space name with
            | error thrown => exact .inr ⟨thrown, .secretMissing serverUrlSet rootsSet stated secret⟩
            | ok data => exact .inl ⟨serverUrl, roots, data, serverUrlSet, rootsSet, stated, secret⟩
          · exact .inr ⟨_, .settingEmpty serverUrlSet rootsSet (by simpa [or_iff_not_imp_left] using stated)⟩

/-!
## The secret after the write
-/

/-- Neither the namespace nor the name has a slash, so that no other pair shares the key of the secret. -/
theorem eq_of_secretKey_eq {otherSpace otherName : String}
    (same : ClusterStore.secretKey otherSpace otherName = ClusterStore.secretKey space name) :
    otherSpace = space ∧ otherName = name := by
  rcases (ClusterStore.pairKey_eq_iff (otherSpace, otherName) (space, name)).mp same with equal | overlaps | overlaps
  · exact Prod.mk.inj equal
  · obtain ⟨middle, extended, _⟩ := ClusterStore.overlaps_iff.mp overlaps
    have slash : '/' ∈ space.toList := by simp [extended]
    exact absurd slash (by decide)
  · obtain ⟨middle, _, extended⟩ := ClusterStore.overlaps_iff.mp overlaps
    have slash : '/' ∈ name.toList := by simp [extended]
    exact absurd slash (by decide)

theorem get?_updated (data : SecretData) (serverUrl roots key : String) :
    (updated data serverUrl roots).get? key =
      if key = "apiServerCA" then some (Text.Utf8.encode roots)
      else if key = "apiServerURL" then some (Text.Utf8.encode serverUrl) else data.get? key := by
  rw [updated, Assoc.get?_insert, Assoc.get?_insert]

/-- Setting the two keys to what they hold already changes nothing. -/
theorem updated_updated (data : SecretData) (serverUrl roots : String) :
    updated (updated data serverUrl roots) serverUrl roots = updated data serverUrl roots := by
  have urlHeld : (updated data serverUrl roots).get? "apiServerURL" = some (Text.Utf8.encode serverUrl) := by
    rw [get?_updated, if_neg (by decide), if_pos rfl]
  have rootsHeld : (updated data serverUrl roots).get? "apiServerCA" = some (Text.Utf8.encode roots) := by
    rw [get?_updated, if_pos rfl]
  calc updated (updated data serverUrl roots) serverUrl roots
      = ((updated data serverUrl roots).insert "apiServerURL" (Text.Utf8.encode serverUrl)).insert "apiServerCA"
          (Text.Utf8.encode roots) := rfl
    _ = (updated data serverUrl roots).insert "apiServerCA" (Text.Utf8.encode roots) := by
          rw [Assoc.insert_of_get? urlHeld]
    _ = updated data serverUrl roots := Assoc.insert_of_get? rootsHeld

/-- The store that an update leaves. -/
def written (store : ClusterStore) (serverUrl roots : String) (data : SecretData) : ClusterStore :=
  store.putSecret space name (updated data serverUrl roots)

theorem sets_written (store : ClusterStore) (serverUrl roots : String) (data : SecretData) :
    Sets store (written store serverUrl roots data) serverUrl roots data where
  settings name := rfl
  others otherSpace otherName elsewhere :=
    ClusterStore.secret_putSecret_of_ne fun same => elsewhere (eq_of_secretKey_eq same)
  secret := by
    refine ⟨updated data serverUrl roots, ClusterStore.secret_putSecret_self store space name _, ?_, ?_, ?_⟩
    · rw [get?_updated, if_neg (by decide), if_pos rfl]
    · rw [get?_updated, if_pos rfl]
    · intro key notUrl notRoots
      rw [get?_updated, if_neg notRoots, if_neg notUrl]

/-- What the update needs is still there after it, and the secret has the data that were written. -/
theorem Ready.written (ready : Ready store serverUrl roots data) :
    Ready (written store serverUrl roots data) serverUrl roots (updated data serverUrl roots) where
  serverUrlSet := ready.serverUrlSet
  rootsSet := ready.rootsSet
  stated := ready.stated
  secret := ClusterStore.secret_putSecret_self store space name _

theorem written_written (store : ClusterStore) (serverUrl roots : String) (data : SecretData) :
    ClientSecret.written (ClientSecret.written store serverUrl roots data) serverUrl roots
        (updated data serverUrl roots) =
      ClientSecret.written store serverUrl roots data := by
  have held := ClusterStore.secret_putSecret_self store space name (updated data serverUrl roots)
  rw [ClientSecret.written, updated_updated]
  exact ClusterStore.putSecret_of_secret held

/-!
## The two courses of an update
-/

/-- What the audit trail answers. -/
def heard (sink : Audit.Entry → Option Thrown) (entry : Audit.Entry) : Except Thrown Unit :=
  match sink entry with
  | some thrown => .error thrown
  | none => .ok ()

theorem answer_audit (sink : Audit.Entry → Option Thrown) (store : ClusterStore) (entry : Audit.Entry) :
    (handler sink).answer store (.audit entry) = (store, heard sink entry) := by
  simp only [handler, heard]
  cases sink entry <;> rfl

theorem answer_setting {name : String} {answer : Except Thrown String} (read : store.setting name = answer)
    (sink : Audit.Entry → Option Thrown) : (handler sink).answer store (.setting name) = (store, answer) :=
  congrArg (Prod.mk store) read

theorem answer_secret {space name : String} {answer : Except Thrown SecretData}
    (read : store.secret space name = answer) (sink : Audit.Entry → Option Thrown) :
    (handler sink).answer store (.secret space name) = (store, answer) :=
  congrArg (Prod.mk store) read

theorem answer_updateSecret {space name : String} (held : store.secret space name = .ok data) (next : SecretData)
    (sink : Audit.Entry → Option Thrown) :
    (handler sink).answer store (.updateSecret space name next) = (store.putSecret space name next, .ok ()) := by
  simp only [handler, ClusterStore.updateSecret_of_secret held]

/-- An update that is made: two settings and the secret are read, the secret is written, and only then the audit trail
hears of it. -/
theorem Ready.run_update (ready : Ready store serverUrl roots data) (sink : Audit.Entry → Option Thrown) :
    update.run (handler sink) store =
      ⟨ClientSecret.written store serverUrl roots data,
        [⟨.setting serverUrlSetting, .ok serverUrl⟩, ⟨.setting rootsSetting, .ok roots⟩, ⟨.secret space name, .ok data⟩,
          ⟨.updateSecret space name (updated data serverUrl roots), .ok ()⟩,
          ⟨.audit (entry serverUrl roots), heard sink (entry serverUrl roots)⟩],
        heard sink (entry serverUrl roots)⟩ := by
  have stated : ¬ (serverUrl.isEmpty ∨ roots.isEmpty) := by simpa using ready.stated
  simp only [update, perform, Program.bind_eq]
  rw [Program.run_perform_bind_of_ok (answer_setting ready.serverUrlSet sink),
    Program.run_perform_bind_of_ok (answer_setting ready.rootsSet sink), if_neg stated,
    Program.run_perform_bind_of_ok (answer_secret ready.secret sink),
    Program.run_perform_bind_of_ok (answer_updateSecret ready.secret _ sink), Program.run_perform, answer_audit]
  rfl

/-- An update that is not made only reads. -/
theorem Refused.run_update (refused : Refused store thrown) (sink : Audit.Entry → Option Thrown) :
    ∃ events, update.run (handler sink) store = ⟨store, events, .error thrown⟩ ∧ writes events = [] ∧
      entries events = [] := by
  simp only [update, perform, Program.bind_eq]
  cases refused with
  | serverUrlMissing missing =>
      rw [Program.run_perform_bind_of_error (answer_setting missing sink)]
      exact ⟨_, rfl, rfl, rfl⟩
  | rootsMissing serverUrlSet missing =>
      rw [Program.run_perform_bind_of_ok (answer_setting serverUrlSet sink),
        Program.run_perform_bind_of_error (answer_setting missing sink)]
      exact ⟨_, rfl, rfl, rfl⟩
  | @settingEmpty serverUrl roots serverUrlSet rootsSet empty =>
      have unstated : serverUrl.isEmpty ∨ roots.isEmpty := by simpa using empty
      rw [Program.run_perform_bind_of_ok (answer_setting serverUrlSet sink),
        Program.run_perform_bind_of_ok (answer_setting rootsSet sink), if_pos unstated]
      exact ⟨_, rfl, rfl, rfl⟩
  | @secretMissing serverUrl roots _ serverUrlSet rootsSet stated missing =>
      have said : ¬ (serverUrl.isEmpty ∨ roots.isEmpty) := by simpa using stated
      rw [Program.run_perform_bind_of_ok (answer_setting serverUrlSet sink),
        Program.run_perform_bind_of_ok (answer_setting rootsSet sink), if_neg said,
        Program.run_perform_bind_of_error (answer_secret missing sink)]
      exact ⟨_, rfl, rfl, rfl⟩

theorem heard_eq_error_iff {entry : Audit.Entry} : heard sink entry = .error thrown ↔ sink entry = some thrown := by
  unfold heard
  cases sink entry <;> simp

/-!
## Updates of any store
-/

theorem writes_ne_nil_iff (store : ClusterStore) (sink : Audit.Entry → Option Thrown) :
    writes (update.run (handler sink) store).events ≠ [] ↔
      ∃ serverUrl roots data, Ready store serverUrl roots data := by
  constructor
  · intro wrote
    rcases ready_or_refused store with ready | ⟨thrown, refused⟩
    · exact ready
    · obtain ⟨events, ran, silent, _⟩ := refused.run_update sink
      rw [ran] at wrote
      exact absurd silent wrote
  · rintro ⟨serverUrl, roots, data, ready⟩
    rw [ready.run_update]
    exact List.cons_ne_nil _ _

theorem Ready.sets (ready : Ready store serverUrl roots data) (sink : Audit.Entry → Option Thrown) :
    Sets store (update.run (handler sink) store).state serverUrl roots data ∧
      ∃ next, writes (update.run (handler sink) store).events = [(space, name, next)] ∧
        (update.run (handler sink) store).state.secret space name = .ok next := by
  rw [ready.run_update]
  exact ⟨sets_written store serverUrl roots data, updated data serverUrl roots, rfl, ready.written.secret⟩

/-- A rejection leaves the store as it was, unless the audit trail threw: then the whole write is done. -/
theorem rejected (failed : (update.run (handler sink) store).outcome = .error thrown) :
    (update.run (handler sink) store).state = store ∧ writes (update.run (handler sink) store).events = [] ∧
        entries (update.run (handler sink) store).events = [] ∨
      ∃ entry serverUrl roots data, entries (update.run (handler sink) store).events = [entry] ∧
        sink entry = some thrown ∧ Ready store serverUrl roots data ∧
        Sets store (update.run (handler sink) store).state serverUrl roots data := by
  rcases ready_or_refused store with ⟨serverUrl, roots, data, ready⟩ | ⟨other, refused⟩
  · apply Or.inr
    have sets := (ready.sets sink).1
    rw [ready.run_update] at failed sets ⊢
    exact ⟨entry serverUrl roots, serverUrl, roots, data, rfl, heard_eq_error_iff.mp failed, ready, sets⟩
  · apply Or.inl
    obtain ⟨events, ran, silent, quiet⟩ := refused.run_update sink
    rw [ran]
    exact ⟨rfl, silent, quiet⟩

/-- However the audit trail answers later on, a store that an update has left stays as it is under further updates. -/
theorem state_run_update_again (store : ClusterStore) (sink later : Audit.Entry → Option Thrown) :
    (update.run (handler later) (update.run (handler sink) store).state).state =
      (update.run (handler sink) store).state := by
  rcases ready_or_refused store with ⟨serverUrl, roots, data, ready⟩ | ⟨thrown, refused⟩
  · rw [ready.run_update, ready.written.run_update, written_written]
  · obtain ⟨_, ran, _⟩ := refused.run_update sink
    obtain ⟨_, ranAgain, _⟩ := refused.run_update later
    rw [ran, ranAgain]

theorem succeeded (done : (update.run (handler sink) store).outcome = .ok ()) :
    ∃ serverUrl roots data next octets, Ready store serverUrl roots data ∧
      (update.run (handler sink) store).state.secret space name = .ok next ∧
      next.get? "apiServerCA" = some octets ∧
      entries (update.run (handler sink) store).events =
        [.clientSecretUpdated (ClusterStore.secretKey space name) serverUrl (Integrity.checksum octets)] := by
  rcases ready_or_refused store with ⟨serverUrl, roots, data, ready⟩ | ⟨thrown, refused⟩
  · refine ⟨serverUrl, roots, data, updated data serverUrl roots, Text.Utf8.encode roots, ready, ?_, ?_, ?_⟩
    · rw [ready.run_update]
      exact ready.written.secret
    · rw [get?_updated, if_pos rfl]
    · rw [ready.run_update]
      rfl
  · obtain ⟨events, ran, _⟩ := refused.run_update sink
    rw [ran] at done
    cases done

theorem written_before_entry {before after : List (Event Operation Operation.Answer)} {entry : Audit.Entry}
    {answer : Except Thrown Unit}
    (split : (update.run (handler sink) store).events = before ++ ⟨.audit entry, answer⟩ :: after) :
    ∃ next, ⟨.updateSecret space name next, .ok ()⟩ ∈ before := by
  rcases ready_or_refused store with ⟨serverUrl, roots, data, ready⟩ | ⟨thrown, refused⟩
  · rw [ready.run_update] at split
    -- The entry is the fifth event and the write the fourth.
    rcases before with _ | ⟨first, _ | ⟨second, _ | ⟨third, _ | ⟨wrote, more⟩⟩⟩⟩
    · cases split
    · cases split
    · cases split
    · cases split
    · obtain ⟨_, _, _, rfl, _⟩ : _ ∧ _ ∧ _ ∧ _ ∧ _ := by simpa using split
      exact ⟨updated data serverUrl roots, by simp⟩
  · obtain ⟨events, ran, _, quiet⟩ := refused.run_update sink
    have same : events = _ := (congrArg Execution.events ran).symm.trans split
    simp [same, entries] at quiet

/-- Updates set two keys or nothing, for every store and every audit trail. The write is made exactly when it can be,
before its one entry, and a rejection by anything but the audit trail leaves the store as it was. -/
theorem updates_set_two_keys (store : ClusterStore) (sink : Audit.Entry → Option Thrown) :
    let execution := update.run (handler sink) store
    (writes execution.events ≠ [] ↔ ∃ serverUrl roots data, Ready store serverUrl roots data) ∧
    (∀ serverUrl roots data, Ready store serverUrl roots data → Sets store execution.state serverUrl roots data ∧
      ∃ next, writes execution.events = [(space, name, next)] ∧ execution.state.secret space name = .ok next) ∧
    (∀ thrown, execution.outcome = .error thrown →
      execution.state = store ∧ writes execution.events = [] ∧ entries execution.events = [] ∨
      ∃ entry serverUrl roots data, entries execution.events = [entry] ∧ sink entry = some thrown ∧
        Ready store serverUrl roots data ∧ Sets store execution.state serverUrl roots data) ∧
    (∀ later, (update.run (handler later) execution.state).state = execution.state) ∧
    (execution.outcome = .ok () → ∃ serverUrl roots data next octets, Ready store serverUrl roots data ∧
      execution.state.secret space name = .ok next ∧ next.get? "apiServerCA" = some octets ∧
      entries execution.events =
        [.clientSecretUpdated (ClusterStore.secretKey space name) serverUrl (Integrity.checksum octets)]) ∧
    ∀ before entry answer after, execution.events = before ++ ⟨.audit entry, answer⟩ :: after →
      ∃ next, ⟨.updateSecret space name next, .ok ()⟩ ∈ before :=
  ⟨writes_ne_nil_iff store sink, fun _ _ _ ready => ready.sets sink, fun _ => rejected,
    fun later => state_run_update_again store sink later, succeeded, fun _ _ _ _ => written_before_entry⟩

/-- A secret with a stale address and an audit trail that takes nothing: the write stays, and the next update tells of
it. -/
theorem updates_set_two_keys_unheard :
    let stale : SecretData := [("value", [1]), ("apiServerURL", [2])]
    let store : ClusterStore :=
      { settings := [("internal-server-url", "https://rancher.internal"), ("internal-cacerts", "roots")]
        secrets := [("fleet-local/local-kubeconfig", stale)] }
    let lost : Thrown := .error "Error" "audit sink failed"
    let execution := update.run (handler fun _ => some lost) store
    let again := update.run (handler fun _ => none) execution.state
    Ready store "https://rancher.internal" "roots" stale ∧ execution.outcome = .error lost ∧
      writes execution.events ≠ [] ∧ Sets store execution.state "https://rancher.internal" "roots" stale ∧
      (∃ entry, entries execution.events = [entry]) ∧ again.state = execution.state ∧ again.outcome = .ok () ∧
      ∃ entry, entries again.events = [entry] := by
  intro stale store lost execution again
  have ready : Ready store "https://rancher.internal" "roots" stale := ⟨rfl, rfl, by decide, rfl⟩
  have failed : execution.outcome = .error lost := congrArg Execution.outcome (ready.run_update _)
  have done : again.outcome = .ok () := by
    have left : execution.state = written store "https://rancher.internal" "roots" stale :=
      congrArg Execution.state (ready.run_update _)
    simp only [again, left, ready.written.run_update]
    rfl
  obtain ⟨made, sets, rejects, idle, _, _⟩ := updates_set_two_keys store fun _ => some lost
  obtain ⟨_, _, _, _, _, _, _, _, told⟩ := (updates_set_two_keys execution.state fun _ => none).2.2.2.2.1 done
  have wrote : writes execution.events ≠ [] := made.mpr ⟨_, _, _, ready⟩
  refine ⟨ready, failed, wrote, (sets _ _ _ ready).1, ?_, idle _, done, _, told⟩
  rcases rejects lost failed with ⟨_, silent, _⟩ | ⟨entry, _, _, _, one, _⟩
  · exact absurd silent wrote
  · exact ⟨entry, one⟩

end ClientSecret

end JoinTrust
