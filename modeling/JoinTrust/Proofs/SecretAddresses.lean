import JoinTrust.ClusterStore
import JoinTrust.Proofs.Associations
import Mathlib.Data.List.Induction
import Mathlib.Logic.Function.Basic

set_option autoImplicit false

/-!
The store of settings and secrets beside one whose secrets lie at their namespace and name. The store joins the two to
one text, and so it is the other one only where no two different pairs in use are joined to the same text.
-/

namespace JoinTrust

namespace ClusterStore

/-!
## Operations
-/

inductive Operation where
  | setSetting (name value : String)
  | setting (name : String)
  | putSecret (space name : String) (data : SecretData)
  | secret (space name : String)
  | updateSecret (space name : String) (data : SecretData)

inductive Answer where
  | done
  | setting (value : String)
  | secret (data : SecretData)

/-- The namespace and the name of the secret that an operation is about. -/
def Operation.pair? : Operation → Option (String × String)
  | .setSetting _ _ => none
  | .setting _ => none
  | .putSecret space name _ => some (space, name)
  | .secret space name => some (space, name)
  | .updateSecret space name _ => some (space, name)

def pairKey (pair : String × String) : String :=
  secretKey pair.1 pair.2

def step (store : ClusterStore) : Operation → ClusterStore × Except Thrown Answer
  | .setSetting name value => (store.setSetting name value, .ok .done)
  | .setting name => (store, (store.setting name).map .setting)
  | .putSecret space name data => (store.putSecret space name data, .ok .done)
  | .secret space name => (store, (store.secret space name).map .secret)
  | .updateSecret space name data =>
    match store.updateSecret space name data with
    | .ok updated => (updated, .ok .done)
    | .error thrown => (store, .error thrown)

def outcomes (store : ClusterStore) : List Operation → List (Except Thrown Answer)
  | [] => []
  | operation :: rest => (store.step operation).2 :: outcomes (store.step operation).1 rest

def after (store : ClusterStore) (operations : List Operation) : ClusterStore :=
  operations.foldl (fun store operation => (store.step operation).1) store

/-!
## Ledgers
-/

/-- A store as two maps: settings under their names, secrets at addresses. -/
structure Ledger (Address : Type) where
  settings : String → Option String := fun _ => none
  secrets : Address → Option SecretData := fun _ => none

namespace Ledger

variable {Address : Type} [DecidableEq Address] (address : String × String → Address)

def step (ledger : Ledger Address) : Operation → Ledger Address × Except Thrown Answer
  | .setSetting name value =>
    ({ ledger with settings := Function.update ledger.settings name (some value) }, .ok .done)
  | .setting name =>
    match ledger.settings name with
    | some value => (ledger, .ok (.setting value))
    | none => (ledger, .error (missingSetting name))
  | .putSecret space name data =>
    ({ ledger with secrets := Function.update ledger.secrets (address (space, name)) (some data) }, .ok .done)
  | .secret space name =>
    match ledger.secrets (address (space, name)) with
    | some data => (ledger, .ok (.secret data))
    | none => (ledger, .error (missingSecret space name))
  | .updateSecret space name data =>
    match ledger.secrets (address (space, name)) with
    | some _ =>
      ({ ledger with secrets := Function.update ledger.secrets (address (space, name)) (some data) }, .ok .done)
    | none => (ledger, .error (missingSecret space name))

def outcomes (ledger : Ledger Address) : List Operation → List (Except Thrown Answer)
  | [] => []
  | operation :: rest =>
    (step address ledger operation).2 :: outcomes (step address ledger operation).1 rest

def after (ledger : Ledger Address) (operations : List Operation) : Ledger Address :=
  operations.foldl (fun ledger operation => (step address ledger operation).1) ledger

end Ledger

/-!
## The store mirrors a ledger
-/

variable {Address : Type} [DecidableEq Address] {address : String × String → Address} {known : String × String → Prop}
  {store : ClusterStore} {ledger : Ledger Address}

/-- The store holds what the ledger does, as far as the secrets of the known pairs go. -/
structure Mirrors (address : String × String → Address) (known : String × String → Prop) (store : ClusterStore)
    (ledger : Ledger Address) : Prop where
  settings : ∀ name, store.settings.get? name = ledger.settings name
  secrets : ∀ pair, known pair → store.secrets.get? (pairKey pair) = ledger.secrets (address pair)

/-- Known pairs share an address where they share a key, and nowhere else. -/
def Faithful (address : String × String → Address) (known : String × String → Prop) : Prop :=
  ∀ left right, known left → known right → (address left = address right ↔ pairKey left = pairKey right)

omit [DecidableEq Address] in
theorem Mirrors.setSetting (mirrors : Mirrors address known store ledger) (name value : String) :
    Mirrors address known (store.setSetting name value)
      { ledger with settings := Function.update ledger.settings name (some value) } where
  settings other := by
    simp only [ClusterStore.setSetting, Assoc.get?_insert, Function.update_apply, mirrors.settings]
  secrets := mirrors.secrets

theorem Mirrors.putSecret (mirrors : Mirrors address known store ledger) (faithful : Faithful address known)
    {space name : String} (here : known (space, name)) (data : SecretData) :
    Mirrors address known (store.putSecret space name data)
      { ledger with secrets := Function.update ledger.secrets (address (space, name)) (some data) } where
  settings := mirrors.settings
  secrets pair there := by
    have shared := faithful pair (space, name) there here
    simp only [ClusterStore.putSecret, Assoc.get?_insert, Function.update_apply, shared, mirrors.secrets pair there]
    rfl

/-- One step has the same outcome on either side and keeps the two in line. -/
theorem Mirrors.step (mirrors : Mirrors address known store ledger) (faithful : Faithful address known)
    {operation : Operation} (about : ∀ pair ∈ operation.pair?, known pair) :
    (store.step operation).2 = (ledger.step address operation).2 ∧
      Mirrors address known (store.step operation).1 (ledger.step address operation).1 := by
  cases operation with
  | setSetting name value => exact ⟨rfl, mirrors.setSetting name value⟩
  | putSecret space name data => exact ⟨rfl, mirrors.putSecret faithful (about _ rfl) data⟩
  | setting name =>
      have held := mirrors.settings name
      cases read : ledger.settings name with
      | none => simpa [ClusterStore.step, Ledger.step, setting, held, read, Except.map] using mirrors
      | some value => simpa [ClusterStore.step, Ledger.step, setting, held, read, Except.map] using mirrors
  | secret space name =>
      have held := mirrors.secrets (space, name) (about _ rfl)
      rw [pairKey] at held
      cases read : ledger.secrets (address (space, name)) with
      | none => simpa [ClusterStore.step, Ledger.step, secret, held, read, Except.map] using mirrors
      | some data => simpa [ClusterStore.step, Ledger.step, secret, held, read, Except.map] using mirrors
  | updateSecret space name data =>
      have held := mirrors.secrets (space, name) (about _ rfl)
      rw [pairKey] at held
      cases read : ledger.secrets (address (space, name)) with
      | none => simpa [ClusterStore.step, Ledger.step, updateSecret, held, read] using mirrors
      | some before =>
          simpa [ClusterStore.step, Ledger.step, updateSecret, held, read] using
            mirrors.putSecret faithful (about _ rfl) data

theorem Mirrors.outcomes (mirrors : Mirrors address known store ledger) (faithful : Faithful address known)
    (operations : List Operation) (about : ∀ operation ∈ operations, ∀ pair ∈ operation.pair?, known pair) :
    store.outcomes operations = ledger.outcomes address operations := by
  induction operations generalizing store ledger with
  | nil => rfl
  | cons operation rest ih =>
      rw [List.forall_mem_cons] at about
      obtain ⟨same, kept⟩ := mirrors.step faithful about.1
      rw [ClusterStore.outcomes, Ledger.outcomes, same, ih kept about.2]

theorem Mirrors.after (mirrors : Mirrors address known store ledger) (faithful : Faithful address known)
    (operations : List Operation) (about : ∀ operation ∈ operations, ∀ pair ∈ operation.pair?, known pair) :
    Mirrors address known (store.after operations) (ledger.after address operations) := by
  induction operations generalizing store ledger with
  | nil => exact mirrors
  | cons operation rest ih =>
      rw [List.forall_mem_cons] at about
      exact ih (mirrors.step faithful about.1).2 about.2

omit [DecidableEq Address] in
theorem Mirrors.empty (address : String × String → Address) (known : String × String → Prop) :
    Mirrors address known {} {} where
  settings _ := rfl
  secrets _ _ := rfl

/-!
## The last write counts
-/

/-- A secret's data after some operations: the last put or successful update wrote them. An update succeeds once the
secret was put. -/
def LastWritten (operations : List Operation) (space name : String) (data : SecretData) : Prop :=
  ∃ before write later, operations = before ++ write :: later ∧
    (write = .putSecret space name data ∨
      write = .updateSecret space name data ∧ ∃ first, .putSecret space name first ∈ before) ∧
    ∀ operation ∈ later, ∀ other,
      operation ≠ .putSecret space name other ∧ operation ≠ .updateSecret space name other

theorem lastWritten_append_singleton {before : List Operation} {last : Operation} {space name : String}
    {data : SecretData} :
    LastWritten (before ++ [last]) space name data ↔
      (last = .putSecret space name data ∨
        last = .updateSecret space name data ∧ ∃ first, .putSecret space name first ∈ before) ∨
      LastWritten before space name data ∧
        ∀ other, last ≠ .putSecret space name other ∧ last ≠ .updateSecret space name other := by
  constructor
  · rintro ⟨start, write, later, split, wrote, quiet⟩
    -- The last operation is the write or comes after it.
    rcases List.eq_nil_or_concat later with rfl | ⟨later, final, rfl⟩
    · obtain ⟨rfl, same⟩ := List.append_inj' split rfl
      cases same
      exact .inl wrote
    · rw [List.concat_eq_append, ← List.cons_append, ← List.append_assoc] at split
      obtain ⟨rfl, same⟩ := List.append_inj' split rfl
      cases same
      exact .inr ⟨⟨start, write, later, rfl, wrote, fun operation member => quiet operation (by simp [member])⟩,
        quiet last (by simp)⟩
  · rintro (wrote | ⟨⟨start, write, later, rfl, wrote, quiet⟩, silent⟩)
    · exact ⟨before, last, [], rfl, wrote, by simp⟩
    · refine ⟨start, write, later ++ [last], by simp, wrote, ?_⟩
      intro operation member
      rcases List.mem_append.mp member with earlier | final
      · exact quiet operation earlier
      · rw [List.mem_singleton.mp final]
        exact silent

namespace Ledger

theorem after_append_singleton (operations : List Operation) (last : Operation) (ledger : Ledger Address) :
    after address ledger (operations ++ [last]) = (step address (after address ledger operations) last).1 := by
  rw [after, after, List.foldl_append]
  rfl

theorem secrets_step (ledger : Ledger (String × String)) (operation : Operation) (space name : String) :
    (step id ledger operation).1.secrets (space, name) =
      match operation with
      | .putSecret otherSpace otherName data =>
        if otherSpace = space ∧ otherName = name then some data else ledger.secrets (space, name)
      | .updateSecret otherSpace otherName data =>
        if (otherSpace = space ∧ otherName = name) ∧ (ledger.secrets (space, name)).isSome then some data
        else ledger.secrets (space, name)
      | _ => ledger.secrets (space, name) := by
  cases operation with
  | setSetting name value => rfl
  | setting name => cases read : ledger.settings name <;> simp [step, read]
  | secret space name => cases read : ledger.secrets (space, name) <;> simp [step, read]
  | putSecret otherSpace otherName data =>
      simp only [step, id, Function.update_apply, Prod.mk.injEq, eq_comm]
  | updateSecret otherSpace otherName data =>
      by_cases here : otherSpace = space ∧ otherName = name
      · obtain ⟨rfl, rfl⟩ := here
        cases read : ledger.secrets (otherSpace, otherName) <;> simp [step, read]
      · have elsewhere : ¬ (space = otherSpace ∧ name = otherName) := fun same => here ⟨same.1.symm, same.2.symm⟩
        cases read : ledger.secrets (otherSpace, otherName) <;> simp [step, read, here, elsewhere]

/-- A secret is there once it was put. -/
theorem isSome_secrets_after (operations : List Operation) (space name : String) :
    ((after id {} operations).secrets (space, name)).isSome = true ↔
      ∃ first, .putSecret space name first ∈ operations := by
  induction operations using List.reverseRecOn with
  | nil => simp [after]
  | append_singleton before last ih =>
      rw [after_append_singleton, secrets_step]
      cases last with
      | putSecret otherSpace otherName data =>
          by_cases here : otherSpace = space ∧ otherName = name
          · simp [here]
          · have elsewhere : ∀ first, Operation.putSecret space name first ≠ .putSecret otherSpace otherName data := by
              rintro first same
              cases same
              exact here ⟨rfl, rfl⟩
            simp only [if_neg here, ih, List.mem_append, List.mem_singleton, elsewhere, or_false]
      | updateSecret otherSpace otherName data =>
          have unput : (∃ first, .putSecret space name first ∈ before ++ [.updateSecret otherSpace otherName data]) ↔
              ∃ first, .putSecret space name first ∈ before := by
            simp
          rw [unput, ← ih]
          by_cases here : otherSpace = space ∧ otherName = name
          · cases (after id {} before).secrets (space, name) <;> simp [here]
          · simp [here]
      | _ => simpa using ih

theorem secrets_after_iff (operations : List Operation) (space name : String) (data : SecretData) :
    (after id {} operations).secrets (space, name) = some data ↔ LastWritten operations space name data := by
  -- From the end, where the last write is the first to be met.
  induction operations using List.reverseRecOn with
  | nil => simp [after, LastWritten]
  | append_singleton before last ih =>
      rw [after_append_singleton, secrets_step, lastWritten_append_singleton, ← ih,
        ← isSome_secrets_after before space name]
      cases last with
      | putSecret otherSpace otherName held =>
          by_cases here : otherSpace = space ∧ otherName = name
          · simp [here]
          · simp [here, ← and_assoc]
      | updateSecret otherSpace otherName held =>
          by_cases here : otherSpace = space ∧ otherName = name
          · simp [here]
            cases (after id {} before).secrets (space, name) <;> simp
          · simp [here, ← and_assoc]
      | _ => simp

end Ledger

/-!
## Pairs with one key
-/

/-- The namespace on the right goes on after the one on the left, and with it begins the name on the left. -/
def Overlaps (left right : String × String) : Prop :=
  ∃ middle, right.1 = left.1 ++ "/" ++ middle ∧ left.2 = middle ++ "/" ++ right.2

theorem append_cons_eq_iff {α : Type} {mark : α} {before after start rest : List α} :
    before ++ mark :: after = start ++ mark :: rest ↔
      (before = start ∧ after = rest) ∨ (∃ middle, start = before ++ mark :: middle ∧ after = middle ++ mark :: rest) ∨
        ∃ middle, before = start ++ mark :: middle ∧ rest = middle ++ mark :: after := by
  constructor
  · intro same
    rcases List.append_eq_append_iff.mp same with ⟨gap, rfl, joined⟩ | ⟨gap, rfl, joined⟩
    · cases gap with
      | nil => exact .inl ⟨by simp, by simpa using joined⟩
      | cons first middle =>
          obtain ⟨rfl, rfl⟩ := List.cons.inj joined
          exact .inr (.inl ⟨middle, rfl, rfl⟩)
    · cases gap with
      | nil => exact .inl ⟨by simp, by simpa using joined.symm⟩
      | cons first middle =>
          obtain ⟨rfl, rfl⟩ := List.cons.inj joined
          exact .inr (.inr ⟨middle, rfl, rfl⟩)
  · rintro (⟨rfl, rfl⟩ | ⟨middle, rfl, rfl⟩ | ⟨middle, rfl, rfl⟩) <;> simp

theorem toList_joined (before after : String) :
    (before ++ "/" ++ after).toList = before.toList ++ '/' :: after.toList := by
  rw [String.toList_append, String.toList_append, List.append_assoc]
  rfl

theorem overlaps_iff {left right : String × String} :
    Overlaps left right ↔
      ∃ middle, right.1.toList = left.1.toList ++ '/' :: middle ∧ left.2.toList = middle ++ '/' :: right.2.toList := by
  constructor
  · rintro ⟨middle, space, name⟩
    exact ⟨middle.toList, by rw [space, toList_joined], by rw [name, toList_joined]⟩
  · rintro ⟨middle, space, name⟩
    refine ⟨String.ofList middle, String.toList_inj.mp ?_, String.toList_inj.mp ?_⟩
    · rw [space, toList_joined, String.toList_ofList]
    · rw [name, toList_joined, String.toList_ofList]

theorem pairKey_eq_iff (left right : String × String) :
    pairKey left = pairKey right ↔ left = right ∨ Overlaps left right ∨ Overlaps right left := by
  simp only [pairKey, secretKey, ← String.toList_inj, toList_joined, append_cons_eq_iff, overlaps_iff, Prod.ext_iff]

def pairs (operations : List Operation) : List (String × String) :=
  operations.filterMap Operation.pair?

/-- No two different pairs of the operations share a key. -/
def Unmixed (operations : List Operation) : Prop :=
  ∀ left ∈ pairs operations, ∀ right ∈ pairs operations, pairKey left = pairKey right → left = right

instance decidableUnmixed (operations : List Operation) : Decidable (Unmixed operations) :=
  inferInstanceAs (Decidable (∀ left ∈ pairs operations, ∀ right ∈ pairs operations, _ → _))

theorem Unmixed.faithful {operations : List Operation} (unmixed : Unmixed operations) :
    Faithful id (· ∈ pairs operations) :=
  fun left right leftUsed rightUsed => ⟨congrArg pairKey, unmixed left leftUsed right rightUsed⟩

theorem mem_pairs (operations : List Operation) :
    ∀ operation ∈ operations, ∀ pair ∈ operation.pair?, pair ∈ pairs operations :=
  fun operation member _ about => List.mem_filterMap.mpr ⟨operation, member, about⟩

/-- Namespaces without a slash are enough, and so are names without one. -/
theorem unmixed_of_plain {operations : List Operation}
    (plain : (∀ pair ∈ pairs operations, '/' ∉ pair.1.toList) ∨ ∀ pair ∈ pairs operations, '/' ∉ pair.2.toList) :
    Unmixed operations := by
  have apart : ∀ left ∈ pairs operations, ∀ right ∈ pairs operations, ¬ Overlaps left right := by
    intro left leftUsed right rightUsed overlaps
    obtain ⟨middle, space, name⟩ := overlaps_iff.mp overlaps
    rcases plain with spaces | names
    · exact spaces right rightUsed (by simp [space])
    · exact names left leftUsed (by simp [name])
  intro left leftUsed right rightUsed same
  rcases (pairKey_eq_iff left right).mp same with equal | overlaps | overlaps
  · exact equal
  · exact absurd overlaps (apart left leftUsed right rightUsed)
  · exact absurd overlaps (apart right rightUsed left leftUsed)

/-- Of two pairs with one key, what is put under the one is read under the other. -/
theorem outcomes_of_shared_key (left right : String × String) (data : SecretData) (different : left ≠ right)
    (shared : pairKey left = pairKey right) :
    outcomes {} [.putSecret left.1 left.2 data, .secret right.1 right.2] = [.ok .done, .ok (.secret data)] ∧
      Ledger.outcomes id {} [.putSecret left.1 left.2 data, .secret right.1 right.2] =
        [.ok .done, .error (missingSecret right.1 right.2)] := by
  constructor
  · have key : secretKey right.1 right.2 = secretKey left.1 left.2 := shared.symm
    simp [outcomes, step, putSecret, secret, key, Assoc.get?_insert, Except.map]
  · simp [Ledger.outcomes, Ledger.step, Ne.symm different]

/-!
## What an operation leaves alone
-/

theorem step_eq_of_error {operation : Operation} {thrown : Thrown} (failed : (store.step operation).2 = .error thrown) :
    (store.step operation).1 = store := by
  cases operation with
  | setSetting name value => cases failed
  | setting name => rfl
  | putSecret space name data => cases failed
  | secret space name => rfl
  | updateSecret space name data =>
      unfold step at failed ⊢
      dsimp only at failed ⊢
      split at failed
      · cases failed
      · rfl

/-- The three things that may become of a store. -/
theorem step_cases (store : ClusterStore) (operation : Operation) :
    (store.step operation).1 = store ∨
      (∃ name value, operation = .setSetting name value ∧ (store.step operation).1 = store.setSetting name value) ∨
      ∃ space name data, operation.pair? = some (space, name) ∧
        (store.step operation).1 = store.putSecret space name data := by
  cases operation with
  | setSetting name value => exact .inr (.inl ⟨name, value, rfl, rfl⟩)
  | setting name => exact .inl rfl
  | putSecret space name data => exact .inr (.inr ⟨space, name, data, rfl, rfl⟩)
  | secret space name => exact .inl rfl
  | updateSecret space name data =>
      cases held : store.secrets.get? (secretKey space name) with
      | none => exact .inl (by simp only [step, updateSecret, held])
      | some before => exact .inr (.inr ⟨space, name, data, rfl, by simp only [step, updateSecret, held]⟩)

theorem setting_step {operation : Operation} {name : String} (other : ∀ value, operation ≠ .setSetting name value) :
    (store.step operation).1.setting name = store.setting name := by
  rcases step_cases store operation with same | ⟨set, value, rfl, next⟩ | ⟨space, secretName, data, _, next⟩
  · rw [same]
  · have elsewhere : name ≠ set := fun same => other value (same ▸ rfl)
    simp only [next, setSetting, setting, Assoc.get?_insert, if_neg elsewhere]
  · rw [next]
    rfl

theorem secret_step {operation : Operation} {space name : String}
    (other : ∀ pair ∈ operation.pair?, pairKey pair ≠ secretKey space name) :
    (store.step operation).1.secret space name = store.secret space name := by
  rcases step_cases store operation with same | ⟨set, value, _, next⟩ | ⟨otherSpace, otherName, data, about, next⟩
  · rw [same]
  · rw [next]
    rfl
  · have elsewhere : secretKey space name ≠ secretKey otherSpace otherName := Ne.symm (other _ about)
    simp only [next, putSecret, secret, Assoc.get?_insert, if_neg elsewhere]

/-!
## The store of all sequences of operations
-/

theorem secret_eq_ok_iff {space name : String} {data : SecretData} :
    store.secret space name = .ok data ↔ store.secrets.get? (secretKey space name) = some data := by
  unfold secret
  cases store.secrets.get? (secretKey space name) <;> simp

/-- The secret of a pair stands where the ledger has it, unless the pair shares its key with another one. -/
theorem get?_secrets_after {operations : List Operation} {operation : Operation} {space name : String}
    (about : operation.pair? = some (space, name)) (unmixed : Unmixed (operation :: operations)) :
    (after {} operations).secrets.get? (secretKey space name) =
      (Ledger.after id {} operations).secrets (space, name) := by
  have used := mem_pairs (operation :: operations)
  have mirrors := (Mirrors.empty id _).after unmixed.faithful operations fun other member =>
    used other (List.mem_cons_of_mem _ member)
  exact mirrors.secrets (space, name) (used _ List.mem_cons_self _ about)

theorem secret_after_iff {operations : List Operation} {space name : String} {data : SecretData}
    (unmixed : Unmixed (.secret space name :: operations)) :
    (after {} operations).secret space name = .ok data ↔ LastWritten operations space name data := by
  rw [secret_eq_ok_iff, get?_secrets_after rfl unmixed, Ledger.secrets_after_iff]

theorem step_updateSecret_of_unput {operations : List Operation} {space name : String} {data : SecretData}
    (unmixed : Unmixed (.updateSecret space name data :: operations))
    (unput : ∀ first, .putSecret space name first ∉ operations) :
    (after {} operations).step (.updateSecret space name data) =
      (after {} operations, .error (missingSecret space name)) := by
  have missing : (after {} operations).secrets.get? (secretKey space name) = none := by
    rw [get?_secrets_after rfl unmixed, ← Option.not_isSome_iff_eq_none, Ledger.isSome_secrets_after]
    exact fun ⟨first, put⟩ => unput first put
  simp only [step, updateSecret, missing]

/-- What the store is over a sequence of operations: one whose secrets lie at the joined text of namespace and name. -/
structure JoinsPairs (operations : List Operation) : Prop where
  joined : outcomes {} operations = Ledger.outcomes pairKey {} operations
  /-- Where no two pairs in use share a text, the secrets might as well lie at the pairs themselves. -/
  paired : Unmixed operations → outcomes {} operations = Ledger.outcomes id {} operations
  read : ∀ space name data, Unmixed (.secret space name :: operations) →
    ((after {} operations).secret space name = .ok data ↔ LastWritten operations space name data)
  unput : ∀ space name data, Unmixed (.updateSecret space name data :: operations) →
    (∀ first, .putSecret space name first ∉ operations) →
    (after {} operations).step (.updateSecret space name data) =
      (after {} operations, .error (missingSecret space name))
  failed : ∀ (store : ClusterStore) operation thrown, (store.step operation).2 = .error thrown →
    (store.step operation).1 = store
  otherSetting : ∀ (store : ClusterStore) operation name, (∀ value, operation ≠ .setSetting name value) →
    (store.step operation).1.setting name = store.setting name
  otherSecret : ∀ (store : ClusterStore) operation space name,
    (∀ pair ∈ operation.pair?, pairKey pair ≠ secretKey space name) →
    (store.step operation).1.secret space name = store.secret space name
  shared : ∀ left right, pairKey left = pairKey right ↔ left = right ∨ Overlaps left right ∨ Overlaps right left
  plain : (∀ pair ∈ pairs operations, '/' ∉ pair.1.toList) ∨ (∀ pair ∈ pairs operations, '/' ∉ pair.2.toList) →
    Unmixed operations
  /-- Any two pairs that share a text are mixed up. -/
  mixed : ∀ left right data, left ≠ right → pairKey left = pairKey right →
    outcomes {} [.putSecret left.1 left.2 data, .secret right.1 right.2] = [.ok .done, .ok (.secret data)] ∧
    Ledger.outcomes id {} [.putSecret left.1 left.2 data, .secret right.1 right.2] =
      [.ok .done, .error (missingSecret right.1 right.2)]

theorem secrets_lie_at_joined_pairs (operations : List Operation) : JoinsPairs operations where
  joined :=
    -- One lemma for both ledgers: by its joined texts every pair is known, by the pairs themselves those in use are.
    (Mirrors.empty pairKey fun _ => True).outcomes (fun _ _ _ _ => Iff.rfl) operations fun _ _ _ _ => trivial
  paired := fun unmixed => (Mirrors.empty id _).outcomes unmixed.faithful operations (mem_pairs operations)
  read := fun _ _ _ => secret_after_iff
  unput := fun _ _ _ => step_updateSecret_of_unput
  failed := fun _ _ _ => step_eq_of_error
  otherSetting := fun _ _ _ => setting_step
  otherSecret := fun _ _ _ _ => secret_step
  shared := pairKey_eq_iff
  plain := unmixed_of_plain
  mixed := outcomes_of_shared_key

/-- Two clusters with a secret of one name, one of them brought up to date, and a third that has none. -/
theorem secrets_lie_at_joined_pairs_fleet :
    let operations : List Operation :=
      [.putSecret "fleet" "local" [("k", [1])], .updateSecret "fleet" "local" [("k", [2])],
        .putSecret "other" "local" [("k", [3])], .setSetting "local" "on"]
    let store := after {} operations
    let update : Operation := .updateSecret "third" "local" []
    Unmixed operations ∧ outcomes {} operations = Ledger.outcomes id {} operations ∧
      LastWritten operations "fleet" "local" [("k", [2])] ∧ store.secret "fleet" "local" = .ok [("k", [2])] ∧
      Unmixed (update :: operations) ∧ (store.step update).2 = .error (missingSecret "third" "local") ∧
      (store.step update).1 = store ∧
      (store.step update).1.setting "local" = store.setting "local" ∧
      (store.step update).1.secret "fleet" "local" = store.secret "fleet" "local" ∧
      ("a/b", "c") ≠ ("a", "b/c") ∧ pairKey ("a/b", "c") = pairKey ("a", "b/c") ∧
      outcomes {} [.putSecret "a/b" "c" [("k", [1])], .secret "a" "b/c"] = [.ok .done, .ok (.secret [("k", [1])])] := by
  intro operations store update
  have laws := secrets_lie_at_joined_pairs operations
  have unmixed : Unmixed operations := laws.plain (.inl (by decide))
  have written : LastWritten operations "fleet" "local" [("k", [2])] :=
    ⟨[.putSecret "fleet" "local" [("k", [1])]], _, [.putSecret "other" "local" [("k", [3])], .setSetting "local" "on"],
      rfl, .inr ⟨rfl, [("k", [1])], by simp⟩, by simp⟩
  have third : Unmixed (update :: operations) := by decide
  have refused : (store.step update).2 = .error (missingSecret "third" "local") :=
    congrArg Prod.snd (laws.unput "third" "local" [] third (by simp [operations]))
  have shared : pairKey ("a/b", "c") = pairKey ("a", "b/c") := by decide
  exact ⟨unmixed, laws.paired unmixed, written, (laws.read _ _ _ (by decide)).mpr written, third, refused,
    laws.failed store update _ refused, laws.otherSetting store update "local" (by simp [update]),
    laws.otherSecret store update "fleet" "local" (by simp [update, Operation.pair?, pairKey, secretKey]), by decide,
    shared, (laws.mixed ("a/b", "c") ("a", "b/c") [("k", [1])] (by decide) shared).1⟩

/-- A slash in a namespace and one in a name: a secret that was never put is read. -/
theorem slashes_mix_secrets :
    let operations : List Operation := [.putSecret "a/b" "c" [("k", [1])], .secret "a" "b/c"]
    outcomes {} operations = [.ok .done, .ok (.secret [("k", [1])])] ∧
      Ledger.outcomes id {} operations = [.ok .done, .error (missingSecret "a" "b/c")] ∧
      outcomes {} operations ≠ Ledger.outcomes id {} operations := by
  intro operations
  obtain ⟨mixed, apart⟩ :=
    outcomes_of_shared_key ("a/b", "c") ("a", "b/c") [("k", [1])] (by decide) (by decide)
  refine ⟨mixed, apart, fun same => ?_⟩
  cases mixed.symm.trans (same.trans apart)

end ClusterStore

end JoinTrust
