import JoinTrust.Proofs.FetchVerdict
import JoinTrust.Proofs.Indifference
import JoinTrust.Proofs.Mirror

set_option autoImplicit false

/-!
Tokens influence nothing but credentials and the verdict on a reply. Two calls that are alike but for
their tokens end alike, send the same requests apart from credentials, and leave the same entries, files
and lines, apart from the line that hides the token, as long as a reply verifies for both or for none.
-/

namespace JoinTrust

open Procedure (Mirrored)

/-!
## Bootstraps
-/

theorem Reply.judge_congr {left right nonce : String} {reply : Reply}
    (same : reply.headers.get? "x-cattle-hash" = some (Integrity.responseHash left nonce reply.body) ↔
      reply.headers.get? "x-cattle-hash" = some (Integrity.responseHash right nonce reply.body)) :
    reply.judge left nonce = reply.judge right nonce := by
  have verdict : Integrity.verify left nonce reply.body (reply.headers.get? "x-cattle-hash") =
      Integrity.verify right nonce reply.body (reply.headers.get? "x-cattle-hash") := by
    rw [Bool.eq_iff_iff, Integrity.verify_eq_true_iff, Integrity.verify_eq_true_iff]
    exact same
  simp only [Reply.judge, hashHeaderKey_eq, verdict]

namespace Bootstrapper

variable {left right : String}

/-- The replies to two downloads that both verify, or both do not, are judged alike. -/
theorem download_mirrored (bootstrapper : Bootstrapper) (url : String) (scope : Scope) (nonce : String) :
    Mirrored left right (fun reply => reply.judge left nonce = reply.judge right nonce)
      (bootstrapper.download url scope nonce left) (bootstrapper.download url scope nonce right) := by
  have redacted : (downloadRequest url nonce left).redacted = (downloadRequest url nonce right).redacted := by
    simp only [Request.redacted, downloadRequest, credentialHeader, List.map_cons, if_true]
  refine .withClient fun serial => .recover (.sends redacted fun reply verifies => ?_) fun thrown => ?_
  · exact Reply.judge_congr (verifies rfl nonce rfl)
  · exact ((Mirrored.refl _).bind fun _ _ => .fail).telling

theorem caCerts_mirrored (bootstrapper : Bootstrapper) (server : String) (scope : Scope) :
    Mirrored left right (fun _ => True)
      (bootstrapper.caCerts server left scope) (bootstrapper.caCerts server right scope) := by
  refine (Mirrored.refl _).bind fun nonce _ => (Mirrored.refl _).bind fun url _ => ?_
  refine (Mirrored.refl _).bind fun trusted _ => ?_
  cases trusted with
  | true =>
      rw [if_pos rfl, if_pos rfl]
      exact .refl _
  | false =>
      rw [if_neg Bool.false_ne_true, if_neg Bool.false_ne_true]
      refine (bootstrapper.download_mirrored url scope nonce).bind fun reply judged => ?_
      rw [judged]
      exact .refl _

end Bootstrapper

/-!
## Fetches
-/

namespace Fetcher

variable {left right : String}

theorem plainGet_mirrored (fetcher : Fetcher) (url : String) (scope : Scope) (trusted : CaCerts) :
    Mirrored left right (fun _ => True)
      (fetcher.plainGet url left scope trusted) (fetcher.plainGet url right scope trusted) := by
  have redacted : (resourceRequest url left scope).redacted = (resourceRequest url right scope).redacted := by
    cases scope with
    | cluster => rfl
    | machine =>
        simp only [Request.redacted, resourceRequest, resourceHeaders, credentialHeader, List.map_cons, if_true]
  have requested : Mirrored left right (fun _ => True)
      (Procedure.withClient ⟨.ofBundle trusted.bundle, fetcher.timeout⟩ fun client =>
        (Procedure.get client (resourceRequest url left scope)).recover fun thrown =>
          Procedure.telling thrown (refuse url (.resource url thrown) none))
      (Procedure.withClient ⟨.ofBundle trusted.bundle, fetcher.timeout⟩ fun client =>
        (Procedure.get client (resourceRequest url right scope)).recover fun thrown =>
          Procedure.telling thrown (refuse url (.resource url thrown) none)) :=
    .withClient fun serial => .recover (.sends redacted fun reply _ => trivial) fun thrown => .refl _
  exact requested.bind fun reply _ => .refl _

theorem fetchUnder_mirrored (fetcher : Fetcher) (url : String) (scope : Scope) (backed : Bool)
    (trusted : CaCerts) :
    Mirrored left right (fun _ => True) (fetcher.fetchUnder url scope ⟨backed, left⟩ trusted)
      (fetcher.fetchUnder url scope ⟨backed, right⟩ trusted) := by
  cases backed with
  | true =>
      rw [fetchUnder, fetchUnder, if_pos rfl, if_pos rfl]
      exact .refl _
  | false =>
      rw [fetchUnder, fetchUnder, if_neg Bool.false_ne_true, if_neg Bool.false_ne_true]
      exact fetcher.plainGet_mirrored url scope trusted

/-!
## Lookups
-/

variable {σ α : Type} {handler : Handler Command Command.Answer σ} {alike : σ → σ → Prop}
  {leftState rightState : σ} {leftUsed rightUsed : String} {backed : Bool}

/-- What a token is resolved to in a state of the world. A cluster token is itself. -/
def Resolves (fetcher : Fetcher) (handler : Handler Command Command.Answer σ) (state : σ) (token : String)
    (scope : Scope) (resolved : ResolvedToken) : Prop :=
  ((fetcher.lookup token scope).run handler state).outcome = .ok resolved

private theorem unsealed_ends {tell : Thrown → Thrown} {answer : Except Thrown String} {state : σ}
    {resolved : ResolvedToken}
    (found : ((Resolver.unsealedThen tell (fun token => .done (ResolvedToken.mk true token)) answer).run
      handler state).outcome = .ok resolved) :
    let ended := (Resolver.unsealedThen tell (fun token => .done (ResolvedToken.mk true token)) answer).run
      handler state
    resolved.hardwareBacked = true ∧ ended.events = [] ∧ ended.state = state := by
  rcases Resolver.unsealedThen_cases tell answer with ⟨token, _, kept⟩ | ⟨failure, rejected⟩
  · rw [kept] at found ⊢
    cases found
    exact ⟨rfl, rfl, rfl⟩
  · rw [rejected] at found
    cases found

/-- A plain token is looked up without a question, and one that stays in hardware with one. -/
theorem hardware_lookup {marker token : String} {hasSource : Bool} {state : σ} {resolved : ResolvedToken}
    (found : (((Resolver.hardware marker hasSource).resolve token).run handler state).outcome =
      .ok resolved) :
    let looked := ((Resolver.hardware marker hasSource).resolve token).run handler state
    (resolved.hardwareBacked = false ∧ looked.events = [] ∧ looked.state = state) ∨
      (resolved.hardwareBacked = true ∧ ∃ reference,
        looked.events =
          [⟨.unsealToken reference, (handler.answer state (.unsealToken reference)).2⟩] ∧
        looked.state = (handler.answer state (.unsealToken reference)).1) := by
  intro looked
  cases sealed : Resolver.reference? marker token with
  | none =>
      simp only [looked, Resolver.resolve, sealed] at found ⊢
      cases found
      exact .inl ⟨rfl, rfl, rfl⟩
  | some reference =>
      cases hasSource with
      | false =>
          simp only [Resolver.resolve, sealed] at found
          cases found
      | true =>
          simp only [looked, Resolver.resolve, sealed, if_true, Resolver.unsealed_eq, Program.run] at found ⊢
          obtain ⟨backed, silent, unmoved⟩ := unsealed_ends found
          exact .inr ⟨backed, reference, by rw [silent], unmoved⟩

/-- Lookups that succeed alike ask for a token each, or for nothing. -/
theorem lookup_alike (deaf : handler.Deaf alike) (same : alike leftState rightState) {fetcher : Fetcher}
    {scope : Scope} (leftFound : fetcher.Resolves handler leftState left scope ⟨backed, leftUsed⟩)
    (rightFound : fetcher.Resolves handler rightState right scope ⟨backed, rightUsed⟩) :
    ((fetcher.lookup left scope).run handler leftState).events.map (·.op.redacted) =
        ((fetcher.lookup right scope).run handler rightState).events.map (·.op.redacted) ∧
      alike ((fetcher.lookup left scope).run handler leftState).state
        ((fetcher.lookup right scope).run handler rightState).state := by
  cases scope with
  | cluster => exact ⟨rfl, same⟩
  | machine =>
      simp only [Resolves, lookup] at leftFound rightFound ⊢
      cases held : fetcher.resolver with
      | external =>
          simp only [Resolver.resolve, Procedure.perform, Program.run_perform]
          exact ⟨rfl, deaf.resolve left right same⟩
      | hardware marker hasSource =>
          rw [held] at leftFound rightFound
          rcases hardware_lookup leftFound with ⟨plain, leftEvents, leftAfter⟩ | ⟨sealed, _, leftEvents, leftAfter⟩
          · rcases hardware_lookup rightFound with ⟨_, rightEvents, rightAfter⟩ | ⟨sealed, _, _, _⟩
            · rw [leftEvents, rightEvents, leftAfter, rightAfter]
              exact ⟨rfl, same⟩
            · cases plain.symm.trans sealed
          · rcases hardware_lookup rightFound with ⟨plain, _, _⟩ | ⟨_, _, rightEvents, rightAfter⟩
            · cases plain.symm.trans sealed
            · rw [leftEvents, rightEvents, leftAfter, rightAfter]
              exact ⟨rfl, deaf.unsealToken _ _ same⟩

/-- Calls that first find their tokens cannot be told apart if what follows is mirrored. -/
theorem indistinct_of_mirrored (deaf : handler.Deaf alike) (same : alike leftState rightState)
    {fetcher : Fetcher} {scope : Scope}
    (leftFound : fetcher.Resolves handler leftState left scope ⟨backed, leftUsed⟩)
    (rightFound : fetcher.Resolves handler rightState right scope ⟨backed, rightUsed⟩)
    {leftNext rightNext : ResolvedToken → Procedure α}
    (mirrored : Mirrored leftUsed rightUsed (fun _ => True) (leftNext ⟨backed, leftUsed⟩)
      (rightNext ⟨backed, rightUsed⟩))
    (verifies : ∀ event ∈ (((fetcher.usedToken left scope).bind leftNext).run handler leftState).events,
      VerifiesAlike leftUsed rightUsed event) :
    Execution.Indistinct alike (((fetcher.usedToken left scope).bind leftNext).run handler leftState)
      (((fetcher.usedToken right scope).bind rightNext).run handler rightState) := by
  obtain ⟨commands, after⟩ := lookup_alike deaf same leftFound rightFound
  rw [Resolves] at leftFound rightFound
  simp only [Program.run_bind, run_usedToken, leftFound, rightFound, Except.mapError] at verifies ⊢
  have rest := mirrored.run_indistinct deaf after
    fun event member => verifies event (List.mem_append_right _ member)
  refine ⟨rest.outcome, ?_, rest.state⟩
  simp only [List.map_append, commands, rest.commands]

theorem get_indistinct (deaf : handler.Deaf alike) (same : alike leftState rightState)
    {fetcher : Fetcher} {server path : String} {scope : Scope}
    (leftFound : fetcher.Resolves handler leftState left scope ⟨backed, leftUsed⟩)
    (rightFound : fetcher.Resolves handler rightState right scope ⟨backed, rightUsed⟩)
    (verifies : ∀ event ∈ ((fetcher.get server left path scope).run handler leftState).events,
      VerifiesAlike leftUsed rightUsed event) :
    Execution.Indistinct alike ((fetcher.get server left path scope).run handler leftState)
      ((fetcher.get server right path scope).run handler rightState) := by
  cases offered : Server.resourceUrl server path with
  | error failure =>
      rw [get_eq_reject offered, get_eq_reject offered]
      exact ⟨rfl, rfl, same⟩
  | ok url =>
      rw [get_eq offered] at verifies ⊢
      rw [get_eq offered]
      refine indistinct_of_mirrored deaf same leftFound rightFound ?_ verifies
      exact (fetcher.bootstrapper.caCerts_mirrored server scope).bind fun trusted _ =>
        fetcher.fetchUnder_mirrored url scope backed trusted

end Fetcher

/-!
## Runs
-/

namespace Settings

variable {left right : Assoc String} {leftToken rightToken : String}

def withToken (settings : Settings) (token : String) : Settings :=
  { settings with token }

private theorem input?_congr (alike : ∀ name, name ≠ "INPUT_TOKEN" → left.get? name = right.get? name)
    {name : String} (other : inputVariable name ≠ "INPUT_TOKEN") : input? right name = input? left name := by
  rw [input?, input?, alike _ other]

private theorem isEmpty_of_input? {environment : Assoc String} {name text : String}
    (given : input? environment name = some text) : text.isEmpty = false := by
  unfold input? at given
  split at given
  · cases given
  · next value found =>
      by_cases empty : (Text.trim value).isEmpty = true
      · simp only [empty, if_true] at given
        cases given
      · simp only [empty] at given
        cases given
        simpa using empty

private theorem combine_withToken
    (alike : ∀ name, name ≠ "INPUT_TOKEN" → left.get? name = right.get? name)
    (leftGiven : input? left "TOKEN" = some leftToken) (rightGiven : input? right "TOKEN" = some rightToken)
    (file : FileSettings) :
    combine right file = (combine left file).map fun settings => settings.withToken rightToken := by
  have server : input? right "SERVER" = input? left "SERVER" := input?_congr alike (by decide)
  have scope : input? right "TOKEN_SCOPE" = input? left "TOKEN_SCOPE" := input?_congr alike (by decide)
  have path : input? right "PATH" = input? left "PATH" := input?_congr alike (by decide)
  have caFile : input? right "CA_FILE" = input? left "CA_FILE" := input?_congr alike (by decide)
  have outputFile : input? right "OUTPUT_FILE" = input? left "OUTPUT_FILE" :=
    input?_congr alike (by decide)
  simp only [combine, leftGiven, rightGiven, Option.getD_some, server, scope, path, caFile, outputFile,
    isEmpty_of_input? leftGiven, isEmpty_of_input? rightGiven]
  by_cases empty : ((input? left "SERVER" <|> file.server).getD "").isEmpty = true
  · rw [if_pos empty, if_pos empty]
    rfl
  · rw [if_neg empty, if_neg empty]
    cases Server.parse ((input? left "SERVER" <|> file.server).getD "") <;> rfl

/-- Of environments that differ in their tokens alone, the settings do too. Without a token there are no
settings, so that both are to give one. -/
theorem load_withToken (alike : ∀ name, name ≠ "INPUT_TOKEN" → left.get? name = right.get? name)
    (leftGiven : input? left "TOKEN" = some leftToken) (rightGiven : input? right "TOKEN" = some rightToken)
    (files : FileTree) (parse : Yaml.Reader) :
    load right files parse = (load left files parse).map fun settings => settings.withToken rightToken := by
  have place : filePath right = filePath left := by
    rw [filePath, input?_congr alike (by decide), filePath]
  simp only [load, loadFrom, ofFound, place]
  cases FileSettings.ofFound parse (filePath left) (finder files (filePath left)) with
  | error failure => rfl
  | ok file => exact combine_withToken alike leftGiven rightGiven file

end Settings

namespace Run

variable {σ α : Type} {handler : Handler Command Command.Answer σ} {alike : σ → σ → Prop}
  {leftState rightState : σ} {left right leftUsed rightUsed : String} {backed : Bool}

/-- The state of the world once a token is hidden. -/
def afterMask (handler : Handler Command Command.Answer σ) (state : σ) (token : String) : σ :=
  (handler.answer state (.print (.mask token))).1

/-- Hiding a token tells nothing about it. -/
theorem masked_indistinct (deaf : handler.Deaf alike) (same : alike leftState rightState)
    {leftNext rightNext : Procedure α}
    (rest : alike (afterMask handler leftState left) (afterMask handler rightState right) →
      (∀ event ∈ (leftNext.run handler (afterMask handler leftState left)).events,
        VerifiesAlike leftUsed rightUsed event) →
      Execution.Indistinct alike (leftNext.run handler (afterMask handler leftState left))
        (rightNext.run handler (afterMask handler rightState right)))
    (verifies : ∀ event ∈
      (((Procedure.print (.mask left)).bind fun _ => leftNext).run handler leftState).events,
      VerifiesAlike leftUsed rightUsed event) :
    Execution.Indistinct alike
      (((Procedure.print (.mask left)).bind fun _ => leftNext).run handler leftState)
      (((Procedure.print (.mask right)).bind fun _ => rightNext).run handler rightState) := by
  obtain ⟨answered, after⟩ := deaf.mask left right same
  simp only [Procedure.print, Procedure.perform, Program.run_bind, Program.run_perform, ← answered]
    at verifies ⊢
  cases heard : (handler.answer leftState (.print (.mask left))).2 with
  | error thrown => exact ⟨rfl, rfl, after⟩
  | ok _ =>
      simp only [heard] at verifies
      have continued := rest after fun event member => verifies event (List.mem_append_right _ member)
      exact ⟨continued.outcome, congrArg (List.cons _) continued.commands, continued.state⟩

theorem deliver_withToken (settings : Settings) (gathered : Gathered) :
    deliver (settings.withToken left) gathered = deliver (settings.withToken right) gathered :=
  rfl

theorem withSettings_indistinct (deaf : handler.Deaf alike) (same : alike leftState rightState)
    {fetcher : Fetcher} {settings : Settings}
    (leftFound : fetcher.Resolves handler (afterMask handler leftState left) left settings.scope
      ⟨backed, leftUsed⟩)
    (rightFound : fetcher.Resolves handler (afterMask handler rightState right) right settings.scope
      ⟨backed, rightUsed⟩)
    (verifies : ∀ event ∈ ((withSettings fetcher (settings.withToken left)).run handler leftState).events,
      VerifiesAlike leftUsed rightUsed event) :
    Execution.Indistinct alike ((withSettings fetcher (settings.withToken left)).run handler leftState)
      ((withSettings fetcher (settings.withToken right)).run handler rightState) := by
  cases empty : settings.path.isEmpty with
  | true =>
      have unfolded (token : String) :=
        @withSettings_eq_of_bundle fetcher (settings.withToken token) empty
      rw [unfolded, Program.bind_assoc] at verifies ⊢
      rw [unfolded, Program.bind_assoc]
      refine masked_indistinct deaf same (fun after verifies => ?_) verifies
      refine Fetcher.indistinct_of_mirrored deaf after leftFound rightFound ?_ verifies
      refine (fetcher.bootstrapper.caCerts_mirrored settings.server settings.scope).bind fun trusted _ => ?_
      rw [deliver_withToken settings]
      exact .refl _
  | false =>
      cases offered : Server.resourceUrl settings.server settings.path with
      | error failure =>
          have unfolded (token : String) :=
            @withSettings_eq_of_rejected fetcher (settings.withToken token) failure empty offered
          rw [unfolded] at verifies ⊢
          rw [unfolded]
          exact masked_indistinct deaf same (fun after _ => ⟨rfl, rfl, after⟩) verifies
      | ok url =>
          have unfolded (token : String) :=
            @withSettings_eq_of_resource fetcher (settings.withToken token) url empty offered
          rw [unfolded, Program.bind_assoc] at verifies ⊢
          rw [unfolded, Program.bind_assoc]
          refine masked_indistinct deaf same (fun after verifies => ?_) verifies
          refine Fetcher.indistinct_of_mirrored deaf after leftFound rightFound ?_ verifies
          refine (fetcher.bootstrapper.caCerts_mirrored settings.server settings.scope).bind fun trusted _ => ?_
          refine (fetcher.fetchUnder_mirrored url settings.scope backed trusted).bind fun fetched _ => ?_
          rw [deliver_withToken settings]
          exact .refl _

end Run

/-!
## Deaf worlds
-/

theorem GenuineServer.deaf (token : String) (bundle resource : Bytes) :
    (handler token bundle resource).Deaf Eq where
  same := by
    rintro _ _ command rfl
    exact ⟨rfl, rfl⟩
  get := by
    rintro _ _ client first second rfl same
    have nonce : first.headers.get? "X-Cattle-Nonce" = second.headers.get? "X-Cattle-Nonce" := by
      rw [← first.get?_redacted (by decide), same, second.get?_redacted (by decide)]
    have replies : reply token bundle first = reply token bundle second := by
      rw [reply, reply, nonce]
    refine ⟨?_, Subsingleton.elim _ _⟩
    simp only [handler]
    cases client.options.trust with
    | insecure => simp only [replies]
    | _ => rfl
  mask _ _ _ := ⟨rfl, rfl⟩
  resolve _ _ _ := rfl
  unsealToken _ _ _ := rfl

/-- A script that is played whatever is asked adds nothing that hears tokens. -/
theorem Handler.Deaf.answering {σ : Type} {others : Handler Command Command.Answer σ}
    (deaf : others.Deaf Eq) {script : Nat → Client → Request → Except Thrown Reply}
    (fixed : ∀ number client first second, script number client first = script number client second) :
    (others.answering script).Deaf Eq where
  same := by
    rintro _ _ command rfl
    exact ⟨rfl, rfl⟩
  get := by
    rintro left _ client first second rfl same
    exact ⟨fixed _ _ _ _, congrArg (Prod.mk (left.1 + 1)) (deaf.get rfl same).2⟩
  mask := by
    rintro left _ first second rfl
    obtain ⟨answered, after⟩ := deaf.mask first second (Eq.refl left.2)
    exact ⟨answered, congrArg (Prod.mk left.1) after⟩
  resolve := by
    rintro left _ first second rfl
    exact congrArg (Prod.mk left.1) (deaf.resolve first second rfl)
  unsealToken := by
    rintro left _ first second rfl
    exact congrArg (Prod.mk left.1) (deaf.unsealToken first second rfl)

/-- Replies without a response hash verify for nobody. -/
theorem verifiesAlike_of_forged {σ α : Type} {others : Handler Command Command.Answer σ} {bundle : Bytes}
    (left right : String) (state : Nat × σ) (procedure : Procedure α) :
    ∀ event ∈ (procedure.run (others.answering (forgedScript bundle)) state).events,
      VerifiesAlike left right event := by
  rintro ⟨command, answer⟩ member
  obtain ⟨before, answered⟩ := Program.answered_of_mem_run member
  cases command with
  | get client request =>
      simp only [Handler.answering, forgedScript] at answered
      cases answer with
      | error thrown => trivial
      | ok reply =>
          split at answered
          · cases answered
          · cases answered
            intro _ nonce _
            constructor <;> intro absent <;> cases absent
  | _ => trivial

/-!
## Secrecy
-/

/-- Tokens stay secret. In a world that is deaf to them, calls that are alike but for their tokens cannot
be told apart, if these are resolved alike and the reply to a download verifies for both or for none. -/
theorem tokens_stay_secret {σ : Type} {handler : Handler Command Command.Answer σ} {alike : σ → σ → Prop}
    (deaf : handler.Deaf alike) {leftState rightState : σ} (same : alike leftState rightState)
    (bootstrapper : Bootstrapper) (fetcher : Fetcher) (server path : String) (scope : Scope)
    (left right : String) :
    (let call (token : String) (state : σ) := (bootstrapper.caCerts server token scope).run handler state
     (∀ event ∈ (call left leftState).events, VerifiesAlike left right event) →
      Execution.Indistinct alike (call left leftState) (call right rightState)) ∧
    (let call (token : String) (state : σ) := (fetcher.get server token path scope).run handler state
     ∀ backed leftUsed rightUsed,
      fetcher.Resolves handler leftState left scope ⟨backed, leftUsed⟩ →
      fetcher.Resolves handler rightState right scope ⟨backed, rightUsed⟩ →
      (∀ event ∈ (call left leftState).events, VerifiesAlike leftUsed rightUsed event) →
      Execution.Indistinct alike (call left leftState) (call right rightState)) ∧
    (∀ loaded : Except Failure Settings,
     let call (token : String) (state : σ) :=
      (Run.start fetcher (loaded.map fun settings => settings.withToken token)).run handler state
     ∀ backed leftUsed rightUsed,
      (∀ settings, loaded = .ok settings →
        fetcher.Resolves handler (Run.afterMask handler leftState left) left settings.scope
            ⟨backed, leftUsed⟩ ∧
          fetcher.Resolves handler (Run.afterMask handler rightState right) right settings.scope
            ⟨backed, rightUsed⟩) →
      (∀ event ∈ (call left leftState).events, VerifiesAlike leftUsed rightUsed event) →
      Execution.Indistinct alike (call left leftState) (call right rightState)) ∧
    (∀ (leftEnvironment rightEnvironment : Assoc String) (files : FileTree) (parse : Yaml.Reader),
      (∀ name, name ≠ "INPUT_TOKEN" → leftEnvironment.get? name = rightEnvironment.get? name) →
      Settings.input? leftEnvironment "TOKEN" = some left →
      Settings.input? rightEnvironment "TOKEN" = some right →
      ∃ loaded : Except Failure Settings,
        Settings.load leftEnvironment files parse = loaded.map (fun settings => settings.withToken left) ∧
          Settings.load rightEnvironment files parse = loaded.map fun settings => settings.withToken right) := by
  refine ⟨?bootstrap, ?fetch, ?run, ?environment⟩
  case bootstrap =>
    intro call verifies
    exact (bootstrapper.caCerts_mirrored server scope).run_indistinct deaf same verifies
  case fetch =>
    intro call backed leftUsed rightUsed leftFound rightFound verifies
    exact Fetcher.get_indistinct deaf same leftFound rightFound verifies
  case run =>
    intro loaded call backed leftUsed rightUsed found verifies
    cases loaded with
    | error failure => exact ⟨rfl, rfl, same⟩
    | ok settings =>
        obtain ⟨leftFound, rightFound⟩ := found settings rfl
        exact Run.withSettings_indistinct deaf same leftFound rightFound verifies
  case environment =>
    intro leftEnvironment rightEnvironment files parse differ leftGiven rightGiven
    exact ⟨_, Settings.load_withToken (fun _ _ => rfl) leftGiven leftGiven files parse,
      Settings.load_withToken differ leftGiven rightGiven files parse⟩

theorem tokens_stay_secret_genuine :
    let world := (GenuineServer.handler "token" [1] [2]).answering (forgedScript [1])
    let settings : Settings := ⟨GenuineServer.address, "", .cluster, "/v3/import", "ca.pem", ""⟩
    let bootstrap (token : String) := (Bootstrapper.caCerts {} GenuineServer.address token .cluster).run world (0, ())
    let fetch (token : String) :=
      (Fetcher.get {} GenuineServer.address token "/v3/import" .cluster).run world (0, ())
    let run (token : String) := (Run.start {} (.ok (settings.withToken token))).run world (0, ())
    Execution.Indistinct Eq (bootstrap "left") (bootstrap "right") ∧
      Execution.Indistinct Eq (fetch "left") (fetch "right") ∧
      Execution.Indistinct Eq (run "left") (run "right") := by
  intro world settings bootstrap fetch run
  have deaf : world.Deaf Eq := (GenuineServer.deaf "token" [1] [2]).answering fun _ _ _ _ => rfl
  -- Tokens of a cluster are used as they are given, so that the calls use different ones.
  have found (state : Nat × Unit) (token : String) :
      Fetcher.Resolves {} world state token .cluster ⟨false, token⟩ := rfl
  obtain ⟨bootstrapped, fetched, ran, _⟩ := tokens_stay_secret deaf (Eq.refl (0, ())) {} {}
    GenuineServer.address "/v3/import" .cluster "left" "right"
  refine ⟨bootstrapped ?_, fetched false "left" "right" (found _ _) (found _ _) ?_,
    ran (.ok settings) false "left" "right" ?_ ?_⟩
  · exact verifiesAlike_of_forged "left" "right" (0, ()) _
  · exact verifiesAlike_of_forged "left" "right" (0, ()) _
  · rintro _ ⟨⟩
    exact ⟨found _ _, found _ _⟩
  · exact verifiesAlike_of_forged "left" "right" (0, ()) _

end JoinTrust
