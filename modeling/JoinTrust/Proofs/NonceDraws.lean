import JoinTrust.Proofs.Framing
import JoinTrust.Proofs.Verdict
import JoinTrust.Script
import Mathlib.Data.List.GetD
import Mathlib.Probability.Distributions.Uniform

set_option autoImplicit false

/-!
What a generated nonce is made of. A generator reads fifty-four draws in their order and spells each as one
letter, so that the words of fifty-four letters and the tuples of draws are the same in number and in
likelihood. A draw that throws ends the generator, and with it the bootstrap that asked for a nonce.
-/

namespace JoinTrust

/-!
## Draws of a source
-/

namespace Handler

variable {σ : Type}

/-- The state that a source is left in by that many draws below a bound. -/
def stateAfter (source : Handler Command Command.Answer σ) (bound : Nat) (state : σ) : Nat → σ
  | 0 => state
  | count + 1 => source.stateAfter bound (source.answer state (.draw bound)).1 count

/-- What a source answers to the draw of that number, counted from a state. -/
def drawAt (source : Handler Command Command.Answer σ) (bound : Nat) (state : σ) (number : Nat) :
    Except Thrown Nat :=
  (source.answer (source.stateAfter bound state number) (.draw bound)).2

/-- A source of numbers below whatever bound is asked for. -/
def DrawsBelow (source : Handler Command Command.Answer σ) : Prop :=
  ∀ state bound, 0 < bound → ∃ value, value < bound ∧ (source.answer state (.draw bound)).2 = .ok value

variable {source : Handler Command Command.Answer σ} {bound : Nat} {state : σ}

theorem stateAfter_add (first rest : Nat) :
    source.stateAfter bound state (first + rest) =
      source.stateAfter bound (source.stateAfter bound state first) rest := by
  induction first generalizing state with
  | zero => rw [Nat.zero_add, stateAfter]
  | succ first ih => rw [Nat.succ_add, stateAfter, ih, stateAfter]

theorem drawAt_add (first number : Nat) :
    source.drawAt bound state (first + number) =
      source.drawAt bound (source.stateAfter bound state first) number := by
  rw [drawAt, stateAfter_add, drawAt]

theorem DrawsBelow.exists_draws (below : source.DrawsBelow) (positive : 0 < bound) (state : σ) :
    ∃ draws : Nat → Fin bound, ∀ number, source.drawAt bound state number = .ok (draws number : Nat) := by
  choose draws bounded answered using fun number =>
    below (source.stateAfter bound state number) bound positive
  exact ⟨fun number => ⟨draws number, bounded number⟩, answered⟩

end Handler

/-- The record of that many draws below a bound. -/
def Transcript.ofDraws (bound count : Nat) (draws : Nat → Nat) : Transcript :=
  (List.range count).map fun number => ⟨.draw bound, .ok (draws number)⟩

theorem Transcript.ofDraws_succ (bound count : Nat) (draws : Nat → Nat) :
    ofDraws bound (count + 1) draws =
      ⟨.draw bound, .ok (draws 0)⟩ :: ofDraws bound count fun number => draws (number + 1) := by
  simp [ofDraws, List.range_succ_eq_map, Function.comp_def]

theorem Transcript.ofDraws_add (bound first rest : Nat) (draws : Nat → Nat) :
    ofDraws bound (first + rest) draws =
      ofDraws bound first draws ++ ofDraws bound rest fun number => draws (first + number) := by
  simp [ofDraws, List.range_add, Function.comp_def]

/-!
## Letters
-/

namespace Nonce

variable {σ : Type} {source : Handler Command Command.Answer σ} {state : σ} {draws : Nat → Nat}

theorem drawLetters_succ (count : Nat) :
    drawLetters (count + 1) = (Procedure.perform (.draw 27)).bind fun draw =>
      (drawLetters count).bind fun rest => .done (letter draw :: rest) := rfl

theorem run_drawLetters_succ_of_ok {count draw : Nat}
    (answered : (source.answer state (.draw 27)).2 = .ok draw) :
    (drawLetters (count + 1)).run source state =
      let rest := (drawLetters count).run source (source.answer state (.draw 27)).1
      ⟨rest.state, ⟨.draw 27, .ok draw⟩ :: rest.events, rest.outcome.map (letter draw :: ·)⟩ := by
  rw [drawLetters_succ, Program.run_bind, Procedure.perform, Program.run_perform, answered]
  simp only [Program.run_bind]
  cases ((drawLetters count).run source (source.answer state (.draw 27)).1).outcome with
  | ok letters => simp [Program.run, Except.map]
  | error thrown => rfl

theorem run_drawLetters_succ_of_error {count : Nat} {thrown : Thrown}
    (refused : (source.answer state (.draw 27)).2 = .error thrown) :
    (drawLetters (count + 1)).run source state =
      ⟨(source.answer state (.draw 27)).1, [⟨.draw 27, .error thrown⟩], .error thrown⟩ := by
  rw [drawLetters_succ, Program.run_bind, Procedure.perform, Program.run_perform, refused]

/-- Letters are drawn one after another, each below the length of the alphabet. -/
theorem run_drawLetters {count : Nat}
    (answered : ∀ number < count, source.drawAt 27 state number = .ok (draws number)) :
    (drawLetters count).run source state =
      ⟨source.stateAfter 27 state count, Transcript.ofDraws 27 count draws,
        .ok ((List.range count).map fun number => letter (draws number))⟩ := by
  induction count generalizing state draws with
  | zero => rfl
  | succ count ih =>
      have rest := @ih (source.answer state (.draw 27)).1 (fun number => draws (number + 1))
        fun number below => answered (number + 1) (Nat.succ_lt_succ below)
      have first : (source.answer state (.draw 27)).2 = .ok (draws 0) := answered 0 (Nat.succ_pos count)
      rw [run_drawLetters_succ_of_ok first, rest, Transcript.ofDraws_succ]
      simp [Except.map, Handler.stateAfter, List.range_succ_eq_map, Function.comp_def]

/-- A draw that throws is the last one. -/
theorem run_drawLetters_of_error {count number : Nat} {thrown : Thrown} (below : number < count)
    (answered : ∀ earlier < number, source.drawAt 27 state earlier = .ok (draws earlier))
    (refused : source.drawAt 27 state number = .error thrown) :
    (drawLetters count).run source state =
      ⟨source.stateAfter 27 state (number + 1),
        Transcript.ofDraws 27 number draws ++ [⟨.draw 27, .error thrown⟩], .error thrown⟩ := by
  induction number generalizing state draws count with
  | zero =>
      obtain ⟨count, rfl⟩ := Nat.exists_eq_succ_of_ne_zero (Nat.ne_of_gt below)
      exact run_drawLetters_succ_of_error refused
  | succ number ih =>
      obtain ⟨count, rfl⟩ := Nat.exists_eq_succ_of_ne_zero (Nat.ne_of_gt (Nat.zero_lt_of_lt below))
      have rest := @ih (source.answer state (.draw 27)).1 (fun number => draws (number + 1)) count
        (Nat.lt_of_succ_lt_succ below)
        (fun earlier before => answered (earlier + 1) (Nat.succ_lt_succ before)) refused
      have first : (source.answer state (.draw 27)).2 = .ok (draws 0) := answered 0 (Nat.succ_pos number)
      rw [run_drawLetters_succ_of_ok first, rest, Transcript.ofDraws_succ]
      rfl

/-!
## Words
-/

variable {count : Nat}

def IsWord (count : Nat) (text : String) : Prop :=
  text.length = count ∧ ∀ character ∈ text.toList, character ∈ "bcdfghjklmnpqrstvwxz2456789".toList

/-- The letters for draws, in their order. -/
def word (draws : Fin count → Fin 27) : String :=
  String.ofList (List.ofFn fun place => letter (draws place))

theorem toList_word (draws : Fin count → Fin 27) :
    (word draws).toList = List.ofFn fun place => letter (draws place) :=
  String.toList_ofList

theorem length_word (draws : Fin count → Fin 27) : (word draws).length = count := by
  rw [← String.length_toList, toList_word, List.length_ofFn]

theorem getElem?_word (draws : Fin count → Fin 27) (place : Fin count) :
    (word draws).toList[(place : Nat)]? = "bcdfghjklmnpqrstvwxz2456789".toList[(draws place : Nat)]? := by
  have spelled : ∀ draw : Fin 27, some (letter draw) = alphabet[(draw : Nat)]? := by decide
  rw [toList_word, List.getElem?_ofFn, dif_pos place.isLt]
  exact spelled (draws place)

/-- No two draws have one letter, so that no two tuples have one word. -/
theorem word_injective : Function.Injective (@word count) := by
  have distinct : Function.Injective fun draw : Fin 27 => letter draw := by decide
  intro left right same
  have letters := List.ofFn_injective (String.ofList_injective same)
  funext place
  exact distinct (congrFun letters place)

theorem isWord_iff {text : String} : IsWord count text ↔ ∃ draws : Fin count → Fin 27, word draws = text := by
  constructor
  · rintro ⟨length, letters⟩
    have drawn : ∀ character ∈ alphabet, ∃ draw : Fin 27, letter draw = character := by
      intro character member
      obtain ⟨place, bound, rfl⟩ := List.getElem_of_mem member
      have letters : alphabet.length = 27 := by decide
      exact ⟨⟨place, letters ▸ bound⟩, List.getD_eq_getElem alphabet 'b' bound⟩
    have size : text.toList.length = count := by rw [String.length_toList, length]
    choose draws spelled using fun place : Fin count =>
      drawn _ (letters _ (List.getElem_mem (l := text.toList) (n := place) (by omega)))
    refine ⟨draws, ?_⟩
    rw [← String.toList_inj, toList_word]
    apply List.ext_getElem
    · simp [size]
    · intro place _ _
      simp [spelled]
  · rintro ⟨draws, rfl⟩
    refine ⟨length_word draws, fun character among => ?_⟩
    rw [toList_word, List.mem_ofFn] at among
    obtain ⟨place, rfl⟩ := among
    exact letter_mem_alphabet _

/-!
## Generators
-/

def spelling (draws : Nat → Nat) : String :=
  String.ofList ((List.range 54).map fun number => letter (draws number))

theorem spelling_eq_word (draws : Nat → Fin 27) :
    (spelling fun number => draws number) = word fun place : Fin 54 => draws place := by
  refine congrArg String.ofList (List.ext_getElem ?_ ?_)
  · rw [List.length_map, List.length_range, List.length_ofFn]
  · intro place _ _
    rw [List.getElem_map, List.getElem_range, List.getElem_ofFn]

theorem generate_eq : generate = (drawLetters 54).bind fun letters => .done (String.ofList letters) := rfl

theorem run_generate (answered : ∀ number < 54, source.drawAt 27 state number = .ok (draws number)) :
    generate.run source state =
      ⟨source.stateAfter 27 state 54, Transcript.ofDraws 27 54 draws, .ok (spelling draws)⟩ := by
  rw [generate_eq, Program.run_bind, run_drawLetters answered]
  simp only [Program.run, List.append_nil, spelling]

theorem run_generate_of_error {number : Nat} {thrown : Thrown} (below : number < 54)
    (answered : ∀ earlier < number, source.drawAt 27 state earlier = .ok (draws earlier))
    (refused : source.drawAt 27 state number = .error thrown) :
    generate.run source state =
      ⟨source.stateAfter 27 state (number + 1),
        Transcript.ofDraws 27 number draws ++ [⟨.draw 27, .error thrown⟩], .error thrown⟩ := by
  rw [generate_eq, Program.run_bind, run_drawLetters_of_error below answered refused]

def successive : Nat → Procedure (List String)
  | 0 => .done []
  | times + 1 => do
    let nonce ← generate
    let rest ← successive times
    .done (nonce :: rest)

theorem successive_succ (times : Nat) :
    successive (times + 1) =
      generate.bind fun nonce => (successive times).bind fun rest => .done (nonce :: rest) := rfl

/-- Each nonce reads the fifty-four draws that follow on those of the nonces before it. -/
theorem run_successive (answered : ∀ number, source.drawAt 27 state number = .ok (draws number)) (times : Nat) :
    (successive times).run source state =
      ⟨source.stateAfter 27 state (54 * times), Transcript.ofDraws 27 (54 * times) draws,
        .ok ((List.range times).map fun turn => spelling fun place => draws (54 * turn + place))⟩ := by
  induction times generalizing state draws with
  | zero => rfl
  | succ times ih =>
      have later : ∀ number,
          source.drawAt 27 (source.stateAfter 27 state 54) number = .ok (draws (54 + number)) := by
        intro number
        rw [← Handler.drawAt_add, answered]
      have total : 54 * (times + 1) = 54 + 54 * times := by omega
      have turns : (fun turn => spelling fun place => draws (54 + (54 * turn + place))) =
          fun turn => spelling fun place => draws (54 * (turn + 1) + place) := by
        funext turn
        congr 1
        funext place
        congr 1
        omega
      rw [successive_succ, Program.run_bind, run_generate fun number _ => answered number]
      simp only [Program.run_bind, ih later, Program.run, List.append_nil]
      rw [total, Handler.stateAfter_add, Transcript.ofDraws_add, turns, List.range_succ_eq_map, List.map_cons,
        List.map_map]
      simp only [Function.comp_def, Nat.mul_zero, Nat.zero_add, Nat.succ_eq_add_one]

/-!
## Likelihood
-/

/-- A source that deals these draws, over and over. -/
def dealing (draws : Fin 54 → Fin 27) : Handler Command Command.Answer Nat where
  answer number
    | .draw bound => (number + 1, .ok (draws ⟨number % 54, Nat.mod_lt _ (by decide)⟩ % bound))
    | _ => (number, .error .undefined)

theorem dealing_drawsBelow (draws : Fin 54 → Fin 27) : (dealing draws).DrawsBelow :=
  fun _ _ positive => ⟨_, Nat.mod_lt _ positive, rfl⟩

theorem stateAfter_dealing (draws : Fin 54 → Fin 27) (count number : Nat) :
    (dealing draws).stateAfter 27 number count = number + count := by
  induction count generalizing number with
  | zero => rfl
  | succ count ih => exact (ih (number + 1)).trans (Nat.succ_add_eq_add_succ number count)

theorem drawAt_dealing (draws : Fin 54 → Fin 27) (number : Nat) :
    (dealing draws).drawAt 27 0 number = .ok (draws ⟨number % 54, Nat.mod_lt _ (by decide)⟩ : Nat) := by
  rw [Handler.drawAt, stateAfter_dealing, Nat.zero_add]
  exact congrArg _ (Nat.mod_eq_of_lt (Fin.isLt _))

theorem outcome_generate_dealing (draws : Fin 54 → Fin 27) :
    (generate.run (dealing draws) 0).outcome = .ok (word draws) := by
  rw [run_generate fun number _ => drawAt_dealing draws number]
  have dealt : (fun place : Fin 54 => draws ⟨place % 54, Nat.mod_lt _ (by decide)⟩) = draws := by
    funext place
    congr 1
    exact Fin.ext (Nat.mod_eq_of_lt place.isLt)
  exact congrArg _ ((spelling_eq_word fun number => draws ⟨number % 54, Nat.mod_lt _ (by decide)⟩).trans
    (congrArg word dealt))

open scoped ENNReal in
/-- Draws that are all equally likely make every nonce as likely as any other. -/
theorem uniform_generate (draws : Fin 54 → Fin 27) :
    ((PMF.uniformOfFintype (Fin 54 → Fin 27)).map fun dealt => (generate.run (dealing dealt) 0).outcome)
      (.ok (word draws)) = ((27 : ℝ≥0∞) ^ 54)⁻¹ := by
  simp only [outcome_generate_dealing]
  rw [PMF.map_apply, tsum_eq_single draws]
  · rw [if_pos rfl, PMF.uniformOfFintype_apply, Fintype.card_fun, Fintype.card_fin, Fintype.card_fin]
    norm_cast
  · intro other different
    rw [if_neg]
    intro same
    exact different (word_injective (Except.ok.inj same)).symm

end Nonce

/-!
## Nonces of bootstraps
-/

/-- A generator that throws is all that comes of a bootstrap. -/
theorem Bootstrapper.run_caCerts_of_error {σ : Type} {source : Handler Command Command.Answer σ} {state : σ}
    {bootstrapper : Bootstrapper} {thrown : Thrown}
    (refused : (bootstrapper.nonces.next.run source state).outcome = .error thrown)
    (server token : String) (scope : Scope) :
    (bootstrapper.caCerts server token scope).run source state =
      ⟨(bootstrapper.nonces.next.run source state).state, (bootstrapper.nonces.next.run source state).events,
        .error (thrown.toldAs .nonceGeneration)⟩ := by
  rw [caCerts_eq, Program.run_bind, nextNonce, Program.run_recover, refused]
  simp [Procedure.telling_reject thrown .nonceGeneration, Program.run]

open scoped ENNReal in
/-- How nonces come from the draws of a source. -/
structure Nonce.SpellsDraws {σ : Type} (source : Handler Command Command.Answer σ) (state : σ) : Prop where
  /-- A nonce takes the next fifty-four draws and nothing else, and nonces that follow on one another take draws
  that do. -/
  reads : source.DrawsBelow →
    ∃ draws : Nat → Fin 27, (∀ number, source.drawAt 27 state number = .ok (draws number : Nat)) ∧
      Nonce.generate.run source state =
        ⟨source.stateAfter 27 state 54, Transcript.ofDraws 27 54 fun number => draws number,
          .ok (Nonce.word fun place : Fin 54 => draws place)⟩ ∧
      ∀ times, (Nonce.successive times).run source state =
        ⟨source.stateAfter 27 state (54 * times), Transcript.ofDraws 27 (54 * times) fun number => draws number,
          .ok ((List.range times).map fun turn => Nonce.word fun place : Fin 54 => draws (54 * turn + place))⟩
  letters : ∀ draws : Fin 54 → Fin 27, (Nonce.word draws).length = 54 ∧ ∀ place : Fin 54,
    (Nonce.word draws).toList[(place : Nat)]? = "bcdfghjklmnpqrstvwxz2456789".toList[(draws place : Nat)]?
  bijective : ∀ text, (∃! draws : Fin 54 → Fin 27, Nonce.word draws = text) ↔
    text.length = 54 ∧ ∀ character ∈ text.toList, character ∈ "bcdfghjklmnpqrstvwxz2456789".toList
  uniform : ∀ draws : Fin 54 → Fin 27,
    ((PMF.uniformOfFintype (Fin 54 → Fin 27)).map fun dealt =>
      (Nonce.generate.run (Nonce.dealing dealt) 0).outcome) (.ok (Nonce.word draws)) = ((27 : ℝ≥0∞) ^ 54)⁻¹
  /-- A draw that throws is the last one, and leaves a bootstrap nothing to do but to reject, with what was thrown as
  the cause; if that has no message, the bootstrap ends with what asking for it throws. -/
  refused : ∀ (number : Nat) (draws : Nat → Nat) (thrown : Thrown), number < 54 →
    (∀ earlier < number, source.drawAt 27 state earlier = .ok (draws earlier)) →
    source.drawAt 27 state number = .error thrown →
    let events := Transcript.ofDraws 27 number draws ++ [⟨.draw 27, .error thrown⟩]
    Nonce.generate.run source state = ⟨source.stateAfter 27 state (number + 1), events, .error thrown⟩ ∧
      ∀ (timeout : Nat) (server token : String) (scope : Scope),
        (Bootstrapper.caCerts ⟨.generated, timeout⟩ server token scope).run source state =
          ⟨source.stateAfter 27 state (number + 1), events, .error (match thrown.silence? with
            | some raised => raised
            | none => .failure (.nonceGeneration thrown))⟩ ∧
        (Failure.nonceGeneration thrown).kind = .configuration ∧
        (Failure.nonceGeneration thrown).cause? = match thrown with
          | .undefined => none
          | thrown => some thrown

/-- A generated nonce is made of fifty-four draws below twenty-seven and of nothing else. Each draw is one letter, so
that every word of fifty-four letters is the nonce of exactly one tuple of draws and all are equally likely. -/
theorem nonces_spell_draws {σ : Type} (source : Handler Command Command.Answer σ) (state : σ) :
    Nonce.SpellsDraws source state := by
  constructor
  case reads =>
    intro below
    obtain ⟨draws, answered⟩ := below.exists_draws (by decide : 0 < 27) state
    refine ⟨draws, answered, ?_, fun times => ?_⟩
    · rw [Nonce.run_generate fun number _ => answered number, Nonce.spelling_eq_word]
    · rw [Nonce.run_successive answered]
      simp only [fun turn => Nonce.spelling_eq_word fun place => draws (54 * turn + place)]
  case letters => exact fun draws => ⟨Nonce.length_word draws, Nonce.getElem?_word draws⟩
  case bijective =>
    intro text
    change _ ↔ Nonce.IsWord 54 text
    rw [Nonce.isWord_iff]
    constructor
    · exact ExistsUnique.exists
    · intro spelled
      obtain ⟨draws, rfl⟩ := spelled
      exact ⟨draws, rfl, fun other same => Nonce.word_injective same⟩
  case uniform => exact Nonce.uniform_generate
  case refused =>
    intro number draws thrown below answered throws events
    have ran := Nonce.run_generate_of_error below answered throws
    refine ⟨ran, fun timeout server token scope => ⟨?_, rfl, rfl⟩⟩
    have failed : (Nonce.Source.generated.next.run source state).outcome = .error thrown := by
      rw [Nonce.Source.next, ran]
    refine (Bootstrapper.run_caCerts_of_error failed server token scope).trans ?_
    rw [Nonce.Source.next, ran, Thrown.toldAs]
    cases thrown.silence? with
    | none => rfl
    | some raised => rfl

/-- A source that deals every number in turn, and one that runs dry after two draws and so ends the bootstrap. -/
theorem nonces_spell_draws_dry :
    let source := Nonce.dealing fun place => ⟨place % 27, Nat.mod_lt _ (by decide)⟩
    let dry := Script.handler { draws := [.ok 0, .ok 26, .error .undefined] }
    let call := (Bootstrapper.caCerts {} "https://rancher.local" "token" .machine).run dry {}
    source.DrawsBelow ∧ (∃ draws : Nat → Fin 27,
      (∀ number, source.drawAt 27 0 number = .ok (draws number : Nat)) ∧
        ((Nonce.successive 2).run source 0).outcome = .ok ((List.range 2).map fun turn =>
          Nonce.word fun place : Fin 54 => draws (54 * turn + place))) ∧
    (∀ earlier < 2, dry.drawAt 27 {} earlier = .ok ([0, 26].getD earlier 0)) ∧
    dry.drawAt 27 {} 2 = .error .undefined ∧
    call.events = Transcript.ofDraws 27 2 (fun number => [0, 26].getD number 0) ++ [⟨.draw 27, .error .undefined⟩] ∧
    call.outcome = .error (.failure (.nonceGeneration .undefined)) ∧
    (Failure.nonceGeneration .undefined).cause? = none := by
  intro source dry call
  have below : source.DrawsBelow := Nonce.dealing_drawsBelow _
  obtain ⟨draws, answered, _, successive⟩ := (nonces_spell_draws source 0).reads below
  have wet : ∀ earlier < 2, dry.drawAt 27 {} earlier = .ok ([0, 26].getD earlier 0)
    | 0, _ => rfl
    | 1, _ => rfl
  have last : dry.drawAt 27 {} 2 = .error .undefined := rfl
  obtain ⟨_, bootstraps⟩ :=
    (nonces_spell_draws dry {}).refused 2 (fun number => [0, 26].getD number 0) .undefined (by decide) wet last
  obtain ⟨ran, _, cause⟩ := bootstraps defaultTimeout "https://rancher.local" "token" .machine
  refine ⟨below, ⟨draws, answered, ?_⟩, wet, last, ?_, ?_, cause⟩
  · rw [successive 2]
  · exact congrArg Execution.events ran
  · exact congrArg Execution.outcome ran

/-- A draw that throws something of no message has the bootstrap rejected with no failure at all. -/
theorem speechless_draw_untyped :
    let dry := Script.handler { draws := [.error .speechless] }
    let call := (Bootstrapper.caCerts {} "https://rancher.local" "token" .cluster).run dry {}
    dry.drawAt 27 {} 0 = .error .speechless ∧ call.events = [⟨.draw 27, .error .speechless⟩] ∧
      call.outcome = .error (.error "TypeError" "Cannot convert object to primitive value") ∧
      ¬ RejectedAs .configuration call.outcome := by
  intro dry call
  have ran : call.events = [⟨.draw 27, .error .speechless⟩] ∧
      call.outcome = .error (.error "TypeError" "Cannot convert object to primitive value") := ⟨rfl, rfl⟩
  refine ⟨rfl, ran.1, ran.2, ?_⟩
  rw [ran.2]
  intro rejected
  obtain ⟨failure, same, _⟩ := rejected
  cases same

end JoinTrust
