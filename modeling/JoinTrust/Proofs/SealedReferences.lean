import JoinTrust.Proofs.Credentials
import JoinTrust.Proofs.Verdict

set_option autoImplicit false

/-!
References to tokens that are sealed in hardware. A reference is shown to the source of sealed tokens,
once, and to nobody else: what a call does after that depends on the answer alone. A call that gets no
token for its reference ends there, and one that gets a token fetches through hardware and never over a
client.
-/

namespace JoinTrust

/-!
## References
-/

namespace Resolver

variable {marker token reference : String}

theorem reference?_append (marker reference : String) :
    reference? marker (marker ++ reference) = some reference := by
  simp [reference?]

end Resolver

namespace Fetcher

variable {α : Type} {fetcher : Fetcher} {marker token reference server path url : String} {hasSource : Bool}

/-- How a call tells of what a source threw. -/
def unsealingTold (thrown : Thrown) : Thrown :=
  unresolved (thrown.toldAs .unsealing)

theorem usedToken_reference_bind (held : fetcher.resolver = .hardware marker true) (reference : String)
    (next : ResolvedToken → Procedure α) :
    (fetcher.usedToken (marker ++ reference) .machine).bind next =
      .ask (.unsealToken reference)
        (Resolver.unsealedThen unsealingTold fun token => next ⟨true, token⟩) := by
  simp only [usedToken_machine, held, Resolver.resolve, Resolver.reference?_append, if_true,
    Resolver.unsealed_eq]
  refine congrArg (Program.ask (Command.unsealToken reference)) (funext fun answer => ?_)
  cases answer with
  | error thrown => rfl
  | ok token =>
      simp only [Resolver.unsealedThen]
      split <;> rfl

theorem usedToken_reference_bind_of_no_source (held : fetcher.resolver = .hardware marker false)
    (reference : String) (next : ResolvedToken → Procedure α) :
    (fetcher.usedToken (marker ++ reference) .machine).bind next =
      Procedure.reject (.hardwareSourceMissing marker) := by
  simp only [usedToken, held, Resolver.resolve, Resolver.reference?_append]
  rfl

end Fetcher

/-!
## What the source gets to see
-/

namespace Transcript

end Transcript

section

variable {σ α : Type} {handler : Handler Command Command.Answer σ} {state : σ}
  {procedure : String → Procedure α}

end

/-!
## Calls with a reference
-/

namespace Fetcher

variable {σ : Type} {fetcher : Fetcher} {marker reference server token path url : String} {scope : Scope}
  {hasSource : Bool} {events : Transcript}

theorem Establishing.hardwareBacked (held : fetcher.resolver = .hardware marker hasSource)
    {outcome : Except Thrown Established} {established : Established}
    (establishing : Establishing fetcher server (marker ++ reference) .machine events outcome)
    (succeeded : outcome = .ok established) : established.resolved.hardwareBacked = true := by
  cases establishing with
  | unresolved => cases succeeded
  | @bootstrapped lookup bootstrap resolved outcome looked bootstrapped =>
      rw [← Program.bind_done (fetcher.usedToken _ _)] at looked
      cases hasSource with
      | false =>
          rw [usedToken_reference_bind_of_no_source held] at looked
          cases (Procedure.runs_reject_iff.mp looked).2
      | true =>
          rw [usedToken_reference_bind held] at looked
          obtain ⟨answer, _, _, continued⟩ := Program.runs_ask_iff.mp looked
          have backed : resolved.hardwareBacked = true := by
            rcases Resolver.unsealedThen_cases _ answer with ⟨token, _, kept⟩ | ⟨failure, rejected⟩
            · rw [kept] at continued
              cases (Program.runs_done_iff.mp continued).2
              rfl
            · rw [rejected] at continued
              cases (Program.runs_fail_iff.mp continued).2
          cases outcome with
          | error thrown => cases succeeded
          | ok trusted =>
              cases succeeded
              exact backed

end Fetcher

end JoinTrust
