import JoinTrust.Bootstrap
import JoinTrust.Proofs.Utf8Form

set_option autoImplicit false

/-!
Verification of a response hash is equality of texts. The comparison that never stops early decides
equality of octets, UTF-8 keeps different texts apart, and nothing about the digest itself is used.
-/

namespace JoinTrust

namespace Integrity

/-- A disjunction of octets vanishes only if every one of them does. -/
private theorem foldl_or_eq_zero_iff (octets : Bytes) (seen : UInt8) :
    octets.foldl (· ||| ·) seen = 0 ↔ seen = 0 ∧ ∀ octet ∈ octets, octet = 0 := by
  induction octets generalizing seen with
  | nil => simp
  | cons octet rest ih =>
      rw [List.foldl_cons, ih, UInt8.or_eq_zero_iff]
      simp [and_assoc]

private theorem zipWith_xor_vanishes_iff (left right : Bytes) (same : left.length = right.length) :
    (∀ octet ∈ List.zipWith (· ^^^ ·) left right, octet = 0) ↔ left = right := by
  induction left generalizing right with
  | nil =>
      have empty : right = [] := List.eq_nil_of_length_eq_zero same.symm
      simp [empty]
  | cons head left ih =>
      cases right with
      | nil => cases same
      | cons other right =>
          have rest : left.length = right.length := Nat.succ.inj same
          rw [List.zipWith_cons_cons, List.forall_mem_cons, ih right rest, UInt8.xor_eq_zero_iff,
            List.cons.injEq]

theorem sameBytes_eq_true_iff {left right : Bytes} (same : left.length = right.length) :
    sameBytes left right same = true ↔ left = right := by
  rw [sameBytes, beq_iff_eq, foldl_or_eq_zero_iff, zipWith_xor_vanishes_iff left right same]
  simp

/-- The one received text that verifies is the response hash itself; an absent one never does. -/
theorem verify_eq_true_iff {token nonce : String} {body : Bytes} {received : Option String} :
    verify token nonce body received = true ↔ received = some (responseHash token nonce body) := by
  cases received with
  | none => simp [verify]
  | some received =>
      simp only [verify]
      split
      · next same =>
          rw [sameBytes_eq_true_iff same, Text.Utf8.encode_inj, Option.some.injEq]
          exact eq_comm
      · next differs =>
          constructor
          · intro verified
            cases verified
          · intro same
            cases same
            exact absurd rfl differs

end Integrity

/-- Replies are looked up under the spelling that a transport gives to names of headers. -/
theorem hashHeaderKey_eq : hashHeaderKey = "x-cattle-hash" := by
  decide

/-- A judgement accepts one reply: status 200 under the response hash. Emptiness is looked at last. -/
theorem Reply.judge_eq_ok_iff {token nonce : String} {reply : Reply} {trusted : CaCerts} :
    reply.judge token nonce = .ok trusted ↔
      reply.status = 200 ∧
        reply.headers.get? "x-cattle-hash" = some (Integrity.responseHash token nonce reply.body) ∧
        trusted = CaCerts.ofBody reply.body := by
  simp only [Reply.judge, hashHeaderKey_eq]
  split
  · next status =>
      constructor
      · intro accepted
        cases accepted
      · rintro ⟨same, _⟩
        exact absurd same status
  · next status =>
      have ok : reply.status = 200 := Decidable.not_not.mp status
      split
      · next rejected =>
          constructor
          · intro accepted
            cases accepted
          · rintro ⟨_, hash, _⟩
            rw [Integrity.verify_eq_true_iff.mpr hash] at rejected
            cases rejected
      · next verified =>
          have hash := Integrity.verify_eq_true_iff.mp (Bool.not_eq_false _ ▸ verified)
          constructor
          · intro accepted
            cases accepted
            exact ⟨ok, hash, rfl⟩
          · rintro ⟨_, _, rfl⟩
            rfl

end JoinTrust
