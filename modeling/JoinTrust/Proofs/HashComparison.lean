import JoinTrust.Proofs.ResponseHash
import JoinTrust.Proofs.UnitForm

set_option autoImplicit false

/-!
The one header that verifies. A header may arrive as any sequence of UTF-16 units; half of a pair that
stands alone then reads as U+FFFD, so that different sequences may have the same octets, but only one has
those of a response hash. The comparison of octets refuses different lengths, and verification never asks it
for any.
-/

namespace JoinTrust

/-!
## Texts of digests
-/

namespace Text.Base64

theorem digit_mem (value : Nat) : digit value ∈ '=' :: alphabet := by
  rw [digit, List.getD_eq_getElem?_getD]
  cases found : alphabet[value]? with
  | none => exact List.mem_cons_self
  | some character => exact List.mem_cons_of_mem _ (List.mem_of_getElem? found)

/-- Base 64 is written in the letters of its alphabet and the sign that fills up. -/
theorem encodeChars_subset (bytes : Bytes) : encodeChars bytes ⊆ '=' :: alphabet := by
  have filler : '=' ∈ '=' :: alphabet := List.mem_cons_self
  induction bytes using encodeChars.induct with
  | case1 => exact List.nil_subset _
  | case2 a => simp [encodeChars, digit_mem, filler, -List.mem_cons]
  | case3 a b => simp [encodeChars, digit_mem, filler, -List.mem_cons]
  | case4 a b c rest ih => simp [encodeChars, digit_mem, ih, -List.mem_cons]

theorem notMem_encode {character : Char} (foreign : character ∉ '=' :: alphabet) (bytes : Bytes) :
    character ∉ (encode bytes).toList := by
  rw [encode, String.toList_ofList]
  intro among
  exact foreign (encodeChars_subset bytes among)

end Text.Base64

/-!
## Comparisons
-/

namespace Integrity

/-- Two strings of octets that are to be compared in a time that tells nothing of their contents. -/
structure Comparison where
  expected : Bytes
  actual : Bytes
deriving DecidableEq, Repr

namespace Comparison

def lengthsDiffer : Thrown :=
  .error "RangeError" "Input buffers must have the same byte length"

/-- What a comparison comes to. Lengths that differ would tell, and are refused. -/
def verdict (comparison : Comparison) : Except Thrown Bool :=
  if same : comparison.expected.length = comparison.actual.length then
    .ok (sameBytes comparison.expected comparison.actual same)
  else .error lengthsDiffer

theorem verdict_eq_error_iff {comparison : Comparison} {thrown : Thrown} :
    comparison.verdict = .error thrown ↔
      comparison.expected.length ≠ comparison.actual.length ∧ thrown = lengthsDiffer := by
  rw [verdict]
  split
  · next same => simp [same]
  · next differ => simp [differ, eq_comm]

/-- A comparison is made of octets of one length only. -/
def ofSameLength? (expected actual : Bytes) : Option Comparison :=
  if expected.length = actual.length then some ⟨expected, actual⟩ else none

theorem length_eq_of_ofSameLength? {expected actual : Bytes} {comparison : Comparison}
    (made : ofSameLength? expected actual = some comparison) :
    comparison.expected.length = comparison.actual.length := by
  rw [ofSameLength?] at made
  split at made
  · next same =>
      cases made
      exact same
  · cases made

/-- Where lengths are compared first, nothing is refused. -/
theorem elim_ofSameLength? (expected actual : Bytes) :
    (ofSameLength? expected actual).elim (.ok false) verdict =
      .ok (if same : expected.length = actual.length then sameBytes expected actual same else false) := by
  rw [ofSameLength?]
  split
  · next same => rw [Option.elim_some, verdict, dif_pos same]
  · rfl

end Comparison

/-- The comparison that a verification asks for, if it asks for one. -/
def comparison? (token nonce : String) (body : Bytes) (received : Option String) : Option Comparison :=
  received.bind fun text =>
    Comparison.ofSameLength? (Text.Utf8.encode (responseHash token nonce body)) (Text.Utf8.encode text)

/-- A verification that goes through its comparison, which may be refused. -/
def verification (token nonce : String) (body : Bytes) (received : Option String) : Except Thrown Bool :=
  (comparison? token nonce body received).elim (.ok false) Comparison.verdict

theorem length_eq_of_comparison? {token nonce : String} {body : Bytes} {received : Option String}
    {comparison : Comparison} (asked : comparison? token nonce body received = some comparison) :
    comparison.expected.length = comparison.actual.length := by
  obtain ⟨text, _, made⟩ := Option.bind_eq_some_iff.mp asked
  exact Comparison.length_eq_of_ofSameLength? made

/-- No verification is refused, and each comes to what is decided without a refusal being possible. -/
theorem verification_eq (token nonce : String) (body : Bytes) (received : Option String) :
    verification token nonce body received = .ok (verify token nonce body received) := by
  cases received with
  | none => rfl
  | some text =>
      rw [verification, comparison?, Option.bind_some, Comparison.elim_ofSameLength?, verify]

/-- A header verifies if and only if it is there and is the response hash, character for character; this holds
of headers in any units, well-formed or not. Lengths are compared first: the comparison of octets refuses
those of different lengths, but is never asked to compare them, so that nothing is thrown. -/
theorem one_header_verifies (token nonce : String) (body : Bytes) :
    (∀ received : Option String, verify token nonce body received = true ↔
      received = some (responseHash token nonce body)) ∧
    (∀ received : Option (List UInt16),
      verify token nonce body (received.map fun units => String.ofList (Text.Units.read units)) = true ↔
        received = some (Text.Units.spell (responseHash token nonce body).toList)) ∧
    (∀ comparison : Comparison, (∃ thrown, comparison.verdict = .error thrown) ↔
      comparison.expected.length ≠ comparison.actual.length) ∧
    (∀ received comparison, comparison? token nonce body received = some comparison →
      comparison.expected.length = comparison.actual.length) ∧
    ∀ received, verification token nonce body received = .ok (verify token nonce body received) := by
  refine ⟨fun received => verify_eq_true_iff, fun received => ?_, fun comparison => ?_,
    fun received comparison => length_eq_of_comparison?, verification_eq token nonce body⟩
  · rw [verify_eq_true_iff]
    cases received with
    | none => simp
    | some units =>
        have kept : '\uFFFD' ∉ (responseHash token nonce body).toList :=
          Text.Base64.notMem_encode (by decide) _
        rw [Option.map_some, Option.some.injEq, Option.some.injEq, ← Text.Units.read_eq_iff kept,
          ← String.toList_inj, String.toList_ofList]
  · simp [Comparison.verdict_eq_error_iff]

/-- The right header is compared with itself. -/
theorem one_header_verifies_genuine :
    let hash := responseHash "token" "nonce" [1]
    let comparison : Comparison := ⟨Text.Utf8.encode hash, Text.Utf8.encode hash⟩
    comparison? "token" "nonce" [1] (some hash) = some comparison ∧
      comparison.expected.length = comparison.actual.length := by
  intro hash comparison
  have asked : comparison? "token" "nonce" [1] (some hash) = some comparison := by
    rw [comparison?, Option.bind_some, Comparison.ofSameLength?, if_pos rfl]
  exact ⟨asked, (one_header_verifies "token" "nonce" [1]).2.2.2.1 _ _ asked⟩

end Integrity

end JoinTrust
