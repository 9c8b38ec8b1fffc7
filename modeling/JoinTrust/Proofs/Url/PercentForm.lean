import JoinTrust.Proofs.Utf8Form
import JoinTrust.Url.Percent

set_option autoImplicit false

/-!
Texts in percent-encoded form. Encoding leaves nothing to encode, so a text in this form is written as it is; an
ASCII text without a percent sign stands for itself.
-/

namespace JoinTrust

/-!
## ASCII
-/

/-- What is checked of the characters of a list, one after another, holds of every character in it. -/
theorem Text.forall_mem_of_all {holds : Char → Prop} [DecidablePred holds] {characters : List Char}
    (checked : (characters.all fun character => decide (holds character)) = true) :
    ∀ character ∈ characters, holds character :=
  fun character member => of_decide_eq_true (List.all_eq_true.mp checked character member)

theorem Text.ascii_of_isAlphanum {character : Char} (alphanumeric : character.isAlphanum = true) :
    character.toNat < 0x80 := by
  delta Char.isAlphanum Char.isAlpha Char.isUpper Char.isLower Char.isDigit at alphanumeric
  simp only [Bool.or_eq_true, Bool.and_eq_true, decide_eq_true_eq, ge_iff_le, UInt32.le_iff_toNat_le, Char.reduceVal,
    UInt32.reduceToNat] at alphanumeric
  have same : character.toNat = character.val.toNat := rfl
  omega

namespace Text.Utf8

/-- The first octet of a character is the character itself, or beyond ASCII. -/
theorem encodeChar_eq_cons (character : Char) :
    ∃ octet rest, encodeChar character = octet :: rest ∧
      (octet.toNat = character.toNat ∨ 0x80 ≤ octet.toNat) := by
  by_cases ascii : character.toNat < 0x80
  · refine ⟨_, _, encodeChar_of_ascii ascii, .inl ?_⟩
    simp only [UInt8.toNat_ofNat']
    omega
  · have beyond : ¬ character.val.toNat ≤ 0x7F := fun least => ascii (Nat.lt_succ_of_le least)
    simp only [encodeChar, String.utf8EncodeChar, if_neg beyond]
    split
    · refine ⟨_, _, rfl, .inr ?_⟩
      simp [UInt8.toNat_add]
      omega
    · split
      · refine ⟨_, _, rfl, .inr ?_⟩
        simp [UInt8.toNat_add]
        omega
      · refine ⟨_, _, rfl, .inr ?_⟩
        simp [UInt8.toNat_add]
        omega

end Text.Utf8

namespace Url

variable {inSet : Char → Bool} {text : List Char} {character : Char}

/-!
## Written forms
-/

/-- A text in which no character is left that a set demands to be encoded. -/
def Encoded (inSet : Char → Bool) (text : List Char) : Prop :=
  ∀ character ∈ text, inSet character = false

/-- What encoding an octet may write. -/
def percentAlphabet : List Char :=
  '%' :: "0123456789ABCDEF".toList

/-- A set that demands nothing that encoding writes, as all sets do. -/
def Spares (inSet : Char → Bool) : Prop :=
  ∀ character ∈ percentAlphabet, inSet character = false

instance (inSet : Char → Bool) : Decidable (Spares inSet) :=
  List.decidableBAll _ percentAlphabet

theorem spares_controlSet : Spares inControlSet := by decide

theorem spares_querySet : Spares inQuerySet := by decide

theorem spares_specialQuerySet : Spares inSpecialQuerySet := by decide

theorem spares_fragmentSet : Spares inFragmentSet := by decide

theorem spares_pathSet : Spares inPathSet := by decide

theorem spares_userinfoSet : Spares inUserinfoSet := by decide

theorem percentOctet_subset (octet : UInt8) (member : character ∈ percentOctet octet) :
    character ∈ percentAlphabet := by
  have digits : ∀ value < 16, Text.Hex.upperDigit value ∈ percentAlphabet := by decide
  have bound := octet.toNat_lt
  simp only [percentOctet, List.mem_cons, List.not_mem_nil, or_false] at member
  rcases member with rfl | rfl | rfl
  · exact List.mem_cons_self
  · exact digits _ (by omega)
  · exact digits _ (by omega)

theorem encoded_percentEncode (spares : Spares inSet) (text : List Char) :
    Encoded inSet (percentEncode inSet text) := by
  intro character member
  obtain ⟨source, _, spelled⟩ := List.mem_flatMap.mp member
  rw [percentChar] at spelled
  by_cases demanded : inSet source = true
  · rw [if_pos demanded] at spelled
    obtain ⟨octet, _, written⟩ := List.mem_flatMap.mp spelled
    exact spares character (percentOctet_subset octet written)
  · rw [if_neg demanded] at spelled
    cases List.mem_singleton.mp spelled
    simpa using demanded

theorem Encoded.percentEncode_eq (encoded : Encoded inSet text) : percentEncode inSet text = text := by
  induction text with
  | nil => rfl
  | cons character rest ih =>
      obtain ⟨first, later⟩ := List.forall_mem_cons.mp encoded
      have next := ih later
      rw [percentEncode] at next ⊢
      rw [List.flatMap_cons, next]
      simp [percentChar, first]

theorem Encoded.notMem (encoded : Encoded inSet text) (demanded : inSet character = true) : character ∉ text := by
  intro member
  rw [encoded character member] at demanded
  cases demanded

theorem percentChar_demanded (demanded : inSet character = true) :
    ∃ (octet : UInt8) (after : List Char), (octet.toNat = character.toNat ∨ 0x80 ≤ octet.toNat) ∧
      percentChar inSet character =
        '%' :: Text.Hex.upperDigit (octet.toNat / 16) :: Text.Hex.upperDigit (octet.toNat % 16) :: after := by
  obtain ⟨octet, rest, octets, first⟩ := Text.Utf8.encodeChar_eq_cons character
  exact ⟨octet, rest.flatMap percentOctet, first, by simp [percentChar, demanded, octets, percentOctet]⟩

/-- A text in whose encoded form there is no percent sign has nothing to encode. -/
theorem encoded_of_notMem_percentEncode (unencoded : '%' ∉ percentEncode inSet text) : Encoded inSet text := by
  intro character member
  by_cases demanded : inSet character = true
  · obtain ⟨octet, after, _, written⟩ := percentChar_demanded demanded
    exact absurd (List.mem_flatMap.mpr ⟨character, member, written ▸ List.mem_cons_self⟩) unencoded
  · simpa using demanded

theorem percentEncode_ne_nil (filled : text ≠ []) : percentEncode inSet text ≠ [] := by
  obtain ⟨character, rest, rfl⟩ := List.exists_cons_of_ne_nil filled
  by_cases demanded : inSet character = true
  · obtain ⟨octet, after, _, written⟩ := percentChar_demanded demanded
    simp [percentEncode, written]
  · simp [percentEncode, percentChar, demanded]

/-- A character that encoding writes, if it is none of its own, was there before. -/
theorem mem_of_mem_percentEncode (member : character ∈ percentEncode inSet text)
    (foreign : character ∉ percentAlphabet) : character ∈ text := by
  obtain ⟨source, within, spelled⟩ := List.mem_flatMap.mp member
  rw [percentChar] at spelled
  split at spelled
  · obtain ⟨octet, _, written⟩ := List.mem_flatMap.mp spelled
    exact absurd (percentOctet_subset octet written) foreign
  · cases List.mem_singleton.mp spelled
    exact within

/-!
## Visible characters
-/

/-- No blank and no control character. -/
def Visible (text : List Char) : Prop :=
  ∀ character ∈ text, 0x20 < character.toNat

theorem visible_of_spared (spared : inSet character = false)
    (demands : ∀ character, character.toNat ≤ 0x20 → inSet character = true) : 0x20 < character.toNat := by
  refine Nat.lt_of_not_le fun low => ?_
  rw [demands character low] at spared
  cases spared

theorem Encoded.visible (encoded : Encoded inSet text)
    (demands : ∀ character, character.toNat ≤ 0x20 → inSet character = true) : Visible text :=
  fun character member => visible_of_spared (encoded character member) demands

theorem demands_blank (low : character.toNat ≤ 0x20) : inControlSet character = true ∨ character = ' ' := by
  by_cases control : character.toNat < 0x20
  · simp [inControlSet, control]
  · have blank : character.toNat = ' '.toNat := by
      simp only [Char.reduceToNat]
      omega
    exact .inr (Char.toNat_inj.mp blank)

theorem querySet_demands (character : Char) (low : character.toNat ≤ 0x20) : inQuerySet character = true := by
  rcases demands_blank low with control | rfl
  · simp [inQuerySet, control]
  · decide

theorem fragmentSet_demands (character : Char) (low : character.toNat ≤ 0x20) : inFragmentSet character = true := by
  rcases demands_blank low with control | rfl
  · simp [inFragmentSet, control]
  · decide

theorem pathSet_demands (character : Char) (low : character.toNat ≤ 0x20) : inPathSet character = true := by
  simp [inPathSet, querySet_demands character low]

theorem userinfoSet_demands (character : Char) (low : character.toNat ≤ 0x20) : inUserinfoSet character = true := by
  simp [inUserinfoSet, pathSet_demands character low]

/-!
## Reading
-/

theorem percentDecode_of_notMem (unencoded : '%' ∉ text) : percentDecode text = Text.Utf8.encodeChars text := by
  induction text with
  | nil => rw [percentDecode]; rfl
  | cons character rest ih =>
      simp only [List.mem_cons, not_or] at unencoded
      rw [percentDecode, ih unencoded.2]
      · rfl
      · intro high low rest same
        exact absurd same.symm unencoded.1

end Url

end JoinTrust
