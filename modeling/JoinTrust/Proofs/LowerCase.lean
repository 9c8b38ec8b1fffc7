import JoinTrust.Text.Case
import JoinTrust.Proofs.Utf8Form

set_option autoImplicit false

/-!
Lower case is reached in one step. The lower case of a letter has no lower case of its own, and it is neither of the
two letters that are written by a rule of their own. The table of mappings is compared with itself span by span, so that
this is settled for every letter at once.
-/

namespace JoinTrust.Text

variable {character : Char}

theorem lowerChar_of_uncovered (small : ¬(0x41 ≤ character.toNat ∧ character.toNat ≤ 0x5A))
    (uncovered : ∀ span ∈ lowerSpans, span.covers character.toNat = false) : lowerChar character = character := by
  rw [lowerChar]
  split
  · rw [if_neg]
    intro capital
    simp only [Char.le_def, UInt32.le_iff_toNat_le] at capital
    exact small capital
  · have none : lowerSpans.find? (·.covers character.toNat) = none := by
      simpa using uncovered
    rw [none]

/-!
## Spans
-/

/-- A span of code points and a range have no code point in common. -/
def misses (low high : Nat) (range : Nat × Nat) : Bool :=
  Nat.blt high range.1 || Nat.blt range.2 low

/-- A span of code points and the span of a mapping have none in common: they lie apart, or the one has the code
points that the other leaves out. -/
def evades (low high stride : Nat) (span : CaseSpan) : Bool :=
  Nat.blt high span.first || Nat.blt span.last low ||
    (Nat.beq low high || Nat.beq (stride % span.stride) 0) && !Nat.beq (low % span.stride) (span.first % span.stride)

theorem not_covers_of_evades {low high stride steps : Nat} {span : CaseSpan}
    (evaded : evades low high stride span = true) (within : low + stride * steps ≤ high) :
    span.covers (low + stride * steps) = false := by
  refine Bool.eq_false_iff.mpr fun covered => ?_
  simp only [CaseSpan.covers, Bool.and_eq_true, decide_eq_true_eq, beq_iff_eq] at covered
  obtain ⟨⟨from_, upto⟩, place⟩ := covered
  simp only [evades, Bool.or_eq_true, Bool.and_eq_true, Nat.blt_eq, Bool.not_eq_true', Nat.beq_eq] at evaded
  rcases evaded with (before | after) | ⟨shared, apart⟩
  · omega
  · omega
  · have differ : low % span.stride ≠ span.first % span.stride := by
      intro same
      rw [same, Nat.beq_refl] at apart
      cases apart
    have even : (low + stride * steps) % span.stride = low % span.stride := by
      rcases shared with single | divides
      · have still : stride * steps = 0 := by omega
        rw [still, Nat.add_zero]
      · rw [Nat.add_mod, Nat.mul_mod, divides]
        simp
    have odd : (low + stride * steps) % span.stride = span.first % span.stride := by
      rw [← Nat.sub_add_cancel from_, Nat.add_mod, place, Nat.zero_add, Nat.mod_mod]
    exact differ (even.symm.trans odd)

namespace CaseSpan

variable {span : CaseSpan} {code : Nat}

theorem bounds_of_covers (covered : span.covers code = true) : span.first ≤ code ∧ code ≤ span.last := by
  simp only [covers, Bool.and_eq_true, decide_eq_true_eq] at covered
  exact covered.1

/-- What a span covers is mapped into the span that is as far away as its mapping leads, on the same strides. -/
theorem image_of_covers (covered : span.covers code = true) (positive : 0 ≤ (span.first : Int) + span.offset) :
    ∃ steps, (code + span.offset).toNat = (span.first + span.offset).toNat + span.stride * steps ∧
      (span.first + span.offset).toNat + span.stride * steps ≤ (span.last + span.offset).toNat := by
  obtain ⟨least, most⟩ := bounds_of_covers covered
  simp only [covers, Bool.and_eq_true, beq_iff_eq] at covered
  have steps : span.stride * ((code - span.first) / span.stride) = code - span.first :=
    Nat.mul_div_cancel' (Nat.dvd_of_mod_eq_zero covered.2)
  refine ⟨(code - span.first) / span.stride, ?_, ?_⟩
  · rw [steps]
    omega
  · rw [steps]
    omega

end CaseSpan

/-!
## Lower case
-/

/-- A character that lower case leaves as it is, wherever it stands. -/
def IsLower (character : Char) : Prop :=
  lowerChar character = character ∧ character ≠ '\u0130' ∧ character ≠ '\u03A3'

instance (character : Char) : Decidable (IsLower character) :=
  inferInstanceAs (Decidable (_ ∧ _ ∧ _))

/-- The capital letters of ASCII, the two letters that are written by a rule of their own, and what is no character. -/
def neverLowered : List (Nat × Nat) :=
  [(0x41, 0x5A), (0x130, 0x130), (0x3A3, 0x3A3), (0xD800, 0xDFFF)]

theorem lowered_lowerSpans :
    (lowerSpans.all fun span => decide (0 ≤ (span.first : Int) + span.offset) &&
      Nat.blt (span.last + span.offset).toNat 0x110000 &&
      neverLowered.all (misses (span.first + span.offset).toNat (span.last + span.offset).toNat) &&
      lowerSpans.all (evades (span.first + span.offset).toNat (span.last + span.offset).toNat span.stride)) = true := by
  decide +kernel

theorem isLower_of_covers {span : CaseSpan} {code : Nat} (listed : span ∈ lowerSpans)
    (covered : span.covers code = true) : IsLower (Char.ofNat (code + span.offset).toNat) := by
  have lowered := List.all_eq_true.mp lowered_lowerSpans span listed
  simp only [Bool.and_eq_true, List.all_eq_true, decide_eq_true_eq, Nat.blt_eq] at lowered
  obtain ⟨⟨⟨positive, below⟩, missed⟩, evaded⟩ := lowered
  obtain ⟨steps, image, within⟩ := CaseSpan.image_of_covers covered positive
  have apart : ∀ range ∈ neverLowered, ¬(range.1 ≤ (code + span.offset).toNat ∧ (code + span.offset).toNat ≤ range.2) := by
    intro range among inside
    have outside := missed range among
    simp only [misses, Bool.or_eq_true, Nat.blt_eq] at outside
    omega
  have uncovered : ∀ other ∈ lowerSpans, other.covers (code + span.offset).toNat = false := by
    intro other among
    rw [image]
    exact not_covers_of_evades (evaded other among) within
  have surrogate := apart (0xD800, 0xDFFF) (by decide)
  have value : (Char.ofNat (code + span.offset).toNat).toNat = (code + span.offset).toNat := by
    apply toNat_ofNat
    rw [Nat.isValidChar]
    omega
  generalize Char.ofNat (code + span.offset).toNat = character at value
  rw [← value] at apart uncovered
  refine ⟨lowerChar_of_uncovered (apart (0x41, 0x5A) (by decide)) uncovered, ?_, ?_⟩
  · rintro rfl
    exact apart (0x130, 0x130) (by decide) (by decide)
  · rintro rfl
    exact apart (0x3A3, 0x3A3) (by decide) (by decide)

theorem isLower_lowerChar (dotted : character ≠ '\u0130') (sigma : character ≠ '\u03A3') :
    IsLower (lowerChar character) := by
  by_cases ascii : character.toNat < 0x80
  · exact of_decide_eq_true
      (of_ascii (fun character => decide (IsLower (lowerChar character))) (by decide +kernel) ascii)
  · cases found : lowerSpans.find? (·.covers character.toNat) with
    | none =>
        have unchanged : lowerChar character = character := by rw [lowerChar, if_neg ascii, found]
        rw [unchanged]
        exact ⟨unchanged, dotted, sigma⟩
    | some span =>
        rw [lowerChar, if_neg ascii, found]
        exact isLower_of_covers (List.mem_of_find?_eq_some found) (by simpa using List.find?_some found)

theorem isLower_of_mem_lowerFrom {before text : List Char} (member : character ∈ lowerFrom before text) :
    IsLower character := by
  induction text generalizing before with
  | nil => cases member
  | cons first rest ih =>
      rw [lowerFrom] at member
      simp only at member
      rcases List.mem_append.mp member with lowered | later
      · split at lowered
        · rcases List.mem_cons.mp lowered with rfl | accent
          · decide +kernel
          · cases List.mem_singleton.mp accent
            decide +kernel
        · next dotted =>
            split at lowered
            · split at lowered
              · cases List.mem_singleton.mp lowered
                decide +kernel
              · cases List.mem_singleton.mp lowered
                decide +kernel
            · next sigma =>
                cases List.mem_singleton.mp lowered
                exact isLower_lowerChar dotted sigma
      · exact ih later

theorem lowerFrom_of_isLower {before text : List Char} (settled : ∀ character ∈ text, IsLower character) :
    lowerFrom before text = text := by
  induction text generalizing before with
  | nil => rfl
  | cons first rest ih =>
      obtain ⟨⟨same, dotted, sigma⟩, later⟩ := List.forall_mem_cons.mp settled
      rw [lowerFrom, if_neg dotted, if_neg sigma, same, ih later]
      rfl

/-- Lower case has no lower case of its own. -/
theorem lower_lower (text : String) : lower (lower text) = lower text := by
  rw [lower, lower, String.toList_ofList, lowerFrom_of_isLower]
  intro character member
  exact isLower_of_mem_lowerFrom member

/-!
## ASCII
-/

theorem lowerChar_of_ascii (ascii : character.toNat < 0x80) : lowerChar character = character.toLower :=
  of_decide_eq_true (of_ascii (fun character => decide (lowerChar character = character.toLower)) (by decide +kernel) ascii)

theorem lowerFrom_of_ascii {before text : List Char} (ascii : ∀ character ∈ text, character.toNat < 0x80) :
    lowerFrom before text = text.map Char.toLower := by
  induction text generalizing before with
  | nil => rfl
  | cons first rest ih =>
      obtain ⟨here, later⟩ := List.forall_mem_cons.mp ascii
      have dotted : first ≠ '\u0130' := by
        rintro rfl
        exact absurd here (by decide)
      have sigma : first ≠ '\u03A3' := by
        rintro rfl
        exact absurd here (by decide)
      rw [lowerFrom, if_neg dotted, if_neg sigma, lowerChar_of_ascii here, ih later]
      rfl

theorem ascii_of_toLower (ascii : character.toLower.toNat < 0x80) : character.toNat < 0x80 := by
  apply Decidable.byContradiction
  intro high
  -- No capital letter of ASCII is so high, so that the character stays as it is.
  have same : character.toLower = character := by
    refine dif_neg fun capital => high ?_
    have most : character.toNat ≤ 0x5A := UInt32.le_iff_toNat_le.mp capital.2
    omega
  rw [same] at ascii
  exact high ascii

/-- However a name of ASCII is spelled in capital and small letters, its lower case is the one with small letters. -/
theorem lower_of_toLower {name text : String} (ascii : ∀ character ∈ name.toList, character.toNat < 0x80)
    (spelled : text.toLower = name) : lower text = name := by
  have letters : text.toList.map Char.toLower = name.toList := by
    rw [← spelled]
    exact (String.toList_map).symm
  have within : ∀ character ∈ text.toList, character.toNat < 0x80 := by
    intro character member
    apply ascii_of_toLower
    apply ascii
    rw [← letters]
    exact List.mem_map_of_mem member
  rw [lower, lowerFrom_of_ascii within, letters, String.ofList_toList]

end JoinTrust.Text
