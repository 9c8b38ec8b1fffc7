import JoinTrust.Proofs.SettingsSources
import JoinTrust.Proofs.Url.PercentForm
import JoinTrust.Scope
import Mathlib.Data.List.Basic

set_option autoImplicit false

/-!
The words that select the scope of a token. A word is compared in upper case, and there one character outside ASCII is
written as an ASCII letter of the two words for a machine: the dotless i.
-/

namespace JoinTrust

namespace Text

/-!
## What trimming keeps
-/

section

variable {test : Char → Bool} {characters after : List Char}

theorem dropTrailing_eq_nil (dropped : ∀ character ∈ after, test character = true) : dropTrailing test after = [] := by
  induction after with
  | nil => rfl
  | cons head rest ih =>
      rw [List.forall_mem_cons] at dropped
      rw [dropTrailing, ih dropped.2]
      exact if_pos dropped.1

theorem dropTrailing_append_of_dropped (dropped : ∀ character ∈ after, test character = true) :
    dropTrailing test (characters ++ after) = dropTrailing test characters := by
  induction characters with
  | nil => exact dropTrailing_eq_nil dropped
  | cons head rest ih => simp only [List.cons_append, dropTrailing, ih]

theorem dropTrailing_eq_self (last : ∀ character ∈ characters.getLast?, test character = false) :
    dropTrailing test characters = characters := by
  induction characters with
  | nil => rfl
  | cons head rest ih =>
      cases rest with
      | nil => simpa [dropTrailing] using last head
      | cons next more =>
          have settled := ih (by simpa using last)
          rw [dropTrailing, settled]

end

/-- There is one text that is left once the blanks around a text are gone. -/
theorem trimOf_iff {raw kept : List Char} : TrimOf raw kept ↔ kept = trimChars raw := by
  constructor
  · rintro ⟨⟨before, after, rfl, blankBefore, blankAfter⟩, first, last⟩
    rw [trimChars, List.append_assoc, List.dropWhile_append_of_pos blankBefore]
    cases kept with
    | nil =>
        rw [List.nil_append, List.dropWhile_eq_nil_iff.mpr blankAfter]
        rfl
    | cons head rest =>
        have starts : (head :: rest ++ after).dropWhile isBlank = head :: rest ++ after := by
          simp [first head rfl]
        rw [starts, dropTrailing_append_of_dropped blankAfter, dropTrailing_eq_self last]
  · rintro rfl
    exact trimOf_trimChars raw

/-!
## Upper case seen through ASCII words
-/

def Ascii (characters : List Char) : Prop :=
  ∀ character ∈ characters, character.toNat < 0x80

/-- An upper case of all characters: it may be any where neither it nor the one here is written in ASCII. -/
def UpperCase (upper : Char → List Char) : Prop :=
  ∀ character, Ascii (upper character) ∨ Ascii (upperChar character) → upper character = upperChar character

/-- Against an ASCII word, every upper case finds what the one here does. -/
theorem UpperCase.flatMap_eq_iff {upper : Char → List Char} (casing : UpperCase upper) {word : List Char}
    (ascii : Ascii word) (characters : List Char) :
    characters.flatMap upper = word ↔ upperChars characters = word := by
  constructor
  · rintro rfl
    apply List.flatMap_congr
    intro character member
    refine (casing character (.inl fun letter within => ascii letter ?_)).symm
    exact List.mem_flatMap.mpr ⟨character, member, within⟩
  · rintro rfl
    apply List.flatMap_congr
    intro character member
    refine casing character (.inr fun letter within => ascii letter ?_)
    exact List.mem_flatMap.mpr ⟨character, member, within⟩

theorem isLower_of_between {character : Char} (least : 'a' ≤ character) (most : character ≤ 'z') :
    character.isLower = true :=
  Bool.and_eq_true_iff.mpr ⟨decide_eq_true least, decide_eq_true most⟩

theorem ascii_of_letter {character : Char} (letter : character.isUpper = true ∨ character.isLower = true) :
    character.toNat < 0x80 := by
  apply ascii_of_isAlphanum
  change (character.isUpper || character.isLower || character.isDigit) = true
  rw [Bool.or_eq_true_iff.mpr letter, Bool.true_or]

theorem toUpper_of_not_isLower {character : Char} (other : character.isLower = false) :
    character.toUpper = character := by
  refine dif_neg fun small => ?_
  rw [isLower_of_between small.1 small.2] at other
  cases other

theorem toLower_of_not_isUpper {character : Char} (other : character.isUpper = false) :
    character.toLower = character :=
  dif_neg (of_decide_eq_false other)

theorem toLower_toUpper (character : Char) : character.toUpper.toLower = character.toLower := by
  cases lower : character.isLower with
  | false => rw [toUpper_of_not_isLower lower]
  | true =>
      exact of_decide_eq_true (of_ascii (fun letter => decide (letter.toUpper.toLower = letter.toLower))
        (by decide +kernel) (ascii_of_letter (.inr lower)))

theorem toUpper_toLower (character : Char) : character.toLower.toUpper = character.toUpper := by
  cases capital : character.isUpper with
  | false => rw [toLower_of_not_isUpper capital]
  | true =>
      exact of_decide_eq_true (of_ascii (fun letter => decide (letter.toLower.toUpper = letter.toUpper))
        (by decide +kernel) (ascii_of_letter (.inl capital)))

/-- What is told of a capital letter of ASCII, one after another, holds of every capital. -/
theorem of_capital (holds : Char → Bool)
    (checked : ((List.range 0x80).all fun code => !(Char.ofNat code).isUpper || holds (Char.ofNat code)) = true)
    {letter : Char} (capital : letter.isUpper = true) : holds letter = true := by
  have told := of_ascii (fun letter => !letter.isUpper || holds letter) checked (ascii_of_letter (.inl capital))
  rwa [capital, Bool.not_true, Bool.false_or] at told

theorem toUpper_eq_iff {letter : Char} (capital : letter.isUpper = true) (character : Char) :
    character.toUpper = letter ↔ character.toLower = letter.toLower := by
  constructor
  · rintro rfl
    rw [toLower_toUpper]
  · intro same
    have unchanged : letter.toUpper = letter :=
      of_decide_eq_true (of_capital (fun letter => decide (letter.toUpper = letter)) (by decide +kernel) capital)
    rw [← toUpper_toLower, same, toUpper_toLower, unchanged]

/-- A character with its dot, in lower case as far as ASCII goes. -/
def lowerDotted (character : Char) : Char :=
  if character = '\u0131' then 'i' else character.toLower

/-- A character whose upper case is one letter, and that its lower case tells from all other capitals. -/
def Single (character : Char) : Prop :=
  ∃ only, upperChar character = [only] ∧
    ∀ letter, letter.isUpper = true → (only = letter ↔ lowerDotted character = letter.toLower)

theorem single_of_dotted {character : Char} (dotted : character ≠ '\u0131')
    (simple : upperChar character = [character.toUpper]) : Single character := by
  refine ⟨_, simple, fun letter capital => ?_⟩
  rw [lowerDotted, if_neg dotted, toUpper_eq_iff capital]

theorem single_dotless : Single '\u0131' := by
  refine ⟨'I', rfl, fun letter capital => ?_⟩
  rw [lowerDotted, if_pos rfl]
  exact toUpper_eq_iff capital 'i'

/-- A ligature, the sharp s or the long one, or else a character that is its own upper case. -/
theorem upperChar_of_not_isLower {character : Char} (other : character.isLower = false)
    (dotted : character ≠ '\u0131') :
    upperChar character = [character] ∨
      0x80 ≤ (lowerDotted character).toNat ∧ ('F' ∈ upperChar character ∨ 'S' ∈ upperChar character) := by
  have beyond : ¬ ('a' ≤ character ∧ character ≤ 'z') := by
    intro between
    rw [isLower_of_between between.1 between.2] at other
    cases other
  unfold upperChar
  rw [if_neg beyond]
  split
  · exact absurd rfl dotted
  · exact .inr (by decide)
  · exact .inr (by decide)
  · exact .inr (by decide)
  · exact .inr (by decide)
  · exact .inr (by decide)
  · exact .inr (by decide)
  · exact .inr (by decide)
  · exact .inr (by decide)
  · exact .inr (by decide)
  · exact .inl rfl

theorem upperChar_of_isLower {character : Char} (lower : character.isLower = true) :
    upperChar character = [character.toUpper] := by
  have told := of_ascii (fun letter => !letter.isLower || upperChar letter == [letter.toUpper]) (by decide +kernel)
    (ascii_of_letter (.inr lower))
  rw [lower, Bool.not_true, Bool.false_or] at told
  exact eq_of_beq told

/-- The upper case of a character is one letter, or it has an F or an S in it. -/
theorem single_or_several (character : Char) :
    Single character ∨
      0x80 ≤ (lowerDotted character).toNat ∧ ('F' ∈ upperChar character ∨ 'S' ∈ upperChar character) := by
  by_cases dotless : character = '\u0131'
  · subst dotless
    exact .inl single_dotless
  · cases lower : character.isLower with
    | true => exact .inl (single_of_dotted dotless (upperChar_of_isLower lower))
    | false =>
        rcases upperChar_of_not_isLower lower dotless with same | several
        · have unchanged : character.toUpper = character := toUpper_of_not_isLower lower
          exact .inl (single_of_dotted dotless (by rw [same, unchanged]))
        · exact .inr several

/-- A capital that no ligature and no old form is written with. -/
def Plain (letter : Char) : Prop :=
  letter.isUpper = true ∧ letter ≠ 'F' ∧ letter ≠ 'S'

instance decidablePlain (letter : Char) : Decidable (Plain letter) :=
  inferInstanceAs (Decidable (_ ∧ _ ∧ _))

theorem toNat_toLower_lt {letter : Char} (capital : letter.isUpper = true) : letter.toLower.toNat < 0x80 :=
  of_decide_eq_true (of_capital (fun letter => decide (letter.toLower.toNat < 0x80)) (by decide +kernel) capital)

/-- A word of such capitals is what a text is in upper case exactly when the two are one in lower case, a dotless i
counting as one with a dot. -/
theorem upperChars_eq_iff {word : List Char} (plain : ∀ letter ∈ word, Plain letter) (characters : List Char) :
    upperChars characters = word ↔ characters.map lowerDotted = word.map Char.toLower := by
  induction characters generalizing word with
  | nil => cases word <;> simp [upperChars]
  | cons head rest ih =>
      rw [upperChars, List.flatMap_cons, ← upperChars, List.map_cons]
      rcases single_or_several head with ⟨only, single, told⟩ | ⟨beyond, several⟩
      · cases word with
        | nil => simp [single]
        | cons letter others =>
            rw [List.forall_mem_cons] at plain
            simp only [single, List.singleton_append, List.map_cons, List.cons.injEq, told letter plain.1.1, ih plain.2]
      · constructor
        · rintro rfl
          rcases several with f | s
          · exact absurd rfl (plain 'F' (List.mem_append_left _ f)).2.1
          · exact absurd rfl (plain 'S' (List.mem_append_left _ s)).2.2
        · intro same
          cases word with
          | nil => cases same
          | cons letter others =>
              have small := toNat_toLower_lt (plain letter List.mem_cons_self).1
              rw [← (List.cons.inj same).1] at small
              omega

theorem lowerDotted_eq_iff {letter : Char} (dotted : letter ≠ 'i') (dotless : letter ≠ '\u0131') (character : Char) :
    lowerDotted character = letter ↔ character.toLower = letter := by
  unfold lowerDotted
  split
  · next same =>
      subst same
      exact ⟨fun equal => absurd equal.symm dotted, fun equal => absurd equal.symm dotless⟩
  · rfl

theorem lowerDotted_eq_i_iff (character : Char) :
    lowerDotted character = 'i' ↔ character.toLower = 'i' ∨ character.toLower = '\u0131' := by
  unfold lowerDotted
  split
  · next same =>
      subst same
      exact ⟨fun _ => .inr rfl, fun _ => rfl⟩
  · next dotted =>
      refine ⟨.inl, fun either => either.resolve_right fun equal => ?_⟩
      by_cases capital : character.isUpper = true
      · have small := toNat_toLower_lt capital
        rw [equal] at small
        exact absurd small (by decide)
      · rw [toLower_of_not_isUpper (by simpa using capital)] at equal
        exact dotted equal

theorem map_lowerDotted_eq_iff {word : List Char} (dotted : 'i' ∉ word) (dotless : '\u0131' ∉ word)
    (characters : List Char) : characters.map lowerDotted = word ↔ characters.map Char.toLower = word := by
  induction characters generalizing word with
  | nil => rfl
  | cons head rest ih =>
      cases word with
      | nil => simp
      | cons letter others =>
          rw [List.mem_cons, not_or] at dotted dotless
          simp only [List.map_cons, List.cons.injEq, ih dotted.2 dotless.2,
            lowerDotted_eq_iff (Ne.symm dotted.1) (Ne.symm dotless.1)]

/-- Around its one i a word is in lower case what it is, and the i may lack its dot. -/
theorem map_lowerDotted_eq_append_iff (before after : List Char) (dotted : 'i' ∉ before ∧ 'i' ∉ after)
    (dotless : '\u0131' ∉ before ∧ '\u0131' ∉ after) (characters : List Char) :
    characters.map lowerDotted = before ++ 'i' :: after ↔
      characters.map Char.toLower = before ++ 'i' :: after ∨
        characters.map Char.toLower = before ++ '\u0131' :: after := by
  simp only [List.map_eq_append_iff, List.map_eq_cons_iff, map_lowerDotted_eq_iff dotted.1 dotless.1,
    map_lowerDotted_eq_iff dotted.2 dotless.2, lowerDotted_eq_i_iff]
  constructor
  · rintro ⟨front, back, split, leads, head, rest, next, with_dot | without, trails⟩
    · exact .inl ⟨front, back, split, leads, head, rest, next, with_dot, trails⟩
    · exact .inr ⟨front, back, split, leads, head, rest, next, without, trails⟩
  · rintro (⟨front, back, split, leads, head, rest, next, equal, trails⟩ |
        ⟨front, back, split, leads, head, rest, next, equal, trails⟩)
    · exact ⟨front, back, split, leads, head, rest, next, .inl equal, trails⟩
    · exact ⟨front, back, split, leads, head, rest, next, .inr equal, trails⟩

end Text

namespace Scope

/-- What is left of a word that selects the scope of a machine: one of the two words for it in letters of either case,
or the first of them with a dotless i. -/
def SelectsMachine (kept : List Char) : Prop :=
  kept.map Char.toLower = "machine".toList ∨ kept.map Char.toLower = "node".toList ∨
    kept.map Char.toLower = "mach\u0131ne".toList

theorem ofWord_eq_machine_iff (word : String) :
    ofWord (some word) = .machine ↔
      Text.upperChars (Text.trimChars word.toList) = "MACHINE".toList ∨
        Text.upperChars (Text.trimChars word.toList) = "NODE".toList := by
  simp only [ofWord, Option.getD_some]
  split
  · next selects => exact ⟨fun _ => selects, fun _ => rfl⟩
  · next other => exact ⟨nofun, fun selects => absurd selects other⟩

theorem upperChars_eq_machine_iff (characters : List Char) :
    Text.upperChars characters = "MACHINE".toList ↔
      characters.map Char.toLower = "machine".toList ∨ characters.map Char.toLower = "mach\u0131ne".toList := by
  have plain : ∀ letter ∈ "MACHINE".toList, Text.Plain letter := Text.forall_mem_of_all (by decide)
  rw [Text.upperChars_eq_iff plain]
  exact Text.map_lowerDotted_eq_append_iff "mach".toList "ne".toList (by decide) (by decide) characters

theorem upperChars_eq_node_iff (characters : List Char) :
    Text.upperChars characters = "NODE".toList ↔ characters.map Char.toLower = "node".toList := by
  have plain : ∀ letter ∈ "NODE".toList, Text.Plain letter := Text.forall_mem_of_all (by decide)
  rw [Text.upperChars_eq_iff plain]
  exact Text.map_lowerDotted_eq_iff (by decide) (by decide) characters

theorem ofWord_eq_machine_iff_selects (word : String) :
    ofWord (some word) = .machine ↔ SelectsMachine (Text.trimChars word.toList) := by
  rw [ofWord_eq_machine_iff, upperChars_eq_machine_iff, upperChars_eq_node_iff, SelectsMachine, or_assoc,
    or_comm (a := _ = "mach\u0131ne".toList)]

/-- The scope of every word, by what is left of it without the blanks around it. Any upper case will do that is the one
here where either is written in ASCII. -/
theorem scopes_follow_words (word : String) :
    (∀ kept, Text.TrimOf word.toList kept →
      (ofWord (some word) = .machine ↔ SelectsMachine kept) ∧ (ofWord (some word) = .cluster ↔ ¬ SelectsMachine kept) ∧
      ∀ upper, Text.UpperCase upper →
        (ofWord (some word) = .machine ↔ kept.flatMap upper = "MACHINE".toList ∨ kept.flatMap upper = "NODE".toList)) ∧
    (∃ kept, Text.TrimOf word.toList kept ∧ ∀ other, Text.TrimOf word.toList other → other = kept) ∧
    ofWord none = .cluster := by
  refine ⟨?_, ⟨_, Text.trimOf_trimChars _, fun other => Text.trimOf_iff.mp⟩, by decide⟩
  intro kept trimmed
  obtain rfl := Text.trimOf_iff.mp trimmed
  refine ⟨ofWord_eq_machine_iff_selects word, ?_, ?_⟩
  · rw [← ofWord_eq_machine_iff_selects]
    cases ofWord (some word) <;> simp
  · intro upper casing
    rw [ofWord_eq_machine_iff, casing.flatMap_eq_iff (Text.forall_mem_of_all (by decide)),
      casing.flatMap_eq_iff (Text.forall_mem_of_all (by decide))]

/-- A word with blanks around it, and an upper case that knows of one letter more. -/
theorem scopes_follow_words_node :
    let upper : Char → List Char := fun character =>
      if character = '\u00E9' then ['\u00C9'] else Text.upperChar character
    Text.TrimOf " Node\n".toList "Node".toList ∧ ofWord (some " Node\n") = .machine ∧ Text.UpperCase upper ∧
      "Node".toList.flatMap upper = "NODE".toList ∧ ofWord (some "nodes") = .cluster := by
  intro upper
  have trimmed : Text.TrimOf " Node\n".toList "Node".toList := Text.trimOf_iff.mpr (by decide)
  have whole : Text.TrimOf "nodes".toList "nodes".toList := Text.trimOf_iff.mpr (by decide)
  have casing : Text.UpperCase upper := by
    intro character ascii
    by_cases accented : character = '\u00E9'
    · subst accented
      rcases ascii with capital | small
      · exact absurd (capital '\u00C9' List.mem_cons_self) (by decide)
      · exact absurd (small '\u00E9' List.mem_cons_self) (by decide)
    · exact if_neg accented
  obtain ⟨selects, _, cased⟩ := (scopes_follow_words " Node\n").1 _ trimmed
  have machine : ofWord (some " Node\n") = .machine := selects.mpr (.inr (.inl (by decide)))
  refine ⟨trimmed, machine, casing, ?_, ?_⟩
  · exact ((cased upper casing).mp machine).resolve_left (by decide)
  · exact ((scopes_follow_words "nodes").1 _ whole).2.1.mpr (by unfold SelectsMachine; decide)

/-- A word with a dotless i is neither of the two words and selects the scope of a machine all the same. -/
theorem dotless_word_selects_machine :
    ofWord (some "mach\u0131ne") = .machine ∧
      ∀ kept, Text.TrimOf "mach\u0131ne".toList kept →
        kept.map Char.toLower ≠ "machine".toList ∧ kept.map Char.toLower ≠ "node".toList := by
  constructor
  · decide
  · intro kept trimmed
    obtain rfl := Text.trimOf_iff.mp trimmed
    decide

end Scope

end JoinTrust
