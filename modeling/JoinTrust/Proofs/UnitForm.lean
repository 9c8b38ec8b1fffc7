import JoinTrust.Proofs.Utf8Form
import JoinTrust.Text.Units

set_option autoImplicit false

/-!
Texts in UTF-16 units. Every text is spelled in units, and any units read as a text: half of a pair that stands
alone reads as U+FFFD, so that units can be told from their text unless something in it was replaced. A text is cut
after its first units, which may divide a character.
-/

namespace JoinTrust.Text.Units

/-- A text has as many units as are counted for excerpts. -/
theorem length_spell (text : List Char) : (spell text).length = count text := by
  induction text with
  | nil => rfl
  | cons character rest ih =>
      rw [spell, List.flatMap_cons, List.length_append, count, ← ih, spell, spellChar, ofChar]
      split <;> rfl

theorem read_cons_of_not_isFirstHalf {unit : UInt16} (whole : ¬IsFirstHalf unit) (rest : List UInt16) :
    read (unit :: rest) = readSingle unit :: read rest := by
  cases rest with
  | nil => rfl
  | cons next rest => rw [read, if_neg fun pair => whole pair.1]

theorem read_spellChar (character : Char) (units : List UInt16) :
    read (spellChar character ++ units) = character :: read units := by
  have scalar : character.toNat < 0xD800 ∨ 0xDFFF < character.toNat ∧ character.toNat < 0x110000 :=
    character.valid
  rw [spellChar]
  split
  · next single =>
      have value : (UInt16.ofNat character.toNat).toNat = character.toNat :=
        UInt16.toNat_ofNat_of_lt' single
      have first : ¬IsFirstHalf (UInt16.ofNat character.toNat) := by
        rw [IsFirstHalf, value]
        omega
      have second : ¬IsSecondHalf (UInt16.ofNat character.toNat) := by
        rw [IsSecondHalf, value]
        omega
      rw [List.singleton_append, read_cons_of_not_isFirstHalf first, readSingle,
        if_neg (not_or.mpr ⟨first, second⟩), value, Char.ofNat_toNat]
  · next pair =>
      have first : (UInt16.ofNat (firstHalf character)).toNat = firstHalf character :=
        UInt16.toNat_ofNat_of_lt' (by rw [firstHalf, UInt16.size]; omega)
      have second : (UInt16.ofNat (secondHalf character)).toNat = secondHalf character :=
        UInt16.toNat_ofNat_of_lt' (by rw [secondHalf, UInt16.size]; omega)
      have halves : IsFirstHalf (UInt16.ofNat (firstHalf character)) ∧
          IsSecondHalf (UInt16.ofNat (secondHalf character)) := by
        rw [IsFirstHalf, IsSecondHalf, first, second, firstHalf, secondHalf]
        omega
      have value : 0x10000 + (firstHalf character - 0xD800) * 0x400 + (secondHalf character - 0xDC00) =
          character.toNat := by
        rw [firstHalf, secondHalf]
        omega
      rw [List.cons_append, List.singleton_append, read, if_pos halves, readPair, first, second, value,
        Char.ofNat_toNat]

theorem read_spell_append (text : List Char) (units : List UInt16) : read (spell text ++ units) = text ++ read units := by
  induction text with
  | nil => rfl
  | cons character rest ih =>
      rw [spell, List.flatMap_cons, List.append_assoc, read_spellChar, ← spell, ih, List.cons_append]

/-- Every text has units that read as it. -/
theorem read_spell (text : List Char) : read (spell text) = text := by
  have alone := read_spell_append text []
  rwa [List.append_nil, read, List.append_nil] at alone

theorem spellChar_readSingle {unit : UInt16} (kept : readSingle unit ≠ '\uFFFD') :
    spellChar (readSingle unit) = [unit] := by
  have whole : ¬(IsFirstHalf unit ∨ IsSecondHalf unit) := fun half => kept (if_pos half)
  have bounds := unit.toNat_lt
  have valid : unit.toNat.isValidChar := by
    rw [IsFirstHalf, IsSecondHalf] at whole
    rw [Nat.isValidChar]
    omega
  rw [readSingle, if_neg whole, spellChar, toNat_ofNat valid, if_pos bounds, UInt16.ofNat_toNat]

theorem spellChar_readPair {first second : UInt16} (pair : IsFirstHalf first ∧ IsSecondHalf second) :
    spellChar (readPair first second) = [first, second] := by
  obtain ⟨⟨firstLow, firstHigh⟩, secondLow, secondHigh⟩ := pair
  have valid : (0x10000 + (first.toNat - 0xD800) * 0x400 + (second.toNat - 0xDC00)).isValidChar := by
    rw [Nat.isValidChar]
    omega
  have value : (readPair first second).toNat =
      0x10000 + (first.toNat - 0xD800) * 0x400 + (second.toNat - 0xDC00) := by
    rw [readPair, toNat_ofNat valid]
  have firstPart : firstHalf (readPair first second) = first.toNat := by
    rw [firstHalf, value]
    omega
  have secondPart : secondHalf (readPair first second) = second.toNat := by
    rw [secondHalf, value]
    omega
  rw [spellChar, if_neg (by omega), firstPart, secondPart, UInt16.ofNat_toNat, UInt16.ofNat_toNat]

/-- Units can be told from the text that they read as, unless something in it was replaced. -/
theorem spell_read {units : List UInt16} (kept : '\uFFFD' ∉ read units) : spell (read units) = units := by
  fun_induction read units with
  | case1 => rfl
  | case2 unit =>
      have single : readSingle unit ≠ '\uFFFD' := fun same => kept (List.mem_singleton.mpr same.symm)
      rw [spell, List.flatMap_singleton, spellChar_readSingle single]
  | case3 first second rest pair ih =>
      have later := ih fun among => kept (List.mem_cons_of_mem _ among)
      rw [spell] at later ⊢
      rw [List.flatMap_cons, later, spellChar_readPair pair]
      rfl
  | case4 first second rest single ih =>
      have later := ih fun among => kept (List.mem_cons_of_mem _ among)
      have kept : readSingle first ≠ '\uFFFD' := fun same => kept (same ▸ List.mem_cons_self)
      rw [spell] at later ⊢
      rw [List.flatMap_cons, later, spellChar_readSingle kept]
      rfl

/-- Units of which none is half of a pair that stands alone. -/
def WellFormed (units : List UInt16) : Prop :=
  spell (read units) = units

instance (units : List UInt16) : Decidable (WellFormed units) :=
  inferInstanceAs (Decidable (_ = _))

theorem wellFormed_spell (text : List Char) : WellFormed (spell text) := by
  rw [WellFormed, read_spell]

theorem WellFormed.eq_of_read {first second : List UInt16} (formed : WellFormed first)
    (alsoFormed : WellFormed second) (same : read first = read second) : first = second := by
  rw [← formed, ← alsoFormed, same]

theorem read_eq_iff {units : List UInt16} {text : List Char} (kept : '\uFFFD' ∉ text) :
    read units = text ↔ units = spell text := by
  constructor
  · rintro rfl
    exact (spell_read kept).symm
  · rintro rfl
    exact read_spell text

/-!
## Cuts
-/

theorem count_append (first rest : List Char) : count (first ++ rest) = count first + count rest := by
  induction first with
  | nil => exact (Nat.zero_add _).symm
  | cons character first ih => rw [List.cons_append, count, count, ih, Nat.add_assoc]

theorem ofChar_pos (character : Char) : 0 < ofChar character := by
  unfold ofChar
  split <;> decide

/-- The half character at the end of a cut is the first of two. -/
theorem half_of_take {limit half : Nat} {text whole : List Char} (cut : take limit text = (whole, some half)) :
    0xD800 ≤ half ∧ half < 0xDC00 := by
  fun_induction take limit text generalizing whole with
  | case1 => cases cut
  | case2 => cases cut
  | case3 limit character rest single before last shorter ih =>
      cases cut
      exact ih shorter
  | case4 character rest pair =>
      have scalar : character.toNat < 0xD800 ∨ 0xDFFF < character.toNat ∧ character.toNat < 0x110000 :=
        character.valid
      cases cut
      rw [firstHalf]
      omega
  | case5 character rest pair limit before last shorter ih =>
      cases cut
      exact ih shorter

theorem take_zero (text : List Char) : take 0 text = ([], none) := by
  cases text <;> rfl

/-- A cut spells the first units of a text, the half character at its end included. -/
theorem spell_take (limit : Nat) (text : List Char) :
    spell (take limit text).1 ++ (take limit text).2.toList.map UInt16.ofNat = (spell text).take limit := by
  fun_induction take limit text with
  | case1 => rw [spell, List.flatMap_nil, List.take_nil]; rfl
  | case2 => rw [List.take_zero]; rfl
  | case3 limit character rest single whole half cut ih =>
      rw [cut] at ih
      rw [spell, spell, List.flatMap_cons, List.flatMap_cons, ← spell, ← spell, spellChar, if_pos single,
        List.singleton_append, List.singleton_append, List.take_succ_cons, List.cons_append, ih]
  | case4 character rest pair =>
      rw [spell, spell, List.flatMap_cons, spellChar, if_neg pair]
      rfl
  | case5 character rest pair limit whole half cut ih =>
      rw [cut] at ih
      rw [spell, spell, List.flatMap_cons, List.flatMap_cons, ← spell, ← spell, spellChar, if_neg pair,
        List.append_assoc, ih]
      rfl

/-- What stands beyond a cut does not matter to it. -/
theorem take_append {limit : Nat} {text : List Char} (enough : limit ≤ count text) (more : List Char) :
    take limit (text ++ more) = take limit text := by
  fun_induction take limit text with
  | case1 limit =>
      have none : limit = 0 := Nat.le_zero.mp enough
      rw [none]
      exact take_zero more
  | case2 text => exact take_zero _
  | case3 limit character rest single whole half cut ih =>
      have later : limit ≤ count rest := by
        rw [count, ofChar, if_pos single] at enough
        omega
      rw [List.cons_append, take.eq_def]
      simp only [if_pos single, ih later, cut]
  | case4 character rest pair => simp only [List.cons_append, take, if_neg pair]
  | case5 character rest pair limit whole half cut ih =>
      have later : limit ≤ count rest := by
        rw [count, ofChar, if_neg pair] at enough
        omega
      rw [List.cons_append, take.eq_def]
      simp only [if_neg pair, ih later, cut]

end JoinTrust.Text.Units
