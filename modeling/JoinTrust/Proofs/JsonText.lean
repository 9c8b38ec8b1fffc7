import JoinTrust.Proofs.Associations
import JoinTrust.Proofs.NumberText
import JoinTrust.Proofs.Printable
import JoinTrust.Proofs.Utf8Form

set_option autoImplicit false

/-!
JSON texts are read back. What is written of a value is read as this value, wherever it stands: a string whatever
characters it has, and a list or an object whatever is in it. The fields of an object come back in the order in which
they are listed.
-/

namespace JoinTrust

theorem Text.Hex.value?_digit {value : Nat} (below : value < 16) : value? (digit value) = some value := by
  have all : ∀ value < 16, value? (digit value) = some value := by decide
  exact all value below

theorem Text.Hex.value?_digitChar {value : Nat} (below : value < 16) : value? (Nat.digitChar value) = some value := by
  have all : ∀ value < 16, value? (Nat.digitChar value) = some value := by decide
  exact all value below

namespace Json

open Text (Hex.value?_digit Hex.value?_digitChar)

variable {a b c d character letter : Char} {text after rest : List Char} {unit fuel : Nat}

/-!
## Strings
-/

theorem hex4?_digits {p q r s : Nat} (readFirst : Text.Hex.value? a = some p) (readSecond : Text.Hex.value? b = some q)
    (readThird : Text.Hex.value? c = some r) (readFourth : Text.Hex.value? d = some s) :
    hex4? a b c d = some (((p * 16 + q) * 16 + r) * 16 + s) := by
  simp [hex4?, readFirst, readSecond, readThird, readFourth]

/-- An escaped unit that is no first half of a pair, or that no other unit follows, stands for itself. -/
theorem readString?_unit (read : hex4? a b c d = some unit)
    (alone : ¬(0xD800 ≤ unit ∧ unit < 0xDC00) ∨ ∀ later, rest ≠ '\\' :: 'u' :: later) :
    readString? ('\\' :: 'u' :: a :: b :: c :: d :: rest) =
      (readString? rest).map fun (text, after) => (unitChar unit :: text, after) := by
  by_cases next : ∃ e f g h later, rest = '\\' :: 'u' :: e :: f :: g :: h :: later
  · obtain ⟨e, f, g, h, later, rfl⟩ := next
    have apart : ¬(0xD800 ≤ unit ∧ unit < 0xDC00) := alone.resolve_right fun other => other _ rfl
    rw [readString?.eq_3, read]
    cases hex4? e f g h with
    | none => rfl
    | some low =>
        simp only
        rw [if_neg fun pair => apart ⟨pair.1, pair.2.1⟩]
  · rw [readString?.eq_4, read]
    rintro e f g h later rfl
    exact next ⟨e, f, g, h, later, rfl⟩

theorem readString?_escape (escapes : escaped? letter = some character) :
    readString? ('\\' :: letter :: rest) =
      (readString? rest).map fun (text, after) => (character :: text, after) := by
  have other : letter ≠ 'u' := by
    rintro rfl
    cases escapes
  rw [readString?.eq_5, escapes]
  · intro a b c d e f g h later same
    exact absurd same other
  · intro a b c d later same
    exact absurd same other

theorem readString?_plain (quote : character ≠ '"') (slash : character ≠ '\\') (high : ¬character.toNat < 0x20) :
    readString? (character :: rest) =
      (readString? rest).map fun (text, after) => (character :: text, after) := by
  rw [readString?.eq_6 character rest quote (fun _ _ _ _ _ _ _ _ _ same => absurd same slash)
    (fun _ _ _ _ _ same => absurd same slash) (fun _ _ same => absurd same slash), if_neg]
  rintro (low | same)
  · exact high low
  · exact slash same

/-- The ways in which a character is written in a string. -/
inductive Quoted (character : Char) : List Char → Prop where
  | escaped {letter : Char} : escaped? letter = some character → Quoted character ['\\', letter]
  | unit {a b c d : Char} : hex4? a b c d = some character.toNat → character.toNat < 0x20 →
      Quoted character ['\\', 'u', a, b, c, d]
  | plain : character ≠ '"' → character ≠ '\\' → ¬character.toNat < 0x20 → Quoted character [character]

theorem quoted_quoteChar (character : Char) : Quoted character (quoteChar character) := by
  unfold quoteChar
  split_ifs with quote slash back form line carriage tab low
  · subst quote
    exact .escaped rfl
  · subst slash
    exact .escaped rfl
  · subst back
    exact .escaped rfl
  · subst form
    exact .escaped rfl
  · subst line
    exact .escaped rfl
  · subst carriage
    exact .escaped rfl
  · subst tab
    exact .escaped rfl
  · have zero : Text.Hex.value? '0' = some 0 := by decide
    refine .unit ?_ low
    rw [hex4?_digits zero zero (Hex.value?_digit (by omega)) (Hex.value?_digit (by omega))]
    congr 1
    omega
  · exact .plain quote slash low

/-- A character is read back from what is written of it. -/
theorem readString?_quoteChar (character : Char) (rest : List Char) :
    readString? (quoteChar character ++ rest) =
      (readString? rest).map fun (text, after) => (character :: text, after) := by
  have quoted := quoted_quoteChar character
  generalize quoteChar character = written at quoted ⊢
  cases quoted with
  | escaped escapes => exact readString?_escape escapes
  | unit read low =>
      have itself : unitChar character.toNat = character := by
        rw [unitChar, if_neg (by omega), Char.ofNat_toNat]
      refine (readString?_unit read (.inl (by omega))).trans ?_
      rw [itself]
      rfl
  | plain quote slash high => exact readString?_plain quote slash high

/-- What follows in a string decides how the string is read after characters that are written one by one. -/
theorem readString?_flatMap_quoteChar (characters : List Char) (read : readString? rest = some (text, after)) :
    readString? (characters.flatMap quoteChar ++ rest) = some (characters ++ text, after) := by
  induction characters with
  | nil => exact read
  | cons character others ih =>
      rw [List.flatMap_cons, List.append_assoc, readString?_quoteChar, ih]
      rfl

theorem readString?_quoted (characters after : List Char) :
    readString? (characters.flatMap quoteChar ++ '"' :: after) = some (characters, after) := by
  rw [readString?_flatMap_quoteChar characters (readString?.eq_2 after), List.append_nil]

/-!
## Values
-/

/-- A character that is no blank. -/
def Visible (character : Char) : Prop :=
  ¬(character = ' ' ∨ character = '\t' ∨ character = '\n' ∨ character = '\r')

instance (character : Char) : Decidable (Visible character) :=
  inferInstanceAs (Decidable ¬_)

/-- These characters begin as a value does, and reading yields this value of them and leaves what follows. -/
structure Spells (chars : List Char) (value : Json) : Prop where
  begins : ∃ first others, chars = first :: others ∧ Visible first ∧ first ≠ ']'
  reads : ∀ fuel rest, chars.length ≤ fuel → Ends rest → readValue? fuel (chars ++ rest) = some (value, rest)

theorem skipBlanks_cons (visible : Visible character) : skipBlanks (character :: rest) = character :: rest := by
  rw [skipBlanks, List.dropWhile_cons_of_neg]
  rwa [decide_eq_true_eq]

theorem readWord?_append (word : String) (value : Json) (rest : List Char) :
    readWord? word value (word.toList ++ rest) = some (value, rest) := by
  have begins : word.toList.isPrefixOf (word.toList ++ rest) = true :=
    List.isPrefixOf_iff_prefix.mpr (List.prefix_append _ _)
  have left : (word.toList ++ rest).drop word.length = rest := by
    rw [← String.length_toList, List.drop_left]
  rw [readWord?, if_pos begins, left]

variable {chars : List Char} {value : Json}

/-- There is fuel for the first character. -/
theorem spells_cons (visible : Visible character) (closing : character ≠ ']')
    (reads : ∀ fuel rest, chars.length ≤ fuel → Ends rest →
      readValue? (fuel + 1) (character :: chars ++ rest) = some (value, rest)) : Spells (character :: chars) value := by
  refine ⟨⟨character, chars, rfl, visible, closing⟩, ?_⟩
  intro fuel rest enough ends
  cases fuel with
  | zero => exact absurd enough (Nat.not_succ_le_zero _)
  | succ fuel => exact reads fuel rest (Nat.le_of_succ_le_succ enough) ends

theorem spells_null : Spells "null".toList .null :=
  spells_cons (by decide) (by decide) fun _ rest _ _ => readWord?_append "null" .null rest

theorem spells_true : Spells "true".toList (.bool true) :=
  spells_cons (by decide) (by decide) fun _ rest _ _ => readWord?_append "true" (.bool true) rest

theorem spells_false : Spells "false".toList (.bool false) :=
  spells_cons (by decide) (by decide) fun _ rest _ _ => readWord?_append "false" (.bool false) rest

theorem spells_string {quoted : List Char} (read : ∀ rest, readString? (quoted ++ rest) = some (text, rest)) :
    Spells ('"' :: quoted) (.str (String.ofList text)) := by
  refine spells_cons (by decide) (by decide) fun fuel rest _ _ => ?_
  rw [List.cons_append, readValue?.eq_2, skipBlanks_cons (by decide)]
  simp only [read, Option.map_some]

theorem spells_quoteChars (characters : List Char) :
    Spells (quoteChars characters) (.str (String.ofList characters)) := by
  refine spells_string fun rest => ?_
  change readString? (characters.flatMap quoteChar ++ ['"'] ++ rest) = _
  rw [List.append_assoc]
  exact readString?_quoted characters rest

/-- What is read as a number begins as one. -/
theorem begins_of_readNumber? (read : readNumber? chars = some (value, rest)) :
    ∃ first others, chars = first :: others ∧ (first.isDigit = true ∨ first = '-') := by
  cases chars with
  | nil => cases read
  | cons first others =>
      refine ⟨first, others, rfl, ?_⟩
      by_cases sign : first = '-'
      · exact .inr sign
      · by_cases digit : first.isDigit = true
        · exact .inl digit
        · have unsigned := @readNumber?_signed false first sign others
          rw [readMagnitude?, List.takeWhile_cons_of_neg digit] at unsigned
          rw [show first :: others = signChars false ++ first :: others from rfl, unsigned] at read
          cases read

theorem spells_number (read : ∀ rest, Ends rest → readNumber? (chars ++ rest) = some (value, rest)) :
    Spells chars value := by
  obtain ⟨first, others, spelled, begins⟩ := begins_of_readNumber? (List.append_nil chars ▸ read [] ends_nil)
  subst spelled
  have visible : Visible first := by
    rintro (rfl | rfl | rfl | rfl)
    · exact absurd begins (by decide)
    · exact absurd begins (by decide)
    · exact absurd begins (by decide)
    · exact absurd begins (by decide)
  have other (mark : Char) (marks : ¬(mark.isDigit = true ∨ mark = '-')) : first ≠ mark := by
    rintro rfl
    exact marks begins
  refine spells_cons visible (other ']' (by decide)) fun fuel rest _ ends => ?_
  rw [← read rest ends, List.cons_append, readValue?.eq_2, skipBlanks_cons visible]
  split
  · next same => cases same
  · next same => cases same; exact absurd rfl (other '"' (by decide))
  · next same => cases same; exact absurd rfl (other '[' (by decide))
  · next same => cases same; exact absurd rfl (other '\x7b' (by decide))
  · next same => cases same; exact absurd rfl (other 'n' (by decide))
  · next same => cases same; exact absurd rfl (other 't' (by decide))
  · next same => cases same; exact absurd rfl (other 'f' (by decide))
  · rfl

/-!
## Lists and objects
-/

section

variable {α : Type} {spelled : α → List Char} {meant : α → Json} {items : List α} {fields : List (String × α)}

theorem ends_comma (rest : List Char) : Ends (',' :: rest) :=
  ends_cons (by decide) rest

theorem ends_bracket (rest : List Char) : Ends (']' :: rest) :=
  ends_cons (by decide) rest

theorem ends_brace (rest : List Char) : Ends ('\x7d' :: rest) :=
  ends_cons (by decide) rest

/-- Items are read one after another. -/
theorem readItems?_commaSeparated (spells : ∀ item ∈ items, Spells (spelled item) (meant item)) (nonempty : items ≠ [])
    (rest : List Char) (enough : (commaSeparated (items.map spelled)).length < fuel) :
    readItems? fuel (commaSeparated (items.map spelled) ++ ']' :: rest) = some (items.map meant, rest) := by
  induction items generalizing fuel with
  | nil => exact absurd rfl nonempty
  | cons item others ih =>
      obtain ⟨first, later⟩ := List.forall_mem_cons.mp spells
      obtain ⟨fuel, rfl⟩ := Nat.exists_eq_succ_of_ne_zero (Nat.ne_of_gt (Nat.lt_of_le_of_lt (Nat.zero_le _) enough))
      cases others with
      | nil =>
          have read := first.reads fuel (']' :: rest) (Nat.le_of_lt_succ enough) (ends_bracket rest)
          simp only [List.map_cons, List.map_nil, commaSeparated, readItems?.eq_2, read,
            skipBlanks_cons (by decide : Visible ']')]
      | cons next others =>
          have longer : (commaSeparated ((item :: next :: others).map spelled)).length =
              (spelled item).length + ((commaSeparated ((next :: others).map spelled)).length + 1) :=
            List.length_append
          have read := first.reads fuel (',' :: (commaSeparated ((next :: others).map spelled) ++ ']' :: rest))
            (by omega) (ends_comma _)
          have further := ih later (List.cons_ne_nil _ _) (by omega : _ < fuel)
          have split : commaSeparated ((item :: next :: others).map spelled) ++ ']' :: rest =
              spelled item ++ ',' :: (commaSeparated ((next :: others).map spelled) ++ ']' :: rest) :=
            List.append_assoc _ _ _
          rw [split, readItems?.eq_2, read]
          simp only [skipBlanks_cons (by decide : Visible ','), further, Option.map_some]
          rfl

/-- What is written of one field. -/
def fieldPiece (field : String × List Char) : List Char :=
  quoteChars field.1.toList ++ ':' :: field.2

theorem fieldPiece_append (name : String) (chars rest : List Char) : fieldPiece (name, chars) ++ rest =
    '"' :: (name.toList.flatMap quoteChar ++ '"' :: ':' :: (chars ++ rest)) := by
  simp [fieldPiece, quoteChars]

theorem readFields?_last {name : String} (spells : Spells chars value) (enough : chars.length ≤ fuel) (after : List Char) :
    readFields? (fuel + 1) (fieldPiece (name, chars) ++ '\x7d' :: after) = some ([(name, value)], after) := by
  rw [fieldPiece_append, readFields?.eq_2, skipBlanks_cons (by decide)]
  simp only [readString?_quoted, skipBlanks_cons (by decide : Visible ':'), spells.reads fuel _ enough (ends_brace _),
    skipBlanks_cons (by decide : Visible '\x7d'), String.ofList_toList]

theorem readFields?_next {name : String} {following : List (String × Json)} (spells : Spells chars value) (enough : chars.length ≤ fuel)
    (read : readFields? fuel rest = some (following, after)) :
    readFields? (fuel + 1) (fieldPiece (name, chars) ++ ',' :: rest) = some ((name, value) :: following, after) := by
  rw [fieldPiece_append, readFields?.eq_2, skipBlanks_cons (by decide)]
  simp only [readString?_quoted, skipBlanks_cons (by decide : Visible ':'), spells.reads fuel _ enough (ends_comma _),
    skipBlanks_cons (by decide : Visible ','), String.ofList_toList, read, Option.map_some]

/-- Fields are read one after another, in the order in which they are written. -/
theorem readFields?_commaSeparated (spells : ∀ field ∈ fields, Spells (spelled field.2) (meant field.2))
    (nonempty : fields ≠ []) (rest : List Char)
    (enough : (commaSeparated (fields.map fun field => fieldPiece (field.1, spelled field.2))).length < fuel) :
    readFields? fuel (commaSeparated (fields.map fun field => fieldPiece (field.1, spelled field.2)) ++ '\x7d' :: rest) =
      some (fields.map fun field => (field.1, meant field.2), rest) := by
  induction fields generalizing fuel with
  | nil => exact absurd rfl nonempty
  | cons field others ih =>
      obtain ⟨name, content⟩ := field
      obtain ⟨first, later⟩ := List.forall_mem_cons.mp spells
      obtain ⟨fuel, rfl⟩ := Nat.exists_eq_succ_of_ne_zero (Nat.ne_of_gt (Nat.lt_of_le_of_lt (Nat.zero_le _) enough))
      have within : (spelled content).length < (fieldPiece (name, spelled content)).length := by
        simp [fieldPiece]
        omega
      cases others with
      | nil =>
          have bound : (fieldPiece (name, spelled content)).length < fuel + 1 := enough
          have fits : (spelled content).length ≤ fuel := by omega
          change readFields? (fuel + 1) (fieldPiece (name, spelled content) ++ '\x7d' :: rest) = _
          rw [readFields?_last first fits]
          rfl
      | cons next others =>
          generalize follows : commaSeparated ((next :: others).map fun field => fieldPiece (field.1, spelled field.2)) =
            following at ih
          have longer : (commaSeparated (((name, content) :: next :: others).map fun field =>
              fieldPiece (field.1, spelled field.2))).length =
              (fieldPiece (name, spelled content)).length + (following.length + 1) := by
            rw [← follows]
            exact List.length_append
          have fits : (spelled content).length ≤ fuel := by omega
          have further := @ih fuel later (List.cons_ne_nil _ _) (by omega)
          have split : commaSeparated (((name, content) :: next :: others).map fun field =>
              fieldPiece (field.1, spelled field.2)) ++ '\x7d' :: rest =
              fieldPiece (name, spelled content) ++ ',' :: (following ++ '\x7d' :: rest) := by
            rw [← follows]
            exact List.append_assoc _ _ _
          rw [split, readFields?_next first fits further]
          rfl

/-- Where one field ends is decided by its text, so that texts that agree agree in the field. -/
theorem fieldPiece_append_inj {name other : String} {chars others first second : List Char} {value meaning : Json}
    (spells : Spells chars value) (alsoSpells : Spells others meaning) (ends : Ends first) (alsoEnds : Ends second)
    (same : fieldPiece (name, chars) ++ first = fieldPiece (other, others) ++ second) :
    (name, chars) = (other, others) ∧ first = second := by
  rw [fieldPiece_append, fieldPiece_append] at same
  have quoted := congrArg readString? (List.cons.inj same).2
  rw [readString?_quoted, readString?_quoted, Option.some.injEq, Prod.mk.injEq] at quoted
  obtain ⟨names, contents⟩ := quoted
  have contents := (List.cons.inj contents).2
  have read := congrArg (readValue? (chars.length + others.length)) contents
  rw [spells.reads _ _ (Nat.le_add_right _ _) ends, alsoSpells.reads _ _ (Nat.le_add_left _ _) alsoEnds,
    Option.some.injEq, Prod.mk.injEq] at read
  obtain ⟨_, rfl⟩ := read
  rw [String.toList_inj.mp names, List.append_cancel_right contents]
  exact ⟨rfl, rfl⟩

/-- The text of an object decides the names in it, and what is written of each of their values. -/
theorem fieldPieces_inj {more : List (String × α)} {rest : List Char}
    (spells : ∀ field ∈ fields, Spells (spelled field.2) (meant field.2))
    (alsoSpells : ∀ field ∈ more, Spells (spelled field.2) (meant field.2)) (nonempty : fields ≠ [])
    (alsoNonempty : more ≠ [])
    (same : commaSeparated (fields.map fun field => fieldPiece (field.1, spelled field.2)) ++ '\x7d' :: rest =
      commaSeparated (more.map fun field => fieldPiece (field.1, spelled field.2)) ++ '\x7d' :: rest) :
    (fields.map fun field => (field.1, spelled field.2)) = more.map fun field => (field.1, spelled field.2) := by
  induction fields generalizing more with
  | nil => exact absurd rfl nonempty
  | cons field others ih =>
      obtain ⟨first, later⟩ := List.forall_mem_cons.mp spells
      cases more with
      | nil => exact absurd rfl alsoNonempty
      | cons field' others' =>
          obtain ⟨first', later'⟩ := List.forall_mem_cons.mp alsoSpells
          have inj {rest rest' : List Char} := @fieldPiece_append_inj field.1 field'.1 (spelled field.2)
            (spelled field'.2) rest rest' _ _ first first'
          cases others with
          | nil =>
              cases others' with
              | nil => exact congrArg (· :: []) (inj (ends_brace _) (ends_brace _) same).1
              | cons =>
                  have ends := inj (ends_brace _) (ends_comma _) (same.trans (List.append_assoc _ _ _))
                  exact absurd (List.cons.inj ends.2).1 (by decide)
          | cons next others =>
              cases others' with
              | nil =>
                  have ends := inj (ends_comma _) (ends_brace _) ((List.append_assoc _ _ _).symm.trans same)
                  exact absurd (List.cons.inj ends.2).1 (by decide)
              | cons next' others' =>
                  have ends := inj (ends_comma _) (ends_comma _)
                    ((List.append_assoc _ _ _).symm.trans (same.trans (List.append_assoc _ _ _)))
                  have following := ih later later' (List.cons_ne_nil _ _) (List.cons_ne_nil _ _)
                    (List.cons.inj ends.2).2
                  exact (congrArg (_ :: ·) following).trans (congrArg (· :: _) ends.1)

/-!
## Listed fields
-/

/-- An object lists all its fields, each of them once. -/
theorem listed_perm (fields : List (String × α)) : (listed fields).Perm fields := by
  have indexed : ((fields.filterMap fun field => (index? field.1).map fun index => (index, field)).map (·.2)) =
      fields.filter fun field => (index? field.1).isSome := by
    induction fields with
    | nil => rfl
    | cons field rest ih =>
        cases found : index? field.1 with
        | none => simpa [found] using ih
        | some index => simpa [found] using ih
  have named : (fields.filter fun field => (index? field.1).isNone) =
      fields.filter fun field => !(index? field.1).isSome := by
    simp only [Option.not_isSome]
  have sorted := (List.mergeSort_perm (fields.filterMap fun field => (index? field.1).map fun index => (index, field))
    fun left right => left.1 ≤ right.1).map (·.2)
  rw [indexed] at sorted
  rw [listed, named]
  exact (sorted.append_right _).trans (List.filter_append_perm _ fields)

/-- The order in which fields are listed does not depend on what is in them. -/
theorem listed_map {β : Type} (change : α → β) (fields : List (String × α)) :
    listed (fields.map fun field => (field.1, change field.2)) =
      (listed fields).map fun field => (field.1, change field.2) := by
  have indexed : ((fields.map fun field => (field.1, change field.2)).filterMap fun field =>
      (index? field.1).map fun index => (index, field)) =
        (fields.filterMap fun field => (index? field.1).map fun index => (index, field)).map fun entry =>
          (entry.1, (entry.2.1, change entry.2.2)) := by
    rw [List.filterMap_map, List.map_filterMap]
    congr 1
    funext field
    rw [Option.map_map]
    rfl
  have sorted := List.map_mergeSort (r := fun left right => left.1 ≤ right.1) (s := fun left right => left.1 ≤ right.1)
    (f := fun entry : Nat × String × α => (entry.1, (entry.2.1, change entry.2.2)))
    (l := fields.filterMap fun field => (index? field.1).map fun index => (index, field)) fun _ _ _ _ => rfl
  rw [listed, listed, indexed, ← sorted, List.map_map, List.filter_map, List.map_append, List.map_map]
  rfl

theorem nodup_names_listed (distinct : (Assoc.names fields).Nodup) : (Assoc.names (listed fields)).Nodup :=
  ((listed_perm fields).map Prod.fst).nodup_iff.mpr distinct

/-- A text in pieces begins as the first of them does. -/
theorem commaSeparated_cons {first : Char} {later : List Char} (others : List (List Char)) :
    ∃ following, commaSeparated ((first :: later) :: others) = first :: following := by
  cases others with
  | nil => exact ⟨later, rfl⟩
  | cons next others => exact ⟨later ++ ',' :: commaSeparated (next :: others), rfl⟩

/-- Brackets around items are a list. -/
theorem spells_arr (spells : ∀ item ∈ items, Spells (spelled item) (meant item)) :
    Spells ('[' :: (commaSeparated (items.map spelled) ++ [']'])) (.arr (items.map meant)) := by
  refine spells_cons (by decide) (by decide) fun fuel rest enough _ => ?_
  rw [List.length_append] at enough
  rw [List.cons_append, List.append_assoc, List.singleton_append, readValue?.eq_2, skipBlanks_cons (by decide)]
  cases items with
  | nil => rfl
  | cons item others =>
      obtain ⟨first, later, begins, visible, closing⟩ := (spells item List.mem_cons_self).begins
      obtain ⟨following, opens⟩ := @commaSeparated_cons first later (others.map spelled)
      rw [← begins, ← List.map_cons] at opens
      have read := readItems?_commaSeparated spells (List.cons_ne_nil _ _) rest (Nat.lt_of_succ_le enough)
      rw [opens] at read ⊢
      simp only [List.cons_append, skipBlanks_cons visible]
      split
      · next same =>
          cases same
          exact absurd rfl closing
      · rw [← List.cons_append, read]
        rfl

theorem objectChars_map (fields : List (String × α)) :
    objectChars (fields.map fun field => (field.1, spelled field.2)) =
      '\x7b' :: (commaSeparated ((listed fields).map fun field => fieldPiece (field.1, spelled field.2)) ++ ['\x7d']) := by
  rw [objectChars, listed_map, List.map_map]
  rfl

/-- Braces around fields are an object, unless a name stands twice. -/
theorem spells_obj (spells : ∀ field ∈ fields, Spells (spelled field.2) (meant field.2))
    (distinct : (Assoc.names fields).Nodup) :
    Spells (objectChars (fields.map fun field => (field.1, spelled field.2)))
      (.obj ((listed fields).map fun field => (field.1, meant field.2))) := by
  have spells : ∀ field ∈ listed fields, Spells (spelled field.2) (meant field.2) :=
    fun field member => spells field ((listed_perm fields).mem_iff.mp member)
  have distinct : (Assoc.names ((listed fields).map fun field => (field.1, meant field.2))).Nodup := by
    rw [Assoc.names, List.map_map]
    exact nodup_names_listed distinct
  rw [objectChars_map]
  generalize listed fields = fields at spells distinct
  refine spells_cons (by decide) (by decide) fun fuel rest enough _ => ?_
  rw [List.length_append] at enough
  rw [List.cons_append, List.append_assoc, List.singleton_append, readValue?.eq_2, skipBlanks_cons (by decide)]
  cases fields with
  | nil => rfl
  | cons field others =>
      obtain ⟨following, opens⟩ := @commaSeparated_cons '"'
        (field.1.toList.flatMap quoteChar ++ ['"'] ++ ':' :: spelled field.2)
        (others.map fun field => fieldPiece (field.1, spelled field.2))
      have read := readFields?_commaSeparated spells (List.cons_ne_nil _ _) rest (Nat.lt_of_succ_le enough)
      change commaSeparated ((field :: others).map fun field => fieldPiece (field.1, spelled field.2)) = _ at opens
      rw [opens, List.cons_append] at read
      rw [opens]
      simp only [List.cons_append, skipBlanks_cons (by decide : Visible '"')]
      split
      · next same => cases same
      · simp only [read, Option.map_some, Assoc.ofList_of_nodup distinct]

end

/-!
## Values as they are listed
-/

mutual

/-- A value whose objects hold their fields in the order in which they list them. -/
def arranged : Json → Json
  | .null => .null
  | .bool value => .bool value
  | .int value => .int value
  | .real value => .real value
  | .str value => .str value
  | .arr items => .arr (arrangedItems items)
  | .obj fields => .obj (listed (arrangedFields fields))

def arrangedItems : List Json → List Json
  | [] => []
  | item :: rest => item.arranged :: arrangedItems rest

def arrangedFields : List (String × Json) → List (String × Json)
  | [] => []
  | (key, value) :: rest => (key, value.arranged) :: arrangedFields rest

end

theorem itemChars_eq (items : List Json) : itemChars items = items.map Json.chars := by
  induction items with
  | nil => rfl
  | cons item rest ih => rw [itemChars, ih, List.map_cons]

theorem fieldChars_eq (fields : List (String × Json)) :
    fieldChars fields = fields.map fun field => (field.1, field.2.chars) := by
  induction fields with
  | nil => rfl
  | cons field rest ih => rw [fieldChars, ih, List.map_cons]

theorem arrangedItems_eq (items : List Json) : arrangedItems items = items.map arranged := by
  induction items with
  | nil => rfl
  | cons item rest ih => rw [arrangedItems, ih, List.map_cons]

theorem arrangedFields_eq (fields : List (String × Json)) :
    arrangedFields fields = fields.map fun field => (field.1, field.2.arranged) := by
  induction fields with
  | nil => rfl
  | cons field rest ih => rw [arrangedFields, ih, List.map_cons]

/-- A value that its text can hold. No object has a name twice, and a number has one form: integers up to `2 ^ 53` are
kept as such, and all others as binary numbers. -/
inductive Faithful : Json → Prop where
  | null : Faithful .null
  | bool (value : Bool) : Faithful (.bool value)
  | int {value : Int} : value.natAbs ≤ Nat.pow 2 53 → Faithful (.int value)
  | real {value : Real64} : value.Canonical →
      (∀ integer : Nat, integer ≤ Nat.pow 2 53 → value.magnitude ≠ integer) → Faithful (.real value)
  | str (value : String) : Faithful (.str value)
  | arr {items : List Json} : (∀ item ∈ items, Faithful item) → Faithful (.arr items)
  | obj {fields : Fields} : fields.names.Nodup → (∀ field ∈ fields, Faithful field.2) → Faithful (.obj fields)

/-- What is written of a value is read as this value. -/
theorem Faithful.spells {value : Json} (faithful : Faithful value) : Spells value.chars value.arranged := by
  induction faithful with
  | null => exact spells_null
  | bool value =>
      cases value with
      | true => exact spells_true
      | false => exact spells_false
  | int exact => exact spells_number fun _ ends => readNumber?_int exact ends
  | real canonical apart => exact spells_number fun _ ends => readNumber?_real canonical apart ends
  | str value =>
      have read := spells_quoteChars value.toList
      rwa [String.ofList_toList] at read
  | @arr items _ ih =>
      have read := spells_arr ih
      rwa [← itemChars_eq, ← arrangedItems_eq] at read
  | @obj fields distinct _ ih =>
      have read := spells_obj ih distinct
      rwa [← fieldChars_eq, ← listed_map, ← arrangedFields_eq] at read

/-- A text that holds one value, with a line break behind it or without, is read as this value. -/
theorem Spells.read? {blanks : List Char} (spells : Spells chars value) (blank : blanks = [] ∨ blanks = ['\n']) :
    read? (String.ofList (chars ++ blanks)) = some value := by
  have ends : Ends blanks := by
    rcases blank with rfl | rfl
    · exact ends_nil
    · exact ends_cons (by decide) []
  have skipped : (skipBlanks blanks).isEmpty = true := by
    rcases blank with rfl | rfl <;> rfl
  have enough : chars.length ≤ (chars ++ blanks).length + 1 := by
    rw [List.length_append]
    omega
  rw [Json.read?, String.toList_ofList]
  simp only [spells.reads _ _ enough ends, skipped, if_true]

end Json

end JoinTrust
