import JoinTrust.Proofs.Url.Cuts
import JoinTrust.Proofs.Url.PercentForm
import JoinTrust.Proofs.Url.PunycodeForm
import JoinTrust.Url.Host.Domain

set_option autoImplicit false

/-!
Domain names in ASCII form. Bringing a name to this form a second time changes nothing: its characters are in their
one form, and every label that was written in ASCII stands for a label that is in its one form itself. None of this
depends on what the charts say.
-/

namespace JoinTrust.Url.Domain

open Text (isAscii)

variable {character : Char} {name form label : List Char}

/-!
## Normal texts
-/

/-- A character in ASCII that is its own one form. -/
structure Plain (character : Char) : Prop where
  ascii : character.toNat < 0x80
  normal : mapChar? character = some [character]

theorem plain_iff : Plain character ↔ isAscii character = true ∧ isNormal character = true := by
  simp only [isAscii, isNormal, decide_eq_true_eq, beq_iff_eq]
  exact ⟨fun plain => ⟨plain.ascii, plain.normal⟩, fun both => ⟨both.1, both.2⟩⟩

instance : Decidable (Plain character) :=
  decidable_of_iff' _ plain_iff

theorem all_isAscii (plain : ∀ character ∈ name, Plain character) : name.all isAscii = true :=
  List.all_eq_true.mpr fun character member => (plain_iff.mp (plain character member)).1

theorem all_isNormal (plain : ∀ character ∈ name, Plain character) : name.all isNormal = true :=
  List.all_eq_true.mpr fun character member => (plain_iff.mp (plain character member)).2

/-- A plain text is in its one form. -/
theorem normalize?_of_plain (plain : ∀ character ∈ name, Plain character) : normalize? name = some name := by
  have mapped : name.mapM mapChar? = some (name.map ([·])) := by
    rw [Text.mapM_eq_some_iff, List.map_map]
    exact List.map_congr_left fun character member => (plain character member).normal
  have flat : (name.map ([·])).flatten = name := by
    rw [← List.flatMap_def, List.flatMap_singleton']
  rw [normalize?, mapped, Option.map_some, flat, Text.compose, if_pos (all_isAscii plain)]

/-!
## Labels
-/

/-- A label in its ASCII form: plain, and without a dot. -/
structure AsciiLabel (label : List Char) : Prop where
  plain : ∀ character ∈ label, Plain character
  undotted : '.' ∉ label

/-- A label is its own ASCII form, or it is a valid one that is written in ASCII. -/
theorem labelAscii?_cases (written : labelAscii? label = some form) :
    ((∀ character ∈ label, Plain character) ∧ form = label) ∨
      label.all isAscii = false ∧ isValid label = true ∧ form = marker ++ Punycode.encode label := by
  unfold labelAscii? at written
  split at written
  · next ascii =>
      refine .inl ?_
      split at written
      · cases written
      · next normal =>
          have plain : ∀ character ∈ label, Plain character := fun character member =>
            plain_iff.mpr ⟨List.all_eq_true.mp ascii character member,
              List.all_eq_true.mp (by simpa using normal) character member⟩
          refine ⟨plain, ?_⟩
          split at written
          · obtain ⟨decoded, _, written⟩ := Option.bind_eq_some_iff.mp written
            split at written
            · exact (Option.some.inj written).symm
            · cases written
          · exact (Option.some.inj written).symm
  · next beyond =>
      refine .inr ⟨by simpa using beyond, ?_⟩
      split at written
      · cases written
      · split at written
        · next valid => exact ⟨valid, (Option.some.inj written).symm⟩
        · cases written

/-- The characters that may stand in an ASCII form besides those of the label. -/
theorem plain_of_mem_form (member : character ∈ marker ++ Punycode.encode label) :
    character ∈ label ∧ character.toNat < 0x80 ∨ Plain character ∧ character ≠ '.' := by
  have marked : ∀ character ∈ '-' :: marker, Plain character ∧ character ≠ '.' :=
    Text.forall_mem_of_all (by decide +kernel)
  have digits : ∀ value < 36, Plain (Punycode.digit value) ∧ Punycode.digit value ≠ '.' := by
    decide +kernel
  rcases List.mem_append.mp member with front | encoded
  · exact .inr (marked character (List.mem_cons_of_mem '-' front))
  · rcases Punycode.mem_encode encoded with own | rfl | ⟨value, bound, rfl⟩
    · exact .inl own
    · exact .inr (marked '-' List.mem_cons_self)
    · exact .inr (digits value bound)

theorem asciiLabel_of_labelAscii? (undotted : '.' ∉ label) (written : labelAscii? label = some form) :
    AsciiLabel form := by
  rcases labelAscii?_cases written with ⟨plain, rfl⟩ | ⟨_, valid, rfl⟩
  · exact ⟨plain, undotted⟩
  · have normal : label.all isNormal = true := by
      simp only [isValid, Bool.and_eq_true] at valid
      exact valid.1.1
    constructor
    · intro character member
      rcases plain_of_mem_form member with ⟨own, ascii⟩ | other
      · exact plain_iff.mpr ⟨decide_eq_true ascii, List.all_eq_true.mp normal character own⟩
      · exact other.1
    · intro member
      rcases plain_of_mem_form member with own | other
      · exact undotted own.1
      · exact other.2 rfl

/-- The ASCII form of a label is its own ASCII form. -/
theorem labelAscii?_stable (undotted : '.' ∉ label) (written : labelAscii? label = some form) :
    labelAscii? form = some form := by
  have plain := (asciiLabel_of_labelAscii? undotted written).plain
  rcases labelAscii?_cases written with ⟨_, rfl⟩ | ⟨_, valid, rfl⟩
  · exact written
  · have marked : marker.isPrefixOf (marker ++ Punycode.encode label) = true := by simp
    have encoded : (marker ++ Punycode.encode label).drop marker.length = Punycode.encode label := by simp
    rw [labelAscii?, if_pos (all_isAscii plain), if_neg (by simp [all_isNormal plain]), if_pos marked, encoded,
      Punycode.decode?_encode]
    simp [valid]

/-!
## Names
-/

theorem asciiLabels_of_ascii? (written : ascii? name = some form) :
    ∃ forms, forms ≠ [] ∧ form = Text.joinWith '.' forms ∧
      ∀ label ∈ forms, AsciiLabel label ∧ labelAscii? label = some label := by
  obtain ⟨normal, _, written⟩ := Option.bind_eq_some_iff.mp written
  obtain ⟨forms, all, written⟩ := Option.bind_eq_some_iff.mp written
  refine ⟨forms, ?_, (Option.some.inj written).symm, fun form member => ?_⟩
  · rintro rfl
    have none := Text.mapM_eq_some_iff.mp all
    exact Text.splitAt_ne_nil '.' normal (List.map_eq_nil_iff.mp none)
  · obtain ⟨label, among, written⟩ := Text.exists_of_mem_mapM all member
    have undotted := Text.notMem_of_mem_splitAt among
    exact ⟨asciiLabel_of_labelAscii? undotted written, labelAscii?_stable undotted written⟩

/-- A name in ASCII form is plain. -/
theorem plain_of_ascii? (written : ascii? name = some form) : ∀ character ∈ form, Plain character := by
  obtain ⟨forms, _, rfl, each⟩ := asciiLabels_of_ascii? written
  intro character member
  rcases Text.mem_joinWith member with rfl | ⟨label, among, within⟩
  · decide +kernel
  · exact (each label among).1.plain character within

/-- The ASCII form of a name is its own ASCII form. -/
theorem ascii?_stable (written : ascii? name = some form) : ascii? form = some form := by
  have plain := plain_of_ascii? written
  obtain ⟨forms, filled, rfl, each⟩ := asciiLabels_of_ascii? written
  have labels : Text.splitAt '.' (Text.joinWith '.' forms) = forms :=
    Text.splitAt_joinWith filled fun label member => (each label member).1.undotted
  have all : forms.mapM labelAscii? = some forms :=
    Text.mapM_eq_some_iff.mpr (List.map_congr_left fun label member => (each label member).2)
  rw [ascii?, normalize?_of_plain plain]
  simp [labels, all]

end JoinTrust.Url.Domain
