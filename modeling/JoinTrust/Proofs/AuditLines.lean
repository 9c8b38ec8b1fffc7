import JoinTrust.Audit
import JoinTrust.Proofs.ExcerptBounds
import JoinTrust.Proofs.JsonText

set_option autoImplicit false

/-!
Lines of the audit trail, read as JSON. A line is one object, and it holds what its record holds, with the time under
its own name: whatever a value is, it adds no field and takes the place of none. Two records with the same line have the
same values, where texts are compared unit by unit, half a character of an excerpt included.
-/

namespace JoinTrust

open Text

namespace Json

variable {a b c d : Char} {rest : List Char} {unit : Nat}

/-!
## Units of strings
-/

/-- The units that are written between the quotes of a string. -/
def quotedUnits : List Char → List UInt16
  | [] => []
  | '\\' :: 'u' :: a :: b :: c :: d :: rest => ((hex4? a b c d).map UInt16.ofNat).toList ++ quotedUnits rest
  | '\\' :: letter :: rest => Units.spell (escaped? letter).toList ++ quotedUnits rest
  | character :: rest => Units.spellChar character ++ quotedUnits rest

theorem quotedUnits_escape {letter character : Char} (escapes : escaped? letter = some character) :
    quotedUnits ('\\' :: letter :: rest) = Units.spellChar character ++ quotedUnits rest := by
  have other : letter ≠ 'u' := by
    rintro rfl
    cases escapes
  rw [quotedUnits.eq_3 _ _ fun _ _ _ _ _ same _ => other same, escapes]
  simp [Units.spell]

theorem quotedUnits_unit (read : hex4? a b c d = some unit) :
    quotedUnits ('\\' :: 'u' :: a :: b :: c :: d :: rest) = UInt16.ofNat unit :: quotedUnits rest := by
  rw [quotedUnits.eq_2, read]
  rfl

/-- A character is written as its units. -/
theorem quotedUnits_quoteChar (character : Char) (rest : List Char) :
    quotedUnits (quoteChar character ++ rest) = Units.spellChar character ++ quotedUnits rest := by
  have quoted := quoted_quoteChar character
  generalize quoteChar character = written at quoted ⊢
  cases quoted with
  | escaped escapes => exact quotedUnits_escape escapes
  | unit read low =>
      refine (quotedUnits_unit read).trans ?_
      rw [Units.spellChar, if_pos (by omega)]
      rfl
  | plain quote slash high =>
      exact quotedUnits.eq_4 _ _ (fun _ _ _ _ _ same => absurd same slash) fun _ _ same => absurd same slash

theorem quotedUnits_flatMap_quoteChar (characters rest : List Char) :
    quotedUnits (characters.flatMap quoteChar ++ rest) = Units.spell characters ++ quotedUnits rest := by
  induction characters with
  | nil => rfl
  | cons character others ih =>
      rw [List.flatMap_cons, List.append_assoc, quotedUnits_quoteChar, ih, ← List.append_assoc]
      rfl

end Json

/-!
## Contents
-/

namespace Sentence

variable {half : Nat} {sentence : Sentence}

/-- Half a character is written with four digits. -/
theorem halfChars_eq (least : 0xD800 ≤ half) (most : half < 0xDC00) :
    ∃ a b c d, halfChars half = ['\\', 'u', a, b, c, d] ∧ Json.hex4? a b c d = some half := by
  refine ⟨_, _, _, _, ?_, Json.hex4?_digits (Hex.value?_digitChar (by omega : half / 16 / 16 / 16 < 16))
    (Hex.value?_digitChar (by omega : half / 16 / 16 % 16 < 16)) (Hex.value?_digitChar (by omega : half / 16 % 16 < 16))
    (Hex.value?_digitChar (by omega : half % 16 < 16)) |>.trans (congrArg some (by omega))⟩
  rw [halfChars, Hex.ofNat, Nat.toDigits_eq_if (by decide), if_neg (by omega), Nat.toDigits_eq_if (by decide),
    if_neg (by omega), Nat.toDigits_eq_if (by decide), if_neg (by omega), Nat.toDigits_eq_if (by decide),
    if_pos (by omega)]
  rfl

theorem quoteChars_dots (excerpt : Excerpt) : excerpt.dots.flatMap Json.quoteChar = excerpt.dots := by
  unfold Excerpt.dots
  split
  · decide
  · rfl

/-- What a string ends with: half a character if the excerpt has one, and its dots. -/
def ending (excerpt : Excerpt) : List Char :=
  (excerpt.half.map halfChars).getD [] ++ (excerpt.dots ++ ['"'])

theorem jsonChars_eq (sentence : Sentence) :
    sentence.jsonChars = '"' :: ((sentence.words.toList ++ sentence.excerpt.shown).flatMap Json.quoteChar ++
      ending sentence.excerpt) := by
  simp [jsonChars, ending]

theorem readString?_ending {excerpt : Excerpt} (sound : excerpt.Sound) (rest : List Char) :
    Json.readString? (ending excerpt ++ rest) =
      some ((excerpt.half.map fun _ => '\uFFFD').toList ++ excerpt.dots, rest) := by
  have read : Json.readString? (excerpt.dots ++ '"' :: rest) = some (excerpt.dots, rest) := by
    have quoted := Json.readString?_quoted excerpt.dots rest
    rwa [quoteChars_dots] at quoted
  have split : ending excerpt ++ rest = (excerpt.half.map halfChars).getD [] ++ (excerpt.dots ++ '"' :: rest) := by
    simp [ending]
  rw [split]
  cases held : excerpt.half with
  | none => exact read
  | some half =>
      obtain ⟨least, most⟩ := sound half held
      obtain ⟨a, b, c, d, written, value⟩ := halfChars_eq least most
      -- A dot or a quote follows, so that no second half can.
      have alone : ∀ later, excerpt.dots ++ '"' :: rest ≠ '\\' :: 'u' :: later := by
        intro later
        unfold Excerpt.dots
        split
        · exact fun same => absurd (List.cons.inj same).1 (by decide)
        · exact fun same => absurd (List.cons.inj same).1 (by decide)
      have replaced : Json.unitChar half = '\uFFFD' := if_pos ⟨least, by omega⟩
      rw [Option.map_some, Option.getD_some, written]
      refine (Json.readString?_unit value (.inr alone)).trans ?_
      rw [read, replaced]
      rfl

/-- A sentence is written as a string, in which half a character is read as U+FFFD. -/
theorem spells_jsonChars (sound : sentence.excerpt.Sound) : Json.Spells sentence.jsonChars (.str sentence.text) := by
  have text : sentence.text = String.ofList ((sentence.words.toList ++ sentence.excerpt.shown) ++
      ((sentence.excerpt.half.map fun _ => '\uFFFD').toList ++ sentence.excerpt.dots)) := by
    simp [Sentence.text, Excerpt.text, Excerpt.chars, String.ofList_append]
  rw [jsonChars_eq, text]
  refine Json.spells_string fun rest => ?_
  rw [List.append_assoc]
  exact Json.readString?_flatMap_quoteChar _ (readString?_ending sound rest)

/-- No unit of a sentence is lost in the string. -/
theorem quotedUnits_jsonChars (sound : sentence.excerpt.Sound) :
    Json.quotedUnits sentence.jsonChars.tail =
      Units.spell sentence.words.toList ++ sentence.excerpt.spell ++ Units.spell ['"'] := by
  have closed : Json.quotedUnits (sentence.excerpt.dots ++ ['"']) =
      Units.spell sentence.excerpt.dots ++ Units.spell ['"'] := by
    have units := Json.quotedUnits_flatMap_quoteChar sentence.excerpt.dots ['"']
    rw [quoteChars_dots] at units
    exact units.trans (congrArg _ (by decide))
  have ends : Json.quotedUnits (ending sentence.excerpt) =
      sentence.excerpt.half.toList.map UInt16.ofNat ++ (Units.spell sentence.excerpt.dots ++ Units.spell ['"']) := by
    rw [ending, ← closed]
    cases held : sentence.excerpt.half with
    | none => rfl
    | some half =>
        obtain ⟨least, most⟩ := sound half held
        obtain ⟨a, b, c, d, written, value⟩ := halfChars_eq least most
        rw [Option.map_some, Option.getD_some, written]
        exact Json.quotedUnits_unit value
  rw [jsonChars_eq, List.tail_cons, Json.quotedUnits_flatMap_quoteChar, ends, Excerpt.spell]
  simp [Units.spell]

end Sentence

namespace Audit

namespace Content

/-- Content that its text can hold. -/
def Faithful : Content → Prop
  | .plain value => value.Faithful
  | .told sentence => sentence.excerpt.Sound

/-- The value of content, with its fields as they are listed. -/
def arranged (content : Content) : Json :=
  content.value.arranged

variable {content other : Content}

theorem Faithful.spells (faithful : content.Faithful) : Json.Spells content.chars content.arranged := by
  cases content with
  | plain value => exact Json.Faithful.spells faithful
  | told sentence => exact Sentence.spells_jsonChars faithful

end Content

/-- What content stands for: a text by its units, half a character among them, or another value as it is listed. -/
inductive Meaning where
  | text (units : List UInt16)
  | other (value : Json)

namespace Content

def meaning : Content → Meaning
  | .plain (.str text) => .text (Units.spell text.toList)
  | .plain value => .other value.arranged
  | .told sentence => .text (Units.spell sentence.words.toList ++ sentence.excerpt.spell)

/-- What a text means, out of the value it is read as and the units between its quotes. -/
def meaningOf (value : Json) (chars : List Char) : Meaning :=
  match value with
  | .str _ => .text (Json.quotedUnits chars.tail).dropLast
  | value => .other value

variable {content other : Content}

theorem Faithful.meaning_eq (faithful : content.Faithful) :
    content.meaning = meaningOf content.arranged content.chars := by
  have closed (units : List UInt16) : (units ++ Units.spell ['"']).dropLast = units := List.dropLast_concat
  cases content with
  | told sentence =>
      have units := Sentence.quotedUnits_jsonChars faithful
      rw [meaning, ← closed (Units.spell sentence.words.toList ++ sentence.excerpt.spell), ← units]
      rfl
  | plain value =>
      cases value with
      | str text =>
          have units := Json.quotedUnits_flatMap_quoteChar text.toList ['"']
          rw [meaning, ← closed (Units.spell text.toList)]
          exact congrArg (fun units => Meaning.text (List.dropLast units)) units.symm
      | null => rfl
      | bool => rfl
      | int => rfl
      | real => rfl
      | arr => rfl
      | obj => rfl

/-- What is written of content decides what it means. -/
theorem Faithful.meaning_inj (faithful : content.Faithful) (alsoFaithful : other.Faithful)
    (same : content.chars = other.chars) : content.meaning = other.meaning := by
  have value : content.arranged = other.arranged := by
    apply Option.some.inj
    rw [← faithful.spells.read? (.inl rfl), ← alsoFaithful.spells.read? (.inl rfl), same]
  rw [faithful.meaning_eq, alsoFaithful.meaning_eq, value, same]

end Content

/-!
## Lines
-/

namespace Record

/-- A record that its line can hold: no field stands twice. -/
structure Faithful (record : Record) : Prop where
  distinct : (Assoc.names record).Nodup
  contents : ∀ field ∈ record, field.2.Faithful

/-- The fields that the line of a record has. -/
def stamped (record : Record) (timestamp : String) : Record :=
  record.insert "timestamp" (.plain (.str timestamp))

variable {record other : Record}

theorem Faithful.stamped (faithful : record.Faithful) (timestamp : String) : (record.stamped timestamp).Faithful := by
  refine ⟨Assoc.nodup_insert faithful.distinct, ?_⟩
  intro field member
  rcases Assoc.mem_insert member with rfl | among
  · exact Json.Faithful.str timestamp
  · exact faithful.contents field among

theorem get?_stamped (record : Record) (timestamp name : String) :
    Assoc.get? (record.stamped timestamp) name =
      if name = "timestamp" then some (.plain (.str timestamp)) else record.get? name :=
  Assoc.get?_insert record "timestamp" name (.plain (.str timestamp))

theorem stamped_ne_nil (record : Record) (timestamp : String) : record.stamped timestamp ≠ [] := by
  intro empty
  have held := get?_stamped record timestamp "timestamp"
  rw [empty] at held
  cases held

/-- The fields that are read of the line of a record, in the order in which they are written. -/
def readBack (record : Record) (timestamp : String) : Json.Fields :=
  (Json.listed (record.stamped timestamp)).map fun field => (field.1, field.2.arranged)

theorem Faithful.nodup_readBack (faithful : record.Faithful) (timestamp : String) :
    (record.readBack timestamp).names.Nodup := by
  rw [readBack, Assoc.names, List.map_map]
  exact Json.nodup_names_listed (faithful.stamped timestamp).distinct

theorem Faithful.get?_readBack (faithful : record.Faithful) (timestamp name : String) :
    (record.readBack timestamp).get? name =
      if name = "timestamp" then some (.str timestamp) else (record.get? name).map Content.arranged := by
  have stamped := faithful.stamped timestamp
  have unordered := Assoc.get?_perm (Json.listed_perm (record.stamped timestamp))
    (Json.nodup_names_listed stamped.distinct) name
  rw [readBack, Assoc.get?_map Content.arranged, unordered, get?_stamped]
  split
  · rfl
  · rfl

theorem toList_line (record : Record) (timestamp : String) :
    (record.line timestamp).toList = '\x7b' :: (Json.commaSeparated ((Json.listed (record.stamped timestamp)).map
      fun field => Json.fieldPiece (field.1, field.2.chars)) ++ ['\x7d', '\n']) := by
  rw [line, String.toList_ofList, Json.objectChars_map, List.cons_append, List.append_assoc]
  rfl

theorem Faithful.spells_stamped (faithful : record.Faithful) (timestamp : String) :
    ∀ field ∈ Json.listed (record.stamped timestamp), Json.Spells field.2.chars field.2.arranged := by
  intro field member
  exact ((faithful.stamped timestamp).contents field ((Json.listed_perm _).mem_iff.mp member)).spells

theorem listed_stamped_ne_nil (record : Record) (timestamp : String) : Json.listed (record.stamped timestamp) ≠ [] := by
  intro empty
  have perm := Json.listed_perm (record.stamped timestamp)
  rw [empty] at perm
  exact stamped_ne_nil record timestamp perm.nil_eq.symm

/-- The fields of a line are read one after another, and nothing but the line break is left. -/
theorem Faithful.readFields?_line (faithful : record.Faithful) (timestamp : String) :
    ∃ others, (record.line timestamp).toList = '\x7b' :: others ∧
      Json.readFields? others.length others = some (record.readBack timestamp, ['\n']) := by
  refine ⟨_, toList_line record timestamp, ?_⟩
  apply Json.readFields?_commaSeparated (faithful.spells_stamped timestamp) (listed_stamped_ne_nil record timestamp)
  rw [List.length_append]
  exact Nat.lt_add_of_pos_right Nat.two_pos

/-- The line of a record is read as an object that has the fields of the record and the time. -/
theorem Faithful.read?_line (faithful : record.Faithful) (timestamp : String) :
    Json.read? (record.line timestamp) = some (.obj (record.readBack timestamp)) := by
  have stamped := faithful.stamped timestamp
  have spells := Json.spells_obj (fun field member => (stamped.contents field member).spells) stamped.distinct
  exact spells.read? (.inr rfl)

/-- The line of a record decides what is under each name. -/
theorem Faithful.meaning_stamped (faithful : record.Faithful) (alsoFaithful : other.Faithful) {timestamp time : String}
    (same : record.line timestamp = other.line time) (name : String) :
    (Assoc.get? (record.stamped timestamp) name).map Content.meaning =
      (Assoc.get? (other.stamped time) name).map Content.meaning := by
  have stamped := faithful.stamped timestamp
  have alsoStamped := alsoFaithful.stamped time
  have lines := congrArg String.toList same
  rw [toList_line, toList_line] at lines
  have pieces := congrArg (Assoc.get? · name) (Json.fieldPieces_inj (faithful.spells_stamped timestamp)
    (alsoFaithful.spells_stamped time) (listed_stamped_ne_nil record timestamp) (listed_stamped_ne_nil other time)
    (List.cons.inj lines).2)
  simp only [Assoc.get?_map] at pieces
  rw [Assoc.get?_perm (Json.listed_perm _) (Json.nodup_names_listed stamped.distinct),
    Assoc.get?_perm (Json.listed_perm _) (Json.nodup_names_listed alsoStamped.distinct)] at pieces
  cases held : Assoc.get? (record.stamped timestamp) name with
  | none =>
      rw [held, Option.map_none, eq_comm, Option.map_eq_none_iff] at pieces
      rw [pieces]
  | some content =>
      rw [held, Option.map_some, eq_comm, Option.map_eq_some_iff] at pieces
      obtain ⟨written, alsoHeld, chars⟩ := pieces
      have first := stamped.contents _ ((Assoc.get?_eq_some_iff stamped.distinct).mp held)
      have second := alsoStamped.contents _ ((Assoc.get?_eq_some_iff alsoStamped.distinct).mp alsoHeld)
      rw [alsoHeld, Option.map_some, Option.map_some, first.meaning_inj second chars.symm]

theorem Faithful.line_inj (faithful : record.Faithful) (alsoFaithful : other.Faithful) {timestamp time : String}
    (same : record.line timestamp = other.line time) :
    timestamp = time ∧ ∀ name, name ≠ "timestamp" →
      (Assoc.get? record name).map Content.meaning = (Assoc.get? other name).map Content.meaning := by
  constructor
  · have stamp := faithful.meaning_stamped alsoFaithful same "timestamp"
    rw [get?_stamped, get?_stamped, if_pos rfl, if_pos rfl] at stamp
    have units := Meaning.text.inj (Option.some.inj stamp)
    rw [← String.toList_inj, ← Units.read_spell timestamp.toList, units, Units.read_spell]
  · intro name own
    have meant := faithful.meaning_stamped alsoFaithful same name
    rwa [get?_stamped, get?_stamped, if_neg own, if_neg own] at meant

end Record

/-- The entries of the program name no field twice, so that only what is in them decides. -/
theorem Entry.faithful_record (entry : Entry) (contents : ∀ field ∈ entry.record, field.2.Faithful) :
    entry.record.Faithful := by
  refine ⟨?_, contents⟩
  cases entry with
  | probeTrusted => exact (by decide : ["url", "scope", "event", "status"].Nodup)
  | probeUntrusted => exact (by decide : ["url", "scope", "event", "reason"].Nodup)
  | bootstrapVerified => exact (by decide : ["url", "scope", "event", "checksum", "bytes"].Nodup)
  | bootstrapEmpty => exact (by decide : ["url", "scope", "event"].Nodup)
  | bootstrapFailed _ _ _ _ status =>
      cases status with
      | none => exact (by decide : ["url", "scope", "event", "error_type", "reason"].Nodup)
      | some => exact (by decide : ["url", "scope", "event", "error_type", "reason", "status"].Nodup)
  | fetchOk => exact (by decide : ["event", "url", "scope", "pinned", "checksum", "bytes"].Nodup)
  | fetchHardware => exact (by decide : ["event", "url", "checksum", "bytes"].Nodup)
  | fetchFailed _ _ _ status =>
      cases status with
      | none => exact (by decide : ["event", "url", "error_type", "reason"].Nodup)
      | some => exact (by decide : ["event", "url", "error_type", "reason", "status"].Nodup)
  | clientSecretUpdated => exact (by decide : ["event", "secret", "api_server_url", "api_server_ca_checksum"].Nodup)

/-- A line of the audit trail is printable up to the line break at its end, and it is read as an object that has the time
and the fields of its record, each of them once. Lines that agree are of records that agree, whatever is in them. -/
theorem lines_read_back (record : Record) (faithful : record.Faithful) (timestamp : String) :
    (∃ body, (record.line timestamp).toList = body ++ ['\n'] ∧ Printable body) ∧
    (∃ fields : Json.Fields, Json.read? (record.line timestamp) = some (.obj fields) ∧
      (∃ others, (record.line timestamp).toList = '\x7b' :: others ∧
        Json.readFields? others.length others = some (fields, ['\n'])) ∧
      fields.names.Nodup ∧
      ∀ name, fields.get? name =
        if name = "timestamp" then some (.str timestamp) else (record.get? name).map Content.arranged) ∧
    ∀ (other : Record) (time : String), other.Faithful → record.line timestamp = other.line time →
      timestamp = time ∧ ∀ name, name ≠ "timestamp" →
        (record.get? name).map Content.meaning = (Assoc.get? other name).map Content.meaning := by
  refine ⟨?_, ?_, ?_⟩
  · refine ⟨'{' :: (record.inner timestamp ++ ['}']), ?_, ?_⟩
    · rw [record.line_eq, List.cons_append, List.cons_append, List.append_assoc]
      rfl
    · exact .cons (by decide) ((record.printable_inner timestamp).append (by decide))
  · exact ⟨record.readBack timestamp, faithful.read?_line timestamp, faithful.readFields?_line timestamp,
      faithful.nodup_readBack timestamp, faithful.get?_readBack timestamp⟩
  · intro other time alsoFaithful same
    exact faithful.line_inj alsoFaithful same

/-- A record that quotes what a server has sent, up to half a character, and has a time of its own. -/
def quoting : Record :=
  [("event", .plain (.str "PROBE_UNTRUSTED")), ("timestamp", .plain (.str "yesterday")),
    ("reason", .told ⟨"the server says ", ⟨['"', ',', '"', 'e', '"', ':', '\n', '\\'], some 0xD83D, true⟩⟩),
    ("detail", .plain (.obj [("b", .arr [.int (-3), .null]), ("2", .bool true),
      ("10", .real ⟨false, 0x1999999999999A, -56⟩)]))]

theorem faithful_quoting : quoting.Faithful := by
  have tenth : (Json.real ⟨false, 0x1999999999999A, -56⟩).Faithful := by
    refine .real ⟨by decide, by decide, by decide, by decide, .inr (by decide)⟩ fun integer _ same => ?_
    have whole : (0x1999999999999A : ℚ) = integer * 2 ^ 56 := by
      rw [← same, Real64.magnitude]
      norm_num
    have whole : 0x1999999999999A = integer * 2 ^ 56 := by exact_mod_cast whole
    omega
  have list : (Json.arr [.int (-3), .null]).Faithful := by
    refine .arr ?_
    simp only [List.forall_mem_cons, List.not_mem_nil, false_imp_iff, implies_true, and_true]
    exact ⟨.int (by decide), .null⟩
  have detail : (Json.obj [("b", .arr [.int (-3), .null]), ("2", .bool true),
      ("10", .real ⟨false, 0x1999999999999A, -56⟩)]).Faithful := by
    refine .obj (by decide) ?_
    simp only [List.forall_mem_cons, List.not_mem_nil, false_imp_iff, implies_true, and_true]
    exact ⟨list, .bool true, tenth⟩
  refine ⟨by decide, ?_⟩
  simp only [quoting, List.forall_mem_cons, List.not_mem_nil, false_imp_iff, implies_true, and_true]
  refine ⟨.str _, .str _, ?_, detail⟩
  intro half held
  cases held
  decide

/-- The line of such a record has one time, and what the server has sent stays in its string. -/
theorem lines_read_back_quoting :
    (∃ fields : Json.Fields, Json.read? (quoting.line "now") = some (.obj fields) ∧ fields.names.Nodup ∧
      fields.get? "timestamp" = some (.str "now") ∧ fields.get? "e" = none ∧
      fields.get? "reason" = some (.str "the server says \",\"e\":\n\\\uFFFD...")) ∧
    ∀ time, quoting.line "now" = quoting.line time → "now" = time := by
  obtain ⟨_, ⟨fields, read, _, distinct, held⟩, decides⟩ := lines_read_back quoting faithful_quoting "now"
  refine ⟨⟨fields, read, distinct, held _, (held _).trans (by decide), ?_⟩, ?_⟩
  · exact (held _).trans rfl
  · intro time same
    exact (decides quoting time faithful_quoting same).1

end Audit

end JoinTrust
