import JoinTrust.Audit
import JoinTrust.Integrity
import JoinTrust.Workflow
import Mathlib.Tactic.SplitIfs

set_option autoImplicit false

/-!
Texts without control characters. Whatever the values in it are, a JSON text has none, because strings are
quoted character by character; the line of a record has one, at its end. An escaped text may have control
characters, but no line break.
-/

namespace JoinTrust.Text

/-- No character is a control character below the blank. -/
def Printable (characters : List Char) : Prop :=
  ∀ character ∈ characters, 0x20 ≤ character.toNat

instance (characters : List Char) : Decidable (Printable characters) :=
  List.decidableBAll _ characters

/-- No character breaks a line. -/
def Unbroken (characters : List Char) : Prop :=
  ∀ character ∈ characters, character ≠ '\n' ∧ character ≠ '\r'

instance (characters : List Char) : Decidable (Unbroken characters) :=
  List.decidableBAll _ characters

namespace Printable

variable {first rest characters : List Char} {character : Char}

theorem nil : Printable [] :=
  fun _ member => by cases member

theorem cons (printable : 0x20 ≤ character.toNat) (after : Printable rest) : Printable (character :: rest) :=
  List.forall_mem_cons.mpr ⟨printable, after⟩

theorem append (before : Printable first) (after : Printable rest) : Printable (first ++ rest) :=
  List.forall_mem_append.mpr ⟨before, after⟩

theorem subset (printable : Printable characters) (within : ∀ character ∈ rest, character ∈ characters) :
    Printable rest :=
  fun character member => printable character (within character member)

theorem flatMap {α : Type} {pieces : List α} {spell : α → List Char}
    (printable : ∀ piece ∈ pieces, Printable (spell piece)) : Printable (pieces.flatMap spell) := by
  intro character member
  obtain ⟨piece, among, inside⟩ := List.mem_flatMap.mp member
  exact printable piece among character inside

theorem replicate {count : Nat} (printable : 0x20 ≤ character.toNat) :
    Printable (List.replicate count character) := by
  intro other member
  rw [(List.mem_replicate.mp member).2]
  exact printable

theorem take (printable : Printable characters) (count : Nat) : Printable (characters.take count) :=
  printable.subset fun _ => List.mem_of_mem_take

theorem drop (printable : Printable characters) (count : Nat) : Printable (characters.drop count) :=
  printable.subset fun _ => List.mem_of_mem_drop

theorem ite {test : Prop} [Decidable test] (yes : Printable first) (no : Printable rest) :
    Printable (if test then first else rest) := by
  split
  · exact yes
  · exact no

theorem unbroken (printable : Printable characters) : Unbroken characters := by
  intro character member
  have above := printable character member
  constructor
  · rintro rfl
    exact absurd above (by decide)
  · rintro rfl
    exact absurd above (by decide)

end Printable

/-!
## Numbers
-/

theorem printable_toDigits {base : Nat} (radix : 1 < base) (small : base ≤ 16) (number : Nat) :
    Printable (Nat.toDigits base number) := by
  have digit : ∀ value < 16, 0x20 ≤ (Nat.digitChar value).toNat := by decide
  induction number using Nat.strongRecOn with
  | ind number ih =>
      rw [Nat.toDigits_eq_if radix]
      split
      · next single => exact .cons (digit number (by omega)) .nil
      · next several =>
          have smaller : number / base < number := Nat.div_lt_self (by omega) radix
          have last : number % base < base := Nat.mod_lt number (by omega)
          exact (ih _ smaller).append (.cons (digit _ (by omega)) .nil)

theorem printable_nat (number : Nat) : Printable (toString number).toList := by
  rw [Nat.toString_eq_ofList_toDigits, String.toList_ofList]
  exact printable_toDigits (by decide) (by decide) number

theorem printable_int (number : Int) : Printable (toString number).toList := by
  cases number with
  | ofNat number => exact printable_nat number
  | negSucc number =>
      change Printable ("-" ++ toString number.succ).toList
      rw [String.toList_append]
      exact .append (by decide) (printable_nat _)

theorem printable_hexDigit {value : Nat} (below : value < 16) : 0x20 ≤ (Hex.digit value).toNat := by
  have all : ∀ value < 16, 0x20 ≤ (Hex.digit value).toNat := by decide
  exact all value below

theorem printable_hex (bytes : Bytes) : Printable (Hex.encode bytes).toList := by
  rw [Hex.encode, String.toList_ofList]
  refine .flatMap fun octet _ => ?_
  have high : octet.toNat / 16 < 16 := Nat.div_lt_of_lt_mul octet.toNat_lt
  have low : octet.toNat % 16 < 16 := Nat.mod_lt _ (by decide)
  exact .cons (printable_hexDigit high) (.cons (printable_hexDigit low) .nil)

theorem printable_significant (number : Nat) : Printable (Real64.significant number) := by
  refine (printable_nat number).subset fun character member => ?_
  exact List.mem_reverse.mp ((List.dropWhile_sublist _).subset (List.mem_reverse.mp member))

theorem printable_layout {digits : List Char} (printable : Printable digits) (point : Int) :
    Printable (Real64.layout digits point) := by
  have places : Printable (if digits.length = 1 then [] else '.' :: digits.drop 1) :=
    .ite .nil (.cons (by decide) (printable.drop 1))
  have sign : 0x20 ≤ (if 0 < point then '+' else '-').toNat := by
    split <;> decide
  have exponent : Printable ('e' :: (if 0 < point then '+' else '-') :: (toString (point - 1).natAbs).toList) :=
    .cons (by decide) (.cons sign (printable_nat _))
  have whole : Printable (digits ++ List.replicate (point - digits.length).toNat '0') :=
    printable.append (.replicate (by decide))
  have split : Printable (digits.take point.toNat ++ '.' :: digits.drop point.toNat) :=
    (printable.take _).append (.cons (by decide) (printable.drop _))
  have small : Printable ('0' :: '.' :: List.replicate (-point).toNat '0' ++ digits) :=
    .append (.cons (by decide) (.cons (by decide) (.replicate (by decide)))) printable
  have scientific := ((printable.take 1).append places).append exponent
  exact .ite whole (.ite split (.ite small scientific))

theorem printable_real (value : Real64) : Printable value.text.toList := by
  rw [Real64.text]
  split
  · decide
  · have body := printable_layout (printable_significant value.shortest.1) value.shortest.2
    simp only [String.toList_ofList]
    exact .ite (.cons (by decide) body) body

end JoinTrust.Text

/-!
## JSON
-/

namespace JoinTrust.Json

open Text

theorem printable_quoteChar (character : Char) : Printable (quoteChar character) := by
  have escaped (low : character.toNat < 0x20) :
      Printable ['\\', 'u', '0', '0', Hex.digit (character.toNat / 16), Hex.digit (character.toNat % 16)] := by
    have high : 0x20 ≤ (Hex.digit (character.toNat / 16)).toNat := Text.printable_hexDigit (by omega)
    have low : 0x20 ≤ (Hex.digit (character.toNat % 16)).toNat := Text.printable_hexDigit (by omega)
    exact .append (by decide : Printable ['\\', 'u', '0', '0']) (.cons high (.cons low .nil))
  unfold quoteChar
  refine .ite (by decide) (.ite (by decide) (.ite (by decide) (.ite (by decide) (.ite (by decide)
    (.ite (by decide) (.ite (by decide) ?_))))))
  split
  · next low => exact escaped low
  · next high => exact .cons (by omega) .nil

theorem printable_quoteChars (characters : List Char) : Printable (quoteChars characters) :=
  .cons (by decide) ((Printable.flatMap fun character _ => printable_quoteChar character).append (by decide))

theorem printable_commaSeparated {pieces : List (List Char)} (printable : ∀ piece ∈ pieces, Printable piece) :
    Printable (commaSeparated pieces) := by
  induction pieces with
  | nil => exact .nil
  | cons piece rest ih =>
      obtain ⟨first, later⟩ := List.forall_mem_cons.mp printable
      cases rest with
      | nil => exact first
      | cons next rest => exact first.append (.cons (by decide) (ih later))

theorem mem_of_mem_listed {Value : Type} {fields : List (String × Value)} {field : String × Value}
    (member : field ∈ listed fields) : field ∈ fields := by
  rcases List.mem_append.mp member with indexed | named
  · obtain ⟨⟨index, other⟩, ordered, rfl⟩ := List.mem_map.mp indexed
    obtain ⟨found, among, same⟩ := List.mem_filterMap.mp ((List.mergeSort_perm _ _).mem_iff.mp ordered)
    obtain ⟨number, _, pair⟩ := Option.map_eq_some_iff.mp same
    cases pair
    exact among
  · exact (List.mem_filter.mp named).1

/-- What stands between the braces of an object. -/
def innerChars (fields : List (String × List Char)) : List Char :=
  commaSeparated ((listed fields).map fun field => quoteChars field.1.toList ++ ':' :: field.2)

theorem objectChars_eq (fields : List (String × List Char)) : objectChars fields = '{' :: innerChars fields ++ ['}'] :=
  rfl

theorem printable_innerChars {fields : List (String × List Char)}
    (printable : ∀ field ∈ fields, Printable field.2) : Printable (innerChars fields) := by
  refine printable_commaSeparated ?_
  intro piece member
  obtain ⟨field, among, rfl⟩ := List.mem_map.mp member
  exact (printable_quoteChars _).append (.cons (by decide) (printable field (mem_of_mem_listed among)))

theorem printable_objectChars {fields : List (String × List Char)}
    (printable : ∀ field ∈ fields, Printable field.2) : Printable (objectChars fields) :=
  .append (.cons (by decide) (printable_innerChars printable)) (by decide)

mutual

/-- The text of a value has no control characters, whatever strings it is built from. -/
theorem printable_chars : ∀ value : Json, Printable value.chars
  | .null => by decide
  | .bool true => by decide
  | .bool false => by decide
  | .int value => Text.printable_int value
  | .real value => Text.printable_real value
  | .str value => printable_quoteChars value.toList
  | .arr items => .append (.cons (by decide) (printable_commaSeparated (printable_itemChars items))) (by decide)
  | .obj fields => printable_objectChars (printable_fieldChars fields)

theorem printable_itemChars : ∀ items : List Json, ∀ piece ∈ itemChars items, Printable piece
  | [] => by simp [itemChars]
  | item :: rest => List.forall_mem_cons.mpr ⟨printable_chars item, printable_itemChars rest⟩

theorem printable_fieldChars : ∀ fields : List (String × Json), ∀ field ∈ fieldChars fields, Printable field.2
  | [] => by simp [fieldChars]
  | (_, value) :: rest => List.forall_mem_cons.mpr ⟨printable_chars value, printable_fieldChars rest⟩

end

end JoinTrust.Json

/-!
## Audit lines
-/

namespace JoinTrust

open Text (Printable Unbroken)

theorem Sentence.printable_jsonChars (sentence : Sentence) : Printable sentence.jsonChars := by
  have quoted (characters : List Char) : Printable (characters.flatMap Json.quoteChar) :=
    .flatMap fun character _ => Json.printable_quoteChar character
  have half : Printable ((sentence.excerpt.half.map halfChars).getD []) := by
    cases sentence.excerpt.half with
    | none => exact .nil
    | some half => exact .cons (by decide) (.cons (by decide) (Text.printable_toDigits (by decide) (by decide) half))
  have dots : Printable sentence.excerpt.dots := by
    unfold Excerpt.dots
    split <;> decide
  exact .cons (by decide) ((((quoted _).append (quoted _)).append half).append dots |>.append (by decide))

theorem Audit.Content.printable_chars (content : Content) : Printable content.chars := by
  cases content with
  | plain value => exact value.printable_chars
  | told sentence => exact sentence.printable_jsonChars

namespace Audit.Record

/-- What stands between the braces of the line of a record. -/
def inner (record : Record) (timestamp : String) : List Char :=
  Json.innerChars ((record.insert "timestamp" (.plain (.str timestamp))).map fun field => (field.1, field.2.chars))

theorem printable_inner (record : Record) (timestamp : String) : Printable (record.inner timestamp) := by
  refine Json.printable_innerChars fun field member => ?_
  obtain ⟨⟨name, content⟩, _, rfl⟩ := List.mem_map.mp member
  exact content.printable_chars

/-- The line of a record is one line: between its braces there is no control character. -/
theorem line_eq (record : Record) (timestamp : String) :
    (record.line timestamp).toList = '{' :: record.inner timestamp ++ ['}', '\n'] := by
  simp [line, inner, Json.objectChars_eq, String.toList_ofList]

end Audit.Record

/-!
## Commands
-/

theorem Workflow.unbroken_escape (text : String) : Unbroken (escape text).toList := by
  rw [escape, String.toList_ofList]
  intro character member
  obtain ⟨original, _, inside⟩ := List.mem_flatMap.mp member
  unfold escapeChar at inside
  split_ifs at inside with percent carriage feed
  · exact (by decide : Unbroken ['%', '2', '5']) character inside
  · exact (by decide : Unbroken ['%', '0', 'D']) character inside
  · exact (by decide : Unbroken ['%', '0', 'A']) character inside
  · obtain rfl := List.mem_singleton.mp inside
    exact ⟨feed, carriage⟩

example : Workflow.escape "200 OK\r\n::stop-commands::end" = "200 OK%0D%0A::stop-commands::end" := by decide

end JoinTrust
